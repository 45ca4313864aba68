import ParserGraph.Tree.Edit
import ParserGraph.Wire.Props

/-!
# Edits as values

The written form of edits: a record with the name of the command and its parts.
-/

namespace ParserGraph

namespace NodeId

/-- A node as a value: its number. -/
def toValue (node : NodeId) : Value :=
  .ofNat node.number

def ofValue (value : Value) : Wire.Reads NodeId :=
  (Wire.readNat value).map NodeId.mk

end NodeId

namespace Edit

/-- The parts of a command with their names, the name of the command in front. -/
def fields : Edit → List (String × Value)
  | .create tag props => [("tag", .text tag), ("props", props.toValue)]
  | .update node delta => [("node", node.toValue), ("delta", delta.toValue)]
  | .appendChild parent child => [("parent", parent.toValue), ("child", child.toValue)]
  | .insertBefore parent child before =>
      [("parent", parent.toValue), ("child", child.toValue), ("before", before.toValue)]
  | .removeChild parent child => [("parent", parent.toValue), ("child", child.toValue)]
  | .destroy node => [("node", node.toValue)]
  | .setRoot node => [("node", node.toValue)]
  | .clearRoot => []

def toValue (edit : Edit) : Value :=
  .ofFields (("op", .text edit.name) :: edit.fields)

/-- The parts of a command that has props: what they belong to, and the props. -/
def readWithProps {Subject : Type} (identity : Nat) (subjectName propsName : String)
    (readSubject : Value → Wire.Reads Subject) (parts : Value) :
    Wire.Reads (Subject × Props) := do
  let start : Option Subject × Props := (none, {})
  let (subject, props) ← Wire.readFields [subjectName, propsName] parts
    (fun (subject, props) (name, value) => do
      if name == subjectName then
        pure (some (← readSubject value), props)
      else
        pure (subject, ← Props.ofValue identity value))
    start
  match subject with
  | some subject => pure (subject, props)
  | none => throw .shape

/-- The one node that a command is about. -/
def readNode (value : Value) : Wire.Reads NodeId := do
  let record ← Wire.readRecord ["node"] value
  Wire.required record "node" NodeId.ofValue

/-- The parent and the child that a command is about. -/
def readLink (value : Value) : Wire.Reads (NodeId × NodeId) := do
  let record ← Wire.readRecord ["parent", "child"] value
  let parent ← Wire.required record "parent" NodeId.ofValue
  let child ← Wire.required record "child" NodeId.ofValue
  pure (parent, child)

/-- A command without parts. -/
def readNothing : Value → Wire.Reads Unit
  | .array (_ :: _) => .error .shape
  | _ => .ok ()

/-- An edit from a value, the transform of its props with a given identity. -/
def ofValue (identity : Nat) (value : Value) : Wire.Reads Edit := do
  let (name, parts) ← Wire.readTagged "op" value
  match name with
  | "create" => do
      let (tag, props) ← readWithProps identity "tag" "props" Wire.readText parts
      pure (.create tag props)
  | "update" => do
      let (node, delta) ← readWithProps identity "node" "delta" NodeId.ofValue parts
      pure (.update node delta)
  | "appendChild" => do
      let (parent, child) ← readLink parts
      pure (.appendChild parent child)
  | "insertBefore" => do
      let record ← Wire.readRecord ["parent", "child", "before"] parts
      let parent ← Wire.required record "parent" NodeId.ofValue
      let child ← Wire.required record "child" NodeId.ofValue
      let before ← Wire.required record "before" NodeId.ofValue
      pure (.insertBefore parent child before)
  | "removeChild" => do
      let (parent, child) ← readLink parts
      pure (.removeChild parent child)
  | "destroy" => do
      let node ← readNode parts
      pure (.destroy node)
  | "setRoot" => do
      let node ← readNode parts
      pure (.setRoot node)
  | "clearRoot" => do
      readNothing parts
      pure .clearRoot
  | _ => throw .shape

/-- Edits in order, each with identities from its place on. -/
def ofValues (firstIdentity : Nat) : List Value → Wire.Reads (List Edit)
  | [] => .ok []
  | value :: rest => do
      let edit ← ofValue firstIdentity value
      let edits ← ofValues (firstIdentity + 1) rest
      pure (edit :: edits)

/-- A script: an array of edits. -/
def scriptOfValue : Value → Wire.Reads (List Edit)
  | .array values => ofValues 0 values
  | _ => .error .shape

end Edit

end ParserGraph

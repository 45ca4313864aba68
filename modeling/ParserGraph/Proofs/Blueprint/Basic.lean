import ParserGraph.Node.Compile
import ParserGraph.Tree.Basic
import ParserGraph.Tree.Edit

/-!
# Blueprints

A blueprint says what a tree is built of: for each node its kind, its decoration,
its children and its parent, and no parser.  Props are merged at once, so that
nothing is kept aside.  The parser of a node is compiled from scratch, by recursion
over all that lies below it.

The rules by which an edit is refused look at the blueprint and at the parsers of
its nodes.  They take these parsers as an argument, so that the same rules can be
read with parsers from scratch and with parsers that a tree has kept.
-/

namespace ParserGraph

/-- What a blueprint says of a node. -/
structure Entry where
  kind : Kind
  decoration : Decoration := {}
  children : List NodeId := []
  parent : Option NodeId := none

namespace Entry

/-- The entry with props merged into its kind and its decoration. -/
def withProps (props : Props) (entry : Entry) : Entry :=
  { entry with
    kind := entry.kind.withProps props
    decoration := entry.decoration.overlay props }

end Entry

/-- A tree without its parsers. -/
@[ext]
structure Blueprint where
  /-- What is said of each node that there is. -/
  entryOf? : NodeId → Option Entry := fun _ => none
  /-- The number of nodes created so far. -/
  issued : Nat := 0
  /-- The node whose parser is the parser of the whole. -/
  root : Option NodeId := none
  options : TreeOptions := {}

/-- The parser that a kind makes of children, if each of them has one and they can be combined. -/
def Kind.assemble?
    (kind : Kind)
    (children : List NodeId)
    (derived? : NodeId → Option Parser) :
    Option Parser :=
  (children.mapM derived?).bind fun parsers => (kind.combine parsers).toOption

namespace Blueprint

def withOptions (options : TreeOptions) : Blueprint :=
  { options }

def Present (plan : Blueprint) (id : NodeId) : Prop :=
  (plan.entryOf? id).isSome = true

instance (plan : Blueprint) (id : NodeId) : Decidable (plan.Present id) :=
  inferInstanceAs (Decidable (_ = true))

def parent? (plan : Blueprint) (id : NodeId) : Option NodeId :=
  (plan.entryOf? id).bind Entry.parent

/-- The children of a node; none if it is missing. -/
def childrenOf (plan : Blueprint) (id : NodeId) : List NodeId :=
  ((plan.entryOf? id).map Entry.children).getD []

/-- The most children that a node may have; none if it is missing. -/
def roomOf (plan : Blueprint) (id : NodeId) : Nat :=
  ((plan.entryOf? id).map fun entry => entry.kind.maxChildren plan.options).getD 0

/--
A place and all above it, upwards.  Without cycles the way up has no more steps
than there are nodes, which is the fuel.
-/
def lineageFrom (plan : Blueprint) (place : Option NodeId) : List NodeId :=
  climb plan.parent? (plan.issued + 1) place

/-- A node and the nodes above it, upwards. -/
def lineage (plan : Blueprint) (id : NodeId) : List NodeId :=
  plan.lineageFrom (some id)

/-! ## Parsers from scratch -/

/-- The parser of a node, compiled from scratch down to a depth. -/
def compileWithin (plan : Blueprint) : (depth : Nat) → NodeId → Option Parser
  | 0, _ => none
  | depth + 1, id =>
      (plan.entryOf? id).bind fun entry =>
        (entry.kind.assemble? entry.children (plan.compileWithin depth)).map
          entry.decoration.apply

/--
The parser of a node, compiled from scratch.  Nothing lies deeper below a node than
there are nodes, which is the depth.
-/
def compile? (plan : Blueprint) (id : NodeId) : Option Parser :=
  plan.compileWithin (plan.issued + 1) id

/-- The parser of the root, compiled from scratch. -/
def compile (plan : Blueprint) : Except EditError Parser :=
  match plan.root with
  | none => .error .noRoot
  | some root =>
      match plan.compile? root with
      | some parser => .ok parser
      | none => .error (.notCompiled root)

/-! ## Changes -/

def alter (plan : Blueprint) (id : NodeId) (change : Entry → Entry) : Blueprint :=
  { plan with
    entryOf? := fun other =>
      if other = id then (plan.entryOf? other).map change else plan.entryOf? other }

/-- A node more, without children and without a parent. -/
def added (plan : Blueprint) (entry : Entry) : Blueprint :=
  { plan with
    entryOf? := fun other =>
      if other = { number := plan.issued + 1 } then some entry else plan.entryOf? other
    issued := plan.issued + 1 }

/-- The children of a node are placed anew. -/
def arranged (plan : Blueprint) (parent : NodeId) (place : List NodeId → List NodeId) :
    Blueprint :=
  plan.alter parent fun entry => { entry with children := place entry.children }

/-- A node is given a parent or loses it. -/
def linked (plan : Blueprint) (child : NodeId) (parent : Option NodeId) : Blueprint :=
  plan.alter child fun entry => { entry with parent }

def detached (plan : Blueprint) (parent child : NodeId) : Blueprint :=
  (plan.arranged parent fun children => children.erase child).linked child none

/-- A node is taken from its parent, if it has one. -/
def freed (plan : Blueprint) (id : NodeId) : Blueprint :=
  match plan.parent? id with
  | some parent => plan.detached parent id
  | none => plan

/-- A node is dropped with all below it. -/
def without (plan : Blueprint) (id : NodeId) : Blueprint :=
  { plan with
    entryOf? := fun other => if id ∈ plan.lineage other then none else plan.entryOf? other
    root := if plan.root = some id then none else plan.root }

/-- What an accepted edit makes of a blueprint. -/
def perform (plan : Blueprint) : Edit → Blueprint
  | .create tag props =>
      match Kind.resolve tag props with
      | .ok kind => plan.added { kind, decoration := Decoration.overlay {} props }
      | .error _ => plan
  | .update node delta => plan.alter node (Entry.withProps delta)
  | .appendChild parent child =>
      (plan.arranged parent fun children => children ++ [child]).linked child (some parent)
  | .insertBefore parent child before =>
      if child ∈ plan.childrenOf parent then
        if child = before then plan
        else
          plan.arranged parent fun children =>
            Node.insertChild (children.erase child) child before
      else
        (plan.arranged parent fun children =>
          Node.insertChild children child before).linked child (some parent)
  | .removeChild parent child => plan.detached parent child
  | .destroy node => (plan.freed node).without node
  | .setRoot node => { plan with root := some node }
  | .clearRoot => { plan with root := none }

/-! ## Rules -/

/-- The entry of a node, which must be there. -/
def entry (plan : Blueprint) (id : NodeId) : Except EditError Entry :=
  match plan.entryOf? id with
  | some entry => .ok entry
  | none => .error (.nodeNotFound id)

/-- A child may be put below a parent: it is free, and the parent is not below it. -/
def checkAttachable (plan : Blueprint) (parent child : NodeId) : Except EditError Unit := do
  let parentEntry ← plan.entry parent
  let childEntry ← plan.entry child
  if parentEntry.kind.isLeaf then
    .error (.leafChild parent)
  else if childEntry.parent.isSome || plan.root == some child then
    .error (.alreadyAttached child)
  else if child ∈ plan.lineage parent then
    .error .cycleDetected
  else
    .ok ()

/-- A parent has room for a child more. -/
def checkCapacity (plan : Blueprint) (parent : NodeId) : Except EditError Unit := do
  let entry ← plan.entry parent
  if entry.kind.maxChildren plan.options ≤ entry.children.length then
    .error (.arityExceeded parent entry.kind.tag (entry.kind.maxChildren plan.options))
  else
    .ok ()

/-- A child may be put behind the other children of a parent. -/
def checkAppend (plan : Blueprint) (parent child : NodeId) : Except EditError Unit := do
  plan.checkAttachable parent child
  plan.checkCapacity parent

/-- A child may be put in front of another; one of the same parent is moved. -/
def checkInsert (plan : Blueprint) (parent child before : NodeId) : Except EditError Unit := do
  let parentEntry ← plan.entry parent
  if parentEntry.kind.isLeaf then
    .error (.leafChild parent)
  else do
    let _ ← plan.entry child
    if before ∉ parentEntry.children then
      .error (.childNotFound parent before)
    else if child ∈ parentEntry.children then
      .ok ()
    else
      plan.checkAppend parent child

section Parsers

variable (derived? : NodeId → Option Parser)

/-- A child may be taken from its parent, which may not lose its last one once it has a parser. -/
def checkDetach (plan : Blueprint) (parent child : NodeId) : Except EditError Unit := do
  let entry ← plan.entry parent
  if child ∉ entry.children then
    .error (.childNotFound parent child)
  else if (derived? parent).isSome && entry.children.length == 1 then
    .error (.arityUnderflow parent entry.kind.tag)
  else
    .ok ()

/-- Props may be merged: what has a parser can still be combined, if its kind changes. -/
def checkUpdate (plan : Blueprint) (id : NodeId) (delta : Props) : Except EditError Unit := do
  let entry ← plan.entry id
  let kind := entry.kind.withProps delta
  if (derived? id).isSome && !kind.same entry.kind then
    match entry.children.mapM derived? with
    | some parsers => (kind.combine parsers).map fun _ => ()
    | none => .error (.notCompiled id)
  else
    .ok ()

/-- A node may be dropped: it is there, and its parent can do without it. -/
def checkDestroy (plan : Blueprint) (id : NodeId) : Except EditError Unit := do
  let entry ← plan.entry id
  match entry.parent with
  | some parent => plan.checkDetach derived? parent id
  | none => .ok ()

/-- A new node has a kind, and a leaf has a parser. -/
def checkCreate (tag : String) (props : Props) : Except EditError Unit := do
  let kind ← Kind.resolve tag props
  if kind.isLeaf then (kind.combine []).map fun _ => () else .ok ()

/-- A node may become the root: it has no parent. -/
def checkRoot (plan : Blueprint) (id : NodeId) : Except EditError Unit := do
  let entry ← plan.entry id
  if entry.parent.isSome then .error (.alreadyAttached id) else .ok ()

/--
The answer to an edit, given the parsers of the nodes: the node that the edit is
about, if that is still there, or why the edit is refused.
-/
def verdict (plan : Blueprint) : Edit → Except EditError (Option NodeId)
  | .create tag props =>
      (checkCreate tag props).map fun _ => some { number := plan.issued + 1 }
  | .update node delta => (plan.checkUpdate derived? node delta).map fun _ => some node
  | .appendChild parent child => (plan.checkAppend parent child).map fun _ => some parent
  | .insertBefore parent child before =>
      (plan.checkInsert parent child before).map fun _ => some parent
  | .removeChild parent child =>
      (plan.checkDetach derived? parent child).map fun _ => some parent
  | .destroy node => (plan.checkDestroy derived? node).map fun _ => none
  | .setRoot node => (plan.checkRoot node).map fun _ => some node
  | .clearRoot => .ok none

end Parsers

/-- An edit is applied, with parsers from scratch; a refused one changes nothing. -/
def apply (plan : Blueprint) (edit : Edit) : Except EditError (Option NodeId) × Blueprint :=
  match plan.verdict plan.compile? edit with
  | .ok result => (.ok result, plan.perform edit)
  | .error error => (.error error, plan)

end Blueprint

end ParserGraph

import ParserGraph.CommandLine.Arguments
import ParserGraph.CommandLine.Directory
import ParserGraph.CommandLine.Settings
import ParserGraph.Parser.Scan
import ParserGraph.Report
import ParserGraph.Tree.Apply
import ParserGraph.Tree.Display
import ParserGraph.Wire.Edit

/-!
# Sessions of the command line

What the tool answers to its arguments, given the files that it can read and its
standard input: a status, two texts, and the files that it writes.
-/

namespace ParserGraph

/-- Edits applied in order to a tree; the number and the edit that was refused first, and why. -/
def Tree.replay (tree : Tree) : (number : Nat) → List Edit →
    Except (Nat × Edit × EditError) Tree
  | _, [] => .ok tree
  | number, edit :: rest =>
      match tree.apply edit with
      | (.ok _, next) => next.replay (number + 1) rest
      | (.error error, _) => .error (number, edit, error)

/-- Which edit was refused, in words. -/
def Edit.refusal (edit : Edit) (number : Nat) : String :=
  s!"edit #{number} ({edit.name}) was rejected"

namespace CommandLine

/-- What the tool can read. -/
structure Sources where
  read : String → Except FileError String
  /-- The standard input. -/
  stdin : String

namespace Sources

def exists? (sources : Sources) (name : String) : Bool :=
  match sources.read name with
  | .error .missing => false
  | _ => true

end Sources

/-- What the tool answers. -/
structure Response where
  status : UInt32 := 0
  /-- The text for the standard output. -/
  output : String := ""
  /-- The text for the standard error. -/
  errors : String := ""
  written : Directory := []

/-- Why a command fails: what is shown in front of the error, and the error in words. -/
structure Trouble where
  shown : String := ""
  message : String

namespace Trouble

/-- The response to a command that fails. -/
def response (trouble : Trouble) : Response :=
  { status := 1, errors := trouble.shown ++ "\nError: " ++ trouble.message ++ "\n\n" }

end Trouble

def settingsName : String := "knit.config.json"

def exampleName : String := "example.knit.json"

/-- The settings in force: those of the file, if there is one. -/
def loadSettings (sources : Sources) : Except Trouble Settings :=
  if sources.exists? settingsName then
    match sources.read settingsName with
    | .error error => .error { message := error.message }
    | .ok text =>
        match Settings.ofText? text with
        | some settings => .ok settings
        | none => .error { message := s!"{settingsName} does not hold settings" }
  else
    .ok {}

def loadTree (sources : Sources) (script : String) (options : TreeOptions) :
    Except Trouble Tree := do
  let text ←
    match sources.read script with
    | .ok text => pure text
    | .error error =>
        throw { message := s!"cannot read edit script {script}: {error.message}" }
  let edits ←
    match (Value.read? text).map Edit.scriptOfValue with
    | some (.ok edits) => pure edits
    | some (.error error) =>
        throw
          { message := s!"{script} is not a valid edit script: " ++
              error.message?.getD "it is no list of edits" }
    | none => throw { message := s!"{script} is not a valid edit script: it is no JSON" }
  match (Tree.withOptions options).replay 1 edits with
  | .ok tree => pure tree
  | .error (number, edit, error) =>
      throw { message := edit.refusal number ++ ": " ++ error.message }

/-- The input of a run: the given text, a file or the standard input. -/
def loadInput (sources : Sources) (input file : Option String) : Except Trouble String :=
  match input, file with
  | some text, _ => .ok text
  | none, some name =>
      match sources.read name with
      | .ok text => .ok text
      | .error error => .error { message := s!"cannot read input {name}: {error.message}" }
  | none, none => .ok sources.stdin

def respondOutcome (input : String) : Outcome → Response
  | .success value stop =>
      let length := Text.byteLength input.toList
      { output := value.indented ++ "\n"
        errors := if stop < length then s!"matched {stop} of {length} bytes\n" else "" }
  | .failure reason =>
      Trouble.response
        { shown := reason.report input ++ "\n"
          message := "input did not match: " ++ reason.display }

/-- A parser is built from a script and run on an input. -/
def respondRun
    (sources : Sources)
    (script : String)
    (input file : Option String)
    (allowPrefix : Bool)
    (naryCap : Option Nat) :
    Except Trouble Response := do
  let settings ← loadSettings sources
  let options : TreeOptions := { naryChildCap := naryCap.getD settings.tree.naryChildCap }
  let tree ← loadTree sources script options
  let parser ←
    match tree.compile with
    | .ok parser => pure parser
    | .error error =>
        throw { message := "edit script produced no runnable parser: " ++ error.message }
  let input ← loadInput sources input file
  if settings.requireFullInput && !allowPrefix then
    pure (respondOutcome input (parser.parse input))
  else
    pure (respondOutcome input (parser.run input))

/-- A node of an outline on a line of its own, with two spaces for each level. -/
def outlineLine (tree : Tree) (depth : Nat) (node : Node) : String :=
  String.ofList (List.replicate (2 * depth) ' ') ++ node.display ++ " " ++ node.status ++
    (if tree.root = some node.id then " (root)" else "") ++ "\n"

/-- The lines on which the nodes of a tree are shown. -/
def listing (tree : Tree) : List String :=
  tree.outline.map fun (depth, node) => outlineLine tree depth node

/-- The tree of a script is shown. -/
def respondInspect (sources : Sources) (script : String) : Except Trouble Response := do
  let settings ← loadSettings sources
  let tree ← loadTree sources script settings.tree
  pure
    { output := s!"🧶 {tree.nodes.length} nodes after {tree.version} edits\n" ++
        String.join (listing tree) }

/-- The edits of the example: words between commas, each with spaces around it or not. -/
def exampleScript : Value :=
  let node (number : Nat) : NodeId := { number }
  let pattern (source : String) (expected : Option String) : Props :=
    { pattern := some source, expected }
  let edits : List (String × Props) → List Value := fun creations =>
    creations.map fun (tag, props) =>
      .ofFields ([("op", .text "create"), ("tag", .text tag)] ++
        (if props.isEmpty then [] else [("props", props.toValue)]))
  .array
    (edits
        [("sepBy", { min := some 1 }), ("trim", {}), ("match", pattern "[a-z]+" (some "word")),
         ("match", pattern "\\s+" none)] ++
      [(Edit.appendChild (node 2) (node 3)).toValue,
       (Edit.appendChild (node 2) (node 4)).toValue] ++
      edits [("string", { text := some "," })] ++
      [(Edit.appendChild (node 1) (node 2)).toValue,
       (Edit.appendChild (node 1) (node 5)).toValue,
       (Edit.setRoot (node 1)).toValue])

/-- A directory is set up with settings and, unless there is one, an example. -/
def respondInit (sources : Sources) (naryCap : Nat) (force : Bool) : Response :=
  if sources.exists? settingsName && !force then
    { output := s!"⚠️ {settingsName} already exists\nUse --force to overwrite\n" }
  else
    let settings : Settings := { tree := { naryChildCap := naryCap } }
    let created (name : String) : String := s!"  ✓ Created {name}\n"
    let hasExample := sources.exists? exampleName
    { output :=
        "📝 Initializing knit project...\n" ++ created settingsName ++
          (if hasExample then "" else created exampleName) ++
          s!"\nTry it: knit run {exampleName} \"a, b, c\"\n"
      written :=
        (settingsName, settings.toValue.indented) ::
          (if hasExample then [] else [(exampleName, exampleScript.indented)]) }

/-- How the tool is used. -/
def usage : String :=
  "Usage: knit init [--nary-cap N] [--force]\n" ++
  "       knit run SCRIPT [INPUT] [--file PATH] [--prefix] [--nary-cap N]\n" ++
  "       knit inspect SCRIPT\n"

def Command.files : Command → List String
  | .init _ _ => [settingsName, exampleName]
  | .run script _ file _ _ => [settingsName, script] ++ file.toList
  | .inspect script => [settingsName, script]
  | .version | .help => []

def Command.readsInput : Command → Bool
  | .run _ none none _ _ => true
  | _ => false

def Command.respond (sources : Sources) : Command → Response
  | .init naryCap force => respondInit sources naryCap force
  | .run script input file allowPrefix naryCap =>
      match respondRun sources script input file allowPrefix naryCap with
      | .ok response => response
      | .error trouble => trouble.response
  | .inspect script =>
      match respondInspect sources script with
      | .ok response => response
      | .error trouble => trouble.response
  | .version => { output := "knit 0.1.0\n" }
  | .help => { output := usage }

def respond (sources : Sources) (arguments : List String) : Response :=
  match readCommand? arguments with
  | some command => command.respond sources
  | none => { status := 2, errors := usage }

end CommandLine

end ParserGraph

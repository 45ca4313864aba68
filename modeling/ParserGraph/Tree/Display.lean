import ParserGraph.Text.Quoted
import ParserGraph.Tree.Basic

/-!
# Trees as text

A node on a line: its number and tag, what its kind holds, and its decoration.
-/

namespace ParserGraph

/-- What a kind holds, with a space in front; nothing for most combinators. -/
def Kind.displayDetail : Kind → String
  | .text literal => " " ++ Text.quoted literal
  | .pattern source expected =>
      " /" ++ source ++ "/" ++ ((expected.map fun label => " <" ++ label ++ ">").getD "")
  | .constant value => " = " ++ value.compact
  | .sepBy bounds => " " ++ bounds.display
  | _ => ""

/-- A decoration, each part with a space in front. -/
def Decoration.display (decoration : Decoration) : String :=
  ((decoration.label.map fun label => " label=" ++ Text.quoted label).getD "") ++
    (if decoration.repetition.isConfigured then
      " repeat=" ++ decoration.repetition.display
    else
      "") ++
    ((decoration.transform.map fun transform => " transform=" ++ transform.name).getD "")

namespace Node

def display (node : Node) : String :=
  node.id.display ++ " " ++ node.kind.tag ++ node.kind.displayDetail ++ node.decoration.display

/-- Whether a node has a parser, waits with props, or just waits. -/
def status (node : Node) : String :=
  if node.isCompiled then "compiled" else if node.staged.isSome then "staged" else "pending"

end Node

end ParserGraph

/-!
# Errors of edits

Nodes are known by numbers, and an edit that a tree refuses is refused for one of
the causes listed here.
-/

namespace ParserGraph

/-- What a node is known by. -/
structure NodeId where
  number : Nat
deriving DecidableEq, Repr

namespace NodeId

/-- A node is written as a number sign and its number. -/
def display (node : NodeId) : String :=
  s!"#{node.number}"

end NodeId

/-- Why an edit is refused. -/
inductive EditError where
  | unknownNodeKind (tag : String)
  | missingProp (tag prop : String)
  | invalidPattern (source : String)
  | nodeNotFound (node : NodeId)
  | childNotFound (parent child : NodeId)
  | leafChild (node : NodeId)
  /-- The node has a parent, or is the root. -/
  | alreadyAttached (node : NodeId)
  /-- A node would be below itself. -/
  | cycleDetected
  | arityExceeded (node : NodeId) (tag : String) (max : Nat)
  /-- A compiled node would lose its last child. -/
  | arityUnderflow (node : NodeId) (tag : String)
  | incompleteCombinator (tag : String)
  | noRoot
  | notCompiled (node : NodeId)
deriving DecidableEq, Repr

namespace EditError

def message : EditError → String
  | .unknownNodeKind tag => s!"Unknown node kind: {tag}"
  | .missingProp tag prop => s!"Node kind '{tag}' requires the '{prop}' prop"
  | .invalidPattern source => s!"Invalid pattern /{source}/"
  | .nodeNotFound node => s!"Node not found: {node.display}"
  | .childNotFound parent child =>
      s!"Node {child.display} is not a child of {parent.display}"
  | .leafChild node => s!"Leaf node {node.display} cannot have children"
  | .alreadyAttached node => s!"Node {node.display} is already attached"
  | .cycleDetected => "Would create cycle"
  | .arityExceeded node tag max =>
      s!"Node {node.display} ({tag}) accepts at most {max} children"
  | .arityUnderflow node tag =>
      s!"Removing from {node.display} ({tag}) would leave a compiled node without children"
  | .incompleteCombinator tag => s!"Cannot combine '{tag}' without children"
  | .noRoot => "No root node is set"
  | .notCompiled node => s!"Node {node.display} is not compiled yet"

end EditError

end ParserGraph

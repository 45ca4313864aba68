import ParserGraph.Node.Compile
import ParserGraph.Tree.Edit

/-!
# Trees

A tree keeps its nodes in the order in which they were created.  Every node keeps
the parser that is combined from its children and the decorated parser that is
derived from that, so that an edit compiles anew only what it reaches.  A node
that cannot be compiled yet keeps props aside until it can.
-/

namespace ParserGraph

/-- A node of a tree. -/
structure Node where
  id : NodeId
  kind : Kind
  decoration : Decoration := {}
  children : List NodeId := []
  parent : Option NodeId := none
  combined : Option Parser := none
  /-- The combined parser with the decoration; none until the node can be compiled. -/
  derived : Option Parser := none
  /-- Props that wait until the node is compiled for the first time. -/
  staged : Option Props := none

namespace Node

def isCompiled (node : Node) : Bool :=
  node.derived.isSome

/-- The node with a combined parser and what its decoration makes of that. -/
def withCombined (node : Node) (combined : Option Parser) : Node :=
  { node with combined, derived := combined.map node.decoration.apply }

/-- The children with one put in front of another, or at the end if that is missing. -/
def insertChild (children : List NodeId) (child before : NodeId) : List NodeId :=
  match children with
  | [] => [child]
  | first :: rest =>
      if first = before then child :: first :: rest
      else first :: insertChild rest child before

end Node

/-- The way from an id upwards, as a function tells what is above each id. -/
def climb (parent? : NodeId → Option NodeId) : (fuel : Nat) → Option NodeId → List NodeId
  | 0, _ => []
  | _, none => []
  | fuel + 1, some id => id :: climb parent? fuel (parent? id)

/-- A forest of nodes, of which one tree may be designated by its root. -/
structure Tree where
  /-- The nodes in order of creation. -/
  nodes : List Node := []
  /-- The number of nodes created so far. -/
  issued : Nat := 0
  /-- The node whose parser is the parser of the tree. -/
  root : Option NodeId := none
  options : TreeOptions := {}
  /-- The number of edits that were accepted. -/
  version : Nat := 0

namespace Tree

def withOptions (options : TreeOptions) : Tree :=
  { options }

def get? (tree : Tree) (id : NodeId) : Option Node :=
  tree.nodes.find? fun node => node.id == id

def derived? (tree : Tree) (id : NodeId) : Option Parser :=
  (tree.get? id).bind Node.derived

/-- The derived parsers of a node's children, if all of them have one. -/
def childParsers? (tree : Tree) (node : Node) : Option (List Parser) :=
  node.children.mapM tree.derived?

def compile (tree : Tree) : Except EditError Parser :=
  match tree.root with
  | none => .error .noRoot
  | some root =>
      match tree.derived? root with
      | some parser => .ok parser
      | none => .error (.notCompiled root)

def modify (tree : Tree) (id : NodeId) (change : Node → Node) : Tree :=
  { tree with
    nodes := tree.nodes.map fun node => if node.id == id then change node else node }

def parent? (tree : Tree) (id : NodeId) : Option NodeId :=
  (tree.get? id).bind Node.parent

/--
A node and the nodes above it, upwards.  Without cycles the way up has no more
steps than there are nodes, which is the fuel.
-/
def lineage (tree : Tree) (id : NodeId) : List NodeId :=
  climb tree.parent? (tree.nodes.length + 1) (some id)

end Tree

def nodesWithout (id : NodeId) (nodes : List Node) : List Node :=
  nodes.filter fun node => node.id != id

/-- Nodes without those of an id are fewer, if there was one. -/
theorem length_nodesWithout_lt
    {nodes : List Node}
    {id : NodeId}
    {node : Node}
    (found : nodes.find? (fun node => node.id == id) = some node) :
    (nodesWithout id nodes).length < nodes.length := by
  apply List.length_filter_lt_length_iff_exists.2
  refine ⟨node, List.mem_of_find?_eq_some found, ?_⟩
  have matched := List.find?_some found
  simp only [beq_iff_eq] at matched
  simp [matched]

/--
Nodes met on a walk, each with its depth: a node, then all below its first child,
and so on.  The arguments are the nodes not met yet and the nodes still to be
visited with their depths.
-/
def walk (nodes : List Node) (pending : List (Nat × NodeId)) : List (Nat × Node) :=
  match pending with
  | [] => []
  | (depth, id) :: rest =>
      match _found : nodes.find? fun node => node.id == id with
      | none => walk nodes rest
      | some node =>
          (depth, node) ::
            walk (nodesWithout id nodes) (node.children.map (depth + 1, ·) ++ rest)
termination_by (nodes.length, pending.length)
decreasing_by
  · exact Prod.Lex.right _ (Nat.lt_succ_self _)
  · exact Prod.Lex.left _ _ (length_nodesWithout_lt _found)

namespace Tree

/-- The nodes at the top: the root, if one is set, and the other nodes without a parent. -/
def tops (tree : Tree) : List NodeId :=
  let others := tree.nodes.filter fun node => node.parent.isNone && tree.root != some node.id
  tree.root.toList ++ others.map Node.id

/-- All nodes with their depths, each in front of those below it, from the tops down. -/
def outline (tree : Tree) : List (Nat × Node) :=
  walk tree.nodes (tree.tops.map (0, ·))

/-- The ids of a node and of all nodes below it. -/
def subtree (tree : Tree) (id : NodeId) : List NodeId :=
  (walk tree.nodes [(0, id)]).map fun entry => entry.2.id

end Tree

end ParserGraph

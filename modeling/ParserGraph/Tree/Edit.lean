import ParserGraph.Node.Kind

/-!
# Edits

The commands that build and change a tree, as data.
-/

namespace ParserGraph

/-- A command to a tree. -/
inductive Edit where
  /-- A new node without a parent. -/
  | create (tag : String) (props : Props)
  /-- Props over those of a node. -/
  | update (node : NodeId) (delta : Props)
  | appendChild (parent child : NodeId)
  /-- The child is put in front of another one, or moved there. -/
  | insertBefore (parent child before : NodeId)
  /-- The child stays, without a parent. -/
  | removeChild (parent child : NodeId)
  /-- The node is dropped with all below it. -/
  | destroy (node : NodeId)
  | setRoot (node : NodeId)
  | clearRoot

namespace Edit

def name : Edit → String
  | .create _ _ => "create"
  | .update _ _ => "update"
  | .appendChild _ _ => "appendChild"
  | .insertBefore _ _ _ => "insertBefore"
  | .removeChild _ _ => "removeChild"
  | .destroy _ => "destroy"
  | .setRoot _ => "setRoot"
  | .clearRoot => "clearRoot"

end Edit

end ParserGraph

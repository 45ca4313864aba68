import ParserGraph.Tree.Basic

/-!
# Applying edits

An edit is checked first, then the tree is changed, and then the nodes from the
place of the change upwards are compiled anew.  A change may fail at any step, and
the tree stays as that step found it.
-/

namespace ParserGraph

/-- A step that changes a tree and may fail. -/
abbrev Change (Result : Type) := ExceptT EditError (StateM Tree) Result

namespace Change

/-- The node of an id, which must be there. -/
def node (id : NodeId) : Change Node := do
  match (← get).get? id with
  | some node => pure node
  | none => throw (.nodeNotFound id)

/-- A node, which must be there, is changed. -/
def modifyNode (id : NodeId) (change : Node → Node) : Change Unit := do
  let _ ← node id
  modify fun tree => tree.modify id change

/-- One edit more was accepted. -/
def accept : Change Unit :=
  modify fun tree => { tree with version := tree.version + 1 }

/--
Props are merged into a compiled node.  Its parser is combined anew only if the
props change what its kind holds.
-/
def applyUpdate (id : NodeId) (delta : Props) : Change Unit := do
  let node ← node id
  let kind := node.kind.withProps delta
  let combined ←
    if kind.same node.kind then
      pure node.combined
    else
      match (← get).childParsers? node with
      | some children => some <$> ofExcept (kind.combine children)
      | none => throw (.notCompiled id)
  modifyNode id fun node =>
    { node with kind, decoration := node.decoration.overlay delta }.withCombined combined

/--
A node is combined anew from its children.  Props that waited for its first
parser are merged then.
-/
def refresh (id : NodeId) : Change Unit := do
  let node ← node id
  let combined ←
    if !node.kind.isLeaf && node.children.isEmpty then
      pure none
    else
      match (← get).childParsers? node with
      | some children => some <$> ofExcept (node.kind.combine children)
      | none => pure none
  modifyNode id fun node => node.withCombined combined
  match combined, node.staged with
  | some _, some staged => do
      modifyNode id fun node => { node with staged := none }
      applyUpdate id staged
  | _, _ => pure ()

/-- A node and all nodes above it are combined anew, upwards. -/
def recompileUpwards (id : NodeId) : Change Unit := do
  ((← get).lineage id).forM refresh

/-- A new node without a parent; a leaf is compiled at once. -/
def create (tag : String) (props : Props) : Change NodeId := do
  let kind ← ofExcept (Kind.resolve tag props)
  let base ← if kind.isLeaf then some <$> ofExcept (kind.combine []) else pure none
  let id : NodeId := { number := (← get).issued + 1 }
  let blank : Node := { id, kind }
  let node :=
    if kind.isLeaf then
      { blank with decoration := Decoration.overlay {} props }.withCombined base
    else if props.decoration.isEmpty then
      blank
    else
      { blank with staged := some props.decoration }
  modify fun tree => { tree with nodes := tree.nodes ++ [node], issued := id.number }
  accept
  pure id

/-- Props are merged into a node, or kept aside until it is compiled. -/
def update (id : NodeId) (delta : Props) : Change Unit := do
  let node ← node id
  if node.isCompiled then
    applyUpdate id delta
    match node.parent with
    | some parent => recompileUpwards parent
    | none => pure ()
  else
    modifyNode id fun node =>
      { node with staged := some ((node.staged.getD {}).overlay delta) }
  accept

/-- A node on the way up, which must be there and must not be the given one. -/
def passBelow (child id : NodeId) : Change Unit := do
  if id == child then
    throw .cycleDetected
  let _ ← node id

/-- A child may be put below a parent: it is free, and the parent is not below it. -/
def checkAttachable (parent child : NodeId) : Change Unit := do
  let parentNode ← node parent
  let childNode ← node child
  if parentNode.kind.isLeaf then
    throw (.leafChild parent)
  let tree ← get
  if childNode.parent.isSome || tree.root == some child then
    throw (.alreadyAttached child)
  (tree.lineage parent).forM (passBelow child)

/-- A parent has room for a child more. -/
def checkCapacity (parent : NodeId) : Change Unit := do
  let node ← node parent
  let max := node.kind.maxChildren (← get).options
  if max ≤ node.children.length then
    throw (.arityExceeded parent node.kind.tag max)

/-- A child is put behind the other children of a parent. -/
def appendChild (parent child : NodeId) : Change Unit := do
  checkAttachable parent child
  checkCapacity parent
  modifyNode parent fun node => { node with children := node.children ++ [child] }
  modifyNode child fun node => { node with parent := some parent }
  recompileUpwards parent
  accept

/-- A child is put in front of another; a child of the same parent is moved. -/
def insertBefore (parent child before : NodeId) : Change Unit := do
  let parentNode ← node parent
  if parentNode.kind.isLeaf then
    throw (.leafChild parent)
  let _ ← node child
  if !parentNode.children.contains before then
    throw (.childNotFound parent before)
  if parentNode.children.contains child then
    if child != before then
      modifyNode parent fun node =>
        { node with children := Node.insertChild (node.children.erase child) child before }
  else
    checkAttachable parent child
    checkCapacity parent
    modifyNode parent fun node =>
      { node with children := Node.insertChild node.children child before }
    modifyNode child fun node => { node with parent := some parent }
  recompileUpwards parent
  accept

/-- A child is taken from its parent, which may not lose its last one once it is compiled. -/
def detach (parent child : NodeId) : Change Unit := do
  let node ← node parent
  if !node.children.contains child then
    throw (.childNotFound parent child)
  if node.isCompiled && node.children.length == 1 then
    throw (.arityUnderflow parent node.kind.tag)
  modifyNode parent fun node => { node with children := node.children.erase child }
  modifyNode child fun node => { node with parent := none }
  recompileUpwards parent

/-- A child is taken from its parent and stays. -/
def removeChild (parent child : NodeId) : Change Unit := do
  detach parent child
  accept

/-- A node is taken from its parent, if it has one, and dropped with all below it. -/
def destroy (id : NodeId) : Change Unit := do
  match (← node id).parent with
  | some parent => detach parent id
  | none => pure ()
  modify fun tree =>
    let dropped := tree.subtree id
    { tree with
      root := if tree.root == some id then none else tree.root
      nodes := tree.nodes.filter fun node => !dropped.contains node.id }
  accept

/-- A node without a parent becomes the root. -/
def setRoot (id : NodeId) : Change Unit := do
  if (← node id).parent.isSome then
    throw (.alreadyAttached id)
  modify fun tree => { tree with root := some id }
  accept

/-- No node is the root any more. -/
def clearRoot : Change Unit := do
  modify fun tree => { tree with root := none }
  accept

/-- An edit; the result is the node that it was about, if that is still there. -/
def edit : Edit → Change (Option NodeId)
  | .create tag props => some <$> create tag props
  | .update node delta => do update node delta; pure (some node)
  | .appendChild parent child => do appendChild parent child; pure (some parent)
  | .insertBefore parent child before => do
      insertBefore parent child before
      pure (some parent)
  | .removeChild parent child => do removeChild parent child; pure (some parent)
  | .destroy node => do destroy node; pure none
  | .setRoot node => do setRoot node; pure (some node)
  | .clearRoot => do clearRoot; pure none

end Change

namespace Tree

/-- An edit is applied: the node it was about or why it was refused, and the tree behind it. -/
def apply (tree : Tree) (edit : Edit) : Except EditError (Option NodeId) × Tree :=
  (Change.edit edit).run.run tree

/-- Edits are applied in order, up to the first one that is refused; the last result counts. -/
def applyAll (tree : Tree) : (last : Option NodeId) → List Edit →
    Except EditError (Option NodeId) × Tree
  | last, [] => (.ok last, tree)
  | _, edit :: rest =>
      match tree.apply edit with
      | (.ok result, next) => applyAll next result rest
      | (.error error, next) => (.error error, next)

end Tree

end ParserGraph

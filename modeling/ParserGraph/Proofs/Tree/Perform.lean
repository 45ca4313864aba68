import ParserGraph.Proofs.Blueprint.Changes
import ParserGraph.Proofs.Tree.Recompiling
import ParserGraph.Proofs.Tree.Subtrees

/-!
# Performing accepted edits

What an accepted edit makes of a tree, as a plain function: the tree is changed at
one place, and the nodes from there upwards are compiled anew.  On the blueprint
this is what the edit makes of the blueprint.  A consistent tree, which is well
formed and has all its nodes settled, stays consistent.
-/

namespace ParserGraph

/-! ## Changes of a tree -/

/-- A new node; a leaf has its parser, and another node keeps its decoration aside. -/
def Node.created (id : NodeId) (kind : Kind) (props : Props) : Node :=
  if kind.isLeaf then
    { id, kind, decoration := Decoration.overlay {} props : Node }.withCombined
      (kind.combine []).toOption
  else if props.decoration.isEmpty then
    { id, kind }
  else
    { id, kind, staged := some props.decoration }

namespace Tree

/-- A node more. -/
def added (tree : Tree) (node : Node) : Tree :=
  { tree with nodes := tree.nodes ++ [node], issued := tree.issued + 1 }

/-- The children of a node are placed anew. -/
def arranged (tree : Tree) (parent : NodeId) (place : List NodeId → List NodeId) : Tree :=
  tree.modify parent fun node => { node with children := place node.children }

/-- A node is given a parent or loses it. -/
def linked (tree : Tree) (child : NodeId) (parent : Option NodeId) : Tree :=
  tree.modify child fun node => { node with parent }

def attached (tree : Tree) (parent child : NodeId) (place : List NodeId → List NodeId) :
    Tree :=
  ((tree.arranged parent place).linked child (some parent)).recompiledFrom (some parent)

def detached (tree : Tree) (parent child : NodeId) : Tree :=
  ((tree.arranged parent fun children => children.erase child).linked child none).recompiledFrom
    (some parent)

/-- A node is taken from its parent, if it has one. -/
def freed (tree : Tree) (id : NodeId) : Tree :=
  match tree.parent? id with
  | some parent => tree.detached parent id
  | none => tree

/-- A node is dropped with all below it. -/
def without (tree : Tree) (id : NodeId) : Tree :=
  let dropped := tree.subtree id
  { tree with
    root := if tree.root == some id then none else tree.root
    nodes := tree.nodes.filter fun node => !dropped.contains node.id }

/-- Props are merged into a node, or kept aside until it is compiled. -/
def updated (tree : Tree) (id : NodeId) (delta : Props) : Tree :=
  match tree.get? id with
  | none => tree
  | some node =>
      if node.isCompiled then
        match node.updated tree.derived? delta with
        | .ok next => (tree.put next).recompiledFrom node.parent
        | .error _ => tree
      else
        tree.modify id (Node.stage delta)

/-- What an accepted edit makes of a tree, apart from its version. -/
def perform (tree : Tree) : Edit → Tree
  | .create tag props =>
      match Kind.resolve tag props with
      | .ok kind => tree.added (Node.created { number := tree.issued + 1 } kind props)
      | .error _ => tree
  | .update node delta => tree.updated node delta
  | .appendChild parent child =>
      tree.attached parent child fun children => children ++ [child]
  | .insertBefore parent child before =>
      if child ∈ tree.blueprint.childrenOf parent then
        if child = before then
          tree.recompiledFrom (some parent)
        else
          (tree.arranged parent fun children =>
            Node.insertChild (children.erase child) child before).recompiledFrom (some parent)
      else
        tree.attached parent child fun children => Node.insertChild children child before
  | .removeChild parent child => tree.detached parent child
  | .destroy node => (tree.freed node).without node
  | .setRoot node => { tree with root := some node }
  | .clearRoot => { tree with root := none }

/-- The tree with one more edit counted. -/
def accepted (tree : Tree) : Tree :=
  { tree with version := tree.version + 1 }

/-! ## Finding the nodes again -/

variable {tree : Tree} {id parent child : NodeId} {node : Node}

@[simp]
theorem ids_arranged (tree : Tree) (parent : NodeId) (place : List NodeId → List NodeId) :
    (tree.arranged parent place).nodes.map Node.id = tree.nodes.map Node.id := by
  apply ids_modify
  intro node named
  exact named

@[simp]
theorem ids_linked (tree : Tree) (child : NodeId) (parent : Option NodeId) :
    (tree.linked child parent).nodes.map Node.id = tree.nodes.map Node.id := by
  apply ids_modify
  intro node named
  exact named

@[simp]
theorem ids_attached
    (tree : Tree)
    (parent child : NodeId)
    (arrange : List NodeId → List NodeId) :
    (tree.attached parent child arrange).nodes.map Node.id = tree.nodes.map Node.id := by
  rw [attached, ids_recompiledFrom, ids_linked, ids_arranged]

@[simp]
theorem ids_detached (tree : Tree) (parent child : NodeId) :
    (tree.detached parent child).nodes.map Node.id = tree.nodes.map Node.id := by
  rw [detached, ids_recompiledFrom, ids_linked, ids_arranged]

/-- A change that leaves the parsers of nodes leaves those of the tree. -/
theorem derived?_modify
    {change : Node → Node}
    (keeps : ∀ node, node.id = id → (change node).id = id)
    (same : ∀ node, (change node).derived = node.derived) :
    (tree.modify id change).derived? = tree.derived? := by
  funext other
  unfold derived?
  rw [get?_modify keeps]
  split
  · cases tree.get? other with
    | none => rfl
    | some node => exact same node
  · rfl

theorem get?_added (fresh : tree.get? node.id = none) (other : NodeId) :
    (tree.added node).get? other = if other = node.id then some node else tree.get? other := by
  unfold get? at fresh ⊢
  rw [added, List.find?_append]
  split
  · rename_i equality
    simp [equality, fresh]
  · rename_i different
    simp [Ne.symm different]

/-- The number of the next node is not taken. -/
theorem WellFormed.get?_next (wellFormed : tree.WellFormed) :
    tree.get? { number := tree.issued + 1 } = none := by
  cases found : tree.get? { number := tree.issued + 1 } with
  | none => rfl
  | some node =>
      have bounded := (wellFormed.forest.numbered (present_blueprint found)).2
      exact absurd bounded (Nat.not_succ_le_self _)

theorem get?_without (tree : Tree) (id other : NodeId) :
    (tree.without id).get? other =
      if other ∈ tree.subtree id then none else tree.get? other := by
  rw [get?, without, List.find?_filter]
  split
  · rename_i dropped
    refine List.find?_eq_none.2 ?_
    intro node _ kept
    have both : node.id ∉ tree.subtree id ∧ node.id = other := by simpa using kept
    rw [both.2] at both
    exact both.1 dropped
  · rename_i stays
    congr 1
    funext node
    by_cases named : node.id = other
    · simp [named, stays]
    · simp [named]

/-- In a well-formed tree those nodes are dropped that have the dropped one on their way up. -/
theorem WellFormed.get?_without (wellFormed : tree.WellFormed) (id other : NodeId) :
    (tree.without id).get? other =
      if id ∈ tree.blueprint.lineage other then none else tree.get? other := by
  rw [Tree.get?_without]
  cases found : tree.get? other with
  | none => simp
  | some node => simp only [wellFormed.mem_subtree_iff (present_blueprint found)]

/-! ## Blueprints after a change -/

theorem blueprint_modify
    {change : Node → Node}
    {alter : Entry → Entry}
    (keeps : ∀ node, node.id = id → (change node).id = id)
    (alike : ∀ node, tree.get? id = some node → (change node).entry = alter node.entry) :
    (tree.modify id change).blueprint = tree.blueprint.alter id alter := by
  have entries : ∀ other, ((tree.modify id change).get? other).map Node.entry =
      (tree.blueprint.alter id alter).entryOf? other := by
    intro other
    rw [get?_modify keeps, Blueprint.entryOf?_alter]
    split
    · rename_i equality
      subst equality
      cases found : tree.get? other with
      | none => simp [entryOf?_blueprint_eq_none found]
      | some node => simp [entryOf?_blueprint found, alike node found]
    · rfl
  exact Blueprint.ext (funext entries) rfl rfl rfl

@[simp]
theorem blueprint_arranged (tree : Tree) (parent : NodeId) (place : List NodeId → List NodeId) :
    (tree.arranged parent place).blueprint = tree.blueprint.arranged parent place :=
  blueprint_modify (fun _ named => named) fun _ _ => rfl

@[simp]
theorem blueprint_linked (tree : Tree) (child : NodeId) (parent : Option NodeId) :
    (tree.linked child parent).blueprint = tree.blueprint.linked child parent :=
  blueprint_modify (fun _ named => named) fun _ _ => rfl

@[simp]
theorem blueprint_detached (tree : Tree) (parent child : NodeId) :
    (tree.detached parent child).blueprint = tree.blueprint.detached parent child := by
  rw [detached, blueprint_recompiledFrom, blueprint_linked, blueprint_arranged]
  rfl

@[simp]
theorem blueprint_freed (tree : Tree) (id : NodeId) :
    (tree.freed id).blueprint = tree.blueprint.freed id := by
  rw [freed, Blueprint.freed, parent?_blueprint]
  cases tree.parent? id with
  | none => rfl
  | some parent => exact blueprint_detached tree parent id

@[simp]
theorem blueprint_attached
    (tree : Tree)
    (parent child : NodeId)
    (place : List NodeId → List NodeId) :
    (tree.attached parent child place).blueprint =
      (tree.blueprint.arranged parent place).linked child (some parent) := by
  rw [attached, blueprint_recompiledFrom, blueprint_linked, blueprint_arranged]

theorem blueprint_added
    (next : node.id = { number := tree.issued + 1 })
    (fresh : tree.get? node.id = none) :
    (tree.added node).blueprint = tree.blueprint.added node.entry := by
  have entries : ∀ other, ((tree.added node).get? other).map Node.entry =
      (tree.blueprint.added node.entry).entryOf? other := by
    intro other
    have number : tree.blueprint.issued = tree.issued := rfl
    rw [get?_added fresh, next]
    simp only [Blueprint.added, number]
    split <;> rfl
  exact Blueprint.ext (funext entries) rfl rfl rfl

theorem WellFormed.blueprint_without (wellFormed : tree.WellFormed) (id : NodeId) :
    (tree.without id).blueprint = tree.blueprint.without id := by
  have entries : ∀ other, ((tree.without id).get? other).map Node.entry =
      (tree.blueprint.without id).entryOf? other := by
    intro other
    rw [wellFormed.get?_without, Blueprint.without]
    split <;> simp_all [blueprint]
  refine Blueprint.ext (funext entries) rfl ?_ rfl
  by_cases designated : tree.root = some id <;>
    simp [blueprint, without, Blueprint.without, designated]

/-- A node in the place of another one changes the blueprint as their entries differ. -/
theorem blueprint_put_alter
    {old : Node}
    (found : tree.get? node.id = some old)
    {alter : Entry → Entry}
    (changed : node.entry = alter old.entry) :
    (tree.put node).blueprint = tree.blueprint.alter node.id alter := by
  refine blueprint_modify (fun _ _ => rfl) ?_
  intro other otherFound
  rw [found] at otherFound
  cases otherFound
  exact changed

/-! ## The count of edits -/

@[simp]
theorem version_detached (tree : Tree) (parent child : NodeId) :
    (tree.detached parent child).version = tree.version :=
  version_recompiledFrom _ _

@[simp]
theorem version_freed (tree : Tree) (id : NodeId) : (tree.freed id).version = tree.version := by
  rw [freed]
  split
  · exact version_detached tree _ id
  · rfl

@[simp]
theorem version_updated (tree : Tree) (id : NodeId) (delta : Props) :
    (tree.updated id delta).version = tree.version := by
  rw [updated]
  split
  · rfl
  · split_ifs with compiled
    · split
      · exact version_recompiledFrom _ _
      · rfl
    · rfl

/-- Performing an edit does not count it. -/
@[simp]
theorem version_perform (tree : Tree) (edit : Edit) :
    (tree.perform edit).version = tree.version := by
  cases edit with
  | create tag props =>
      simp only [perform]
      split <;> rfl
  | update node delta => exact version_updated tree node delta
  | appendChild parent child => exact version_recompiledFrom _ _
  | insertBefore parent child before =>
      simp only [perform]
      split_ifs <;> exact version_recompiledFrom _ _
  | removeChild parent child => exact version_detached tree parent child
  | destroy node => exact version_freed tree node
  | setRoot node => rfl
  | clearRoot => rfl

end Tree

end ParserGraph

import ParserGraph.Proofs.Blueprint.Forest

/-!
# Trees and their blueprints

The blueprint of a tree forgets its parsers and merges the props that it keeps
aside.  A tree is well formed if its nodes have different ids and its blueprint is a
forest.  Its ways up are then those of the blueprint.
-/

namespace ParserGraph

namespace Node

/-- What the blueprint of a tree says of a node: props kept aside are merged. -/
def entry (node : Node) : Entry :=
  { kind := node.kind.withProps (node.staged.getD {})
    decoration := node.decoration.overlay (node.staged.getD {})
    children := node.children
    parent := node.parent }

@[simp]
theorem children_entry (node : Node) : node.entry.children = node.children := rfl

@[simp]
theorem parent_entry (node : Node) : node.entry.parent = node.parent := rfl

@[simp]
theorem isLeaf_entry (node : Node) : node.entry.kind.isLeaf = node.kind.isLeaf :=
  Kind.isLeaf_withProps _ _

@[simp]
theorem tag_entry (node : Node) : node.entry.kind.tag = node.kind.tag :=
  Kind.tag_withProps _ _

@[simp]
theorem maxChildren_entry (node : Node) (options : TreeOptions) :
    node.entry.kind.maxChildren options = node.kind.maxChildren options :=
  Kind.maxChildren_withProps _ _ _

end Node

namespace Tree

/-- The tree without its parsers. -/
def blueprint (tree : Tree) : Blueprint :=
  { entryOf? := fun id => (tree.get? id).map Node.entry
    issued := tree.issued
    root := tree.root
    options := tree.options }

/-- A node takes the place of the one with its id. -/
def put (tree : Tree) (node : Node) : Tree :=
  tree.modify node.id fun _ => node

variable {tree : Tree} {id other : NodeId} {node : Node}

/-! ## Looking up nodes -/

theorem id_of_get? (found : tree.get? id = some node) : node.id = id := by
  have matched := List.find?_some found
  simpa using matched

theorem mem_of_get? (found : tree.get? id = some node) : node ∈ tree.nodes :=
  List.mem_of_find?_eq_some found

theorem get?_modify
    {change : Node → Node}
    (keeps : ∀ node, node.id = id → (change node).id = id)
    (other : NodeId) :
    (tree.modify id change).get? other =
      if other = id then (tree.get? other).map change else tree.get? other := by
  have ids : ∀ node : Node, (if node.id == id then change node else node).id = node.id := by
    intro node
    split
    · rename_i matched
      rw [keeps node (beq_iff_eq.1 matched), beq_iff_eq.1 matched]
    · rfl
  unfold get? Tree.modify
  rw [List.find?_map]
  have predicate : ((fun node : Node => node.id == other) ∘
      fun node => if node.id == id then change node else node) =
        fun node => node.id == other := by
    funext node
    simp only [Function.comp_apply, ids]
  rw [predicate]
  cases found : tree.nodes.find? fun node => node.id == other with
  | none => simp
  | some node =>
      have named : node.id = other := id_of_get? found
      by_cases equality : other = id
      · simp [named, equality]
      · simp [named, equality]

theorem get?_put {old : Node} (found : tree.get? node.id = some old) (other : NodeId) :
    (tree.put node).get? other = if other = node.id then some node else tree.get? other := by
  rw [put, get?_modify fun _ _ => rfl]
  split
  · rename_i equality
    rw [equality, found]
    rfl
  · rfl

/-- A node that was put into its place is found there. -/
theorem get?_put_self {old : Node} (found : tree.get? node.id = some old) :
    (tree.put node).get? node.id = some node := by
  rw [get?_put found, if_pos rfl]

/-- Putting a node leaves the parsers of all others. -/
theorem derived?_put_of_ne
    {old : Node}
    (found : tree.get? node.id = some old)
    (different : other ≠ node.id) :
    (tree.put node).derived? other = tree.derived? other := by
  unfold derived?
  rw [get?_put found, if_neg different]

@[simp]
theorem ids_modify
    {change : Node → Node}
    (keeps : ∀ node, node.id = id → (change node).id = id) :
    (tree.modify id change).nodes.map Node.id = tree.nodes.map Node.id := by
  simp only [Tree.modify, List.map_map]
  apply List.map_congr_left
  intro node _
  simp only [Function.comp_apply]
  split
  · rename_i matched
    rw [keeps node (beq_iff_eq.1 matched), beq_iff_eq.1 matched]
  · rfl

@[simp]
theorem ids_put (tree : Tree) (node : Node) :
    (tree.put node).nodes.map Node.id = tree.nodes.map Node.id :=
  ids_modify fun _ _ => rfl

@[simp]
theorem put_put (tree : Tree) {first second : Node} (same : first.id = second.id) :
    (tree.put first).put second = tree.put second := by
  unfold put Tree.modify
  simp only [List.map_map, Tree.mk.injEq, and_true]
  apply List.map_congr_left
  intro node _
  by_cases matched : node.id = second.id
  · simp [same, matched]
  · simp [same, matched]

/-- With different ids, a change of one node is what it makes of that node. -/
theorem modify_congr
    (distinct : (tree.nodes.map Node.id).Nodup)
    (found : tree.get? id = some node)
    {change other : Node → Node}
    (same : change node = other node) :
    tree.modify id change = tree.modify id other := by
  rw [Tree.modify, Tree.modify]
  congr 1
  apply List.map_congr_left
  intro each member
  split
  · rename_i matched
    have itself : each = node :=
      List.inj_on_of_nodup_map distinct member (mem_of_get? found)
        ((beq_iff_eq.1 matched).trans (id_of_get? found).symm)
    rw [itself, same]
  · rfl

/-- With different ids, a change of a node puts the changed node into its place. -/
theorem modify_eq_put
    (distinct : (tree.nodes.map Node.id).Nodup)
    (found : tree.get? id = some node)
    {change : Node → Node}
    (keeps : (change node).id = node.id) :
    tree.modify id change = tree.put (change node) := by
  rw [put, keeps, id_of_get? found]
  exact modify_congr distinct found rfl

/-! ## Well-formed trees -/

/-- The nodes have different ids, and the blueprint is a forest. -/
structure WellFormed (tree : Tree) : Prop where
  distinct : (tree.nodes.map Node.id).Nodup
  forest : tree.blueprint.IsForest

theorem entryOf?_blueprint (found : tree.get? id = some node) :
    tree.blueprint.entryOf? id = some node.entry := by
  simp [blueprint, found]

theorem entryOf?_blueprint_eq_none (missing : tree.get? id = none) :
    tree.blueprint.entryOf? id = none := by
  simp [blueprint, missing]

theorem present_blueprint (found : tree.get? id = some node) : tree.blueprint.Present id :=
  Blueprint.present_of_entryOf? (entryOf?_blueprint found)

theorem exists_get?_of_present (present : tree.blueprint.Present id) :
    ∃ node, tree.get? id = some node := by
  rcases present.exists_entryOf? with ⟨entry, found⟩
  rcases Option.map_eq_some_iff.1 found with ⟨node, nodeFound, _⟩
  exact ⟨node, nodeFound⟩

theorem childrenOf_blueprint (found : tree.get? id = some node) :
    tree.blueprint.childrenOf id = node.children :=
  Blueprint.childrenOf_eq (entryOf?_blueprint found)

theorem parent?_blueprint (tree : Tree) : tree.blueprint.parent? = tree.parent? := by
  funext id
  cases found : tree.get? id <;> simp [Blueprint.parent?, blueprint, Tree.parent?, found]

/-- A node with the same entry leaves the blueprint. -/
theorem blueprint_put
    {old : Node}
    (found : tree.get? node.id = some old)
    (same : node.entry = old.entry) :
    (tree.put node).blueprint = tree.blueprint := by
  have entries : ∀ other,
      ((tree.put node).get? other).map Node.entry = (tree.get? other).map Node.entry := by
    intro other
    rw [get?_put found]
    split
    · rename_i equality
      rw [equality, found, Option.map_some, same, Option.map_some]
    · rfl
  simp only [blueprint, Blueprint.mk.injEq]
  exact ⟨funext entries, rfl, rfl, rfl⟩

namespace WellFormed

/-- Well-formedness looks at the ids and at the blueprint only. -/
theorem of_blueprint
    (wellFormed : tree.WellFormed)
    {next : Tree}
    (ids : next.nodes.map Node.id = tree.nodes.map Node.id)
    (blueprint : next.blueprint = tree.blueprint) :
    next.WellFormed :=
  ⟨ids ▸ wellFormed.distinct, blueprint ▸ wellFormed.forest⟩

/-- A way up holds no more nodes than are there, whatever its fuel. -/
theorem length_climb_le
    (wellFormed : tree.WellFormed)
    (fuel : Nat)
    {place : Option NodeId}
    (present : ∀ id, place = some id → tree.blueprint.Present id) :
    (climb tree.blueprint.parent? fuel place).length ≤ tree.nodes.length := by
  rcases wellFormed.forest.ranked with ⟨depth, ranked⟩
  have within : climb tree.blueprint.parent? fuel place ⊆ tree.nodes.map Node.id := by
    intro other member
    have otherPresent :=
      forall_mem_climb (fun above _ => wellFormed.forest.present_parent above) _ present other
        member
    rcases exists_get?_of_present otherPresent with ⟨node, found⟩
    exact List.mem_map.2 ⟨node, mem_of_get? found, id_of_get? found⟩
  have bounded := (nodup_climb ranked fuel place).length_le_of_subset within
  rwa [List.length_map] at bounded

/-- The ways up of a tree are those of its blueprint. -/
theorem lineage_eq
    (wellFormed : tree.WellFormed)
    (present : tree.blueprint.Present id) :
    tree.lineage id = tree.blueprint.lineage id := by
  have start : ∀ other, some id = some other → tree.blueprint.Present other := by
    rintro other ⟨⟩
    exact present
  have bounded := wellFormed.length_climb_le (tree.nodes.length + 1) start
  rw [Tree.lineage, ← parent?_blueprint]
  exact wellFormed.forest.climb_eq_lineageFrom start (Nat.lt_succ_of_le bounded)

end WellFormed

end Tree

end ParserGraph

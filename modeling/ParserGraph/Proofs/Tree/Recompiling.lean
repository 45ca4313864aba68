import ParserGraph.Proofs.Tree.Steps

/-!
# Compiling anew upwards

A node is settled over the parsers of its children if its own parsers are what its
kind and its decoration make of them.  After a change of a node only the nodes on
the way up from it may be unsettled.  Each step of the way settles one node and
leaves the rest of the way, so that at the top all nodes are settled.
-/

namespace ParserGraph

/-- The parsers of a node are those that its kind makes of the parsers of its children. -/
structure Node.Settled (derived? : NodeId → Option Parser) (node : Node) : Prop where
  decorated : node.derived = node.combined.map node.decoration.apply
  assembled :
    node.kind.isLeaf = false → node.combined = node.kind.assemble? node.children derived?
  /-- A leaf is compiled; an update to the same value may have left its parser as it was. -/
  leaf :
    node.kind.isLeaf = true →
      ∃ base fresh,
        node.combined = some base ∧ node.kind.combine [] = .ok fresh ∧
          base.canonical = fresh.canonical
  /-- Nothing is kept aside by a node with a parser. -/
  merged : node.combined.isSome = true → node.staged = none

namespace Node

variable {node : Node} {derived? : NodeId → Option Parser}

theorem settled_of_combinator
    (combinator : node.kind.isLeaf = false)
    (decorated : node.derived = node.combined.map node.decoration.apply)
    (assembled : node.combined = node.kind.assemble? node.children derived?)
    (merged : node.combined.isSome = true → node.staged = none) :
    node.Settled derived? where
  decorated := decorated
  assembled _ := assembled
  leaf leaf := absurd leaf (Bool.eq_false_iff.1 combinator)
  merged := merged

theorem settled_of_leaf
    (leaf : node.kind.isLeaf = true)
    {base fresh : Parser}
    (decorated : node.derived = node.combined.map node.decoration.apply)
    (combined : node.combined = some base)
    (refreshed : node.kind.combine [] = .ok fresh)
    (alike : base.canonical = fresh.canonical)
    (kept : node.staged = none) :
    node.Settled derived? where
  decorated := decorated
  assembled combinator := absurd leaf (Bool.eq_false_iff.1 combinator)
  leaf _ := ⟨base, fresh, combined, refreshed, alike⟩
  merged _ := kept

/-- A node stays settled as long as its children keep their parsers. -/
theorem Settled.congr
    (settled : node.Settled derived?)
    {later : NodeId → Option Parser}
    (alike : ∀ child ∈ node.children, derived? child = later child) :
    node.Settled later where
  decorated := settled.decorated
  assembled combinator :=
    (settled.assembled combinator).trans (Kind.assemble?_congr alike)
  leaf := settled.leaf
  merged := settled.merged

/-- A combinator that has been combined anew is settled. -/
theorem settled_refreshed (combinator : node.kind.isLeaf = false) :
    (node.refreshed derived?).Settled derived? := by
  rw [refreshed]
  split_ifs with complete
  · have noLeaf : node.absorbed.kind.isLeaf = false :=
      (Kind.isLeaf_withProps _ _).trans combinator
    exact settled_of_combinator noLeaf rfl rfl fun _ => rfl
  · have incomplete : node.kind.assemble? node.children derived? = none := by
      simpa using complete
    refine settled_of_combinator combinator rfl incomplete.symm ?_
    intro compiled
    simp [withCombined] at compiled

end Node

namespace Tree

variable {tree : Tree} {id : NodeId} {place : Option NodeId} {pending : List NodeId}

/-- All nodes are settled, except those on a list. -/
def Coherent (tree : Tree) (pending : List NodeId) : Prop :=
  ∀ id node, tree.get? id = some node → id ∉ pending → node.Settled tree.derived?

def Combines (tree : Tree) (id : NodeId) : Prop :=
  ∃ node, tree.get? id = some node ∧ node.kind.isLeaf = false

/-- One node is combined anew. -/
def refreshedAt (tree : Tree) (id : NodeId) : Tree :=
  match tree.get? id with
  | some node => tree.put (node.refreshed tree.derived?)
  | none => tree

/-- All nodes from a place upwards are combined anew. -/
def recompiledFrom (tree : Tree) (place : Option NodeId) : Tree :=
  (tree.blueprint.lineageFrom place).foldl refreshedAt tree

/-! ## One step of the way -/

theorem refreshedAt_eq {node : Node} (found : tree.get? id = some node) :
    tree.refreshedAt id = tree.put (node.refreshed tree.derived?) := by
  rw [refreshedAt, found]

@[simp]
theorem ids_refreshedAt (tree : Tree) (id : NodeId) :
    (tree.refreshedAt id).nodes.map Node.id = tree.nodes.map Node.id := by
  rw [refreshedAt]
  split
  · exact ids_put tree _
  · rfl

@[simp]
theorem version_refreshedAt (tree : Tree) (id : NodeId) :
    (tree.refreshedAt id).version = tree.version := by
  rw [refreshedAt]
  split <;> rfl

@[simp]
theorem blueprint_refreshedAt (tree : Tree) (id : NodeId) :
    (tree.refreshedAt id).blueprint = tree.blueprint := by
  rw [refreshedAt]
  split
  · rename_i node found
    have named := id_of_get? found
    exact blueprint_put (by rw [Node.id_refreshed, named]; exact found) Node.entry_refreshed
  · rfl

theorem WellFormed.refreshedAt (wellFormed : tree.WellFormed) (id : NodeId) :
    (tree.refreshedAt id).WellFormed :=
  wellFormed.of_blueprint (ids_refreshedAt tree id) (blueprint_refreshedAt tree id)

/-- What the blueprint says of a node tells whether it is a combinator. -/
theorem combines_iff :
    tree.Combines id ↔
      ∃ entry, tree.blueprint.entryOf? id = some entry ∧ entry.kind.isLeaf = false := by
  rw [Combines]
  cases found : tree.get? id with
  | none => simp [entryOf?_blueprint_eq_none found]
  | some node => simp [entryOf?_blueprint found]

theorem Combines.present (combines : tree.Combines id) : tree.blueprint.Present id := by
  rcases combines with ⟨node, found, _⟩
  exact present_blueprint found

theorem combines_refreshedAt {other : NodeId} :
    (tree.refreshedAt other).Combines id ↔ tree.Combines id := by
  rw [combines_iff, combines_iff, blueprint_refreshedAt]

/-- A settled node in the place of another one unsettles at most the nodes above. -/
theorem Coherent.put
    (wellFormed : tree.WellFormed)
    {old node : Node}
    (found : tree.get? node.id = some old)
    (sameChildren : node.children = old.children)
    (settled : node.Settled tree.derived?)
    (coherent : tree.Coherent (tree.blueprint.lineage node.id)) :
    (tree.put node).Coherent
      (tree.blueprint.lineageFrom (tree.blueprint.parent? node.id)) := by
  -- Whoever does not have the node as a child sees the same parsers as before.
  have unseen : ∀ {children : List NodeId}, node.id ∉ children →
      ∀ child ∈ children, tree.derived? child = (tree.put node).derived? child := by
    intro children proper child member
    refine (derived?_put_of_ne found ?_).symm
    rintro rfl
    exact proper member
  have above : ∀ {other : NodeId} {upper : Node}, tree.get? other = some upper →
      node.id ∈ upper.children → tree.blueprint.parent? node.id = some other := by
    intro other upper upperFound member
    rw [← childrenOf_blueprint upperFound] at member
    exact wellFormed.forest.mem_childrenOf.1 member
  intro other later laterFound outside
  rw [get?_put found] at laterFound
  split_ifs at laterFound with itself
  · cases laterFound
    refine settled.congr (unseen ?_)
    intro member
    rw [sameChildren] at member
    exact wellFormed.forest.parent?_ne_self node.id (above found member)
  · have before : later.Settled tree.derived? := by
      apply coherent other later laterFound
      rw [wellFormed.forest.lineage_eq (present_blueprint found)]
      intro member
      rcases List.mem_cons.1 member with equal | onWay
      · exact itself equal
      · exact outside onWay
    refine before.congr (unseen ?_)
    intro member
    rw [above laterFound member] at outside
    exact outside (Blueprint.IsForest.mem_lineage_self tree.blueprint other)

/-- A step settles its node and unsettles at most the nodes above. -/
theorem Coherent.refreshedAt
    (wellFormed : tree.WellFormed)
    (combines : tree.Combines id)
    (coherent : tree.Coherent (tree.blueprint.lineage id)) :
    (tree.refreshedAt id).Coherent (tree.blueprint.lineageFrom (tree.blueprint.parent? id)) := by
  rcases combines with ⟨node, found, combinator⟩
  have named : (node.refreshed tree.derived?).id = id := by
    rw [Node.id_refreshed, id_of_get? found]
  have sameChildren : (node.refreshed tree.derived?).children = node.children :=
    congrArg Entry.children Node.entry_refreshed
  rw [refreshedAt_eq found]
  rw [← named] at found coherent ⊢
  exact coherent.put wellFormed found sameChildren (Node.settled_refreshed combinator)

/-! ## The whole way -/

@[simp]
theorem blueprint_foldl_refreshedAt (ids : List NodeId) (tree : Tree) :
    (ids.foldl Tree.refreshedAt tree).blueprint = tree.blueprint := by
  induction ids generalizing tree with
  | nil => rfl
  | cons id rest hypothesis =>
      rw [List.foldl_cons, hypothesis, blueprint_refreshedAt]

@[simp]
theorem blueprint_recompiledFrom (tree : Tree) (place : Option NodeId) :
    (tree.recompiledFrom place).blueprint = tree.blueprint :=
  blueprint_foldl_refreshedAt _ tree

@[simp]
theorem version_recompiledFrom (tree : Tree) (place : Option NodeId) :
    (tree.recompiledFrom place).version = tree.version := by
  rw [recompiledFrom]
  generalize tree.blueprint.lineageFrom place = ids
  induction ids generalizing tree with
  | nil => rfl
  | cons id rest hypothesis =>
      rw [List.foldl_cons, hypothesis, version_refreshedAt]

@[simp]
theorem ids_recompiledFrom (tree : Tree) (place : Option NodeId) :
    (tree.recompiledFrom place).nodes.map Node.id = tree.nodes.map Node.id := by
  rw [recompiledFrom]
  generalize tree.blueprint.lineageFrom place = ids
  induction ids generalizing tree with
  | nil => rfl
  | cons id rest hypothesis => rw [List.foldl_cons, hypothesis, ids_refreshedAt]

theorem WellFormed.recompiledFrom (wellFormed : tree.WellFormed) (place : Option NodeId) :
    (tree.recompiledFrom place).WellFormed := by
  rw [Tree.recompiledFrom]
  generalize tree.blueprint.lineageFrom place = ids
  induction ids generalizing tree with
  | nil => exact wellFormed
  | cons id rest hypothesis => exact hypothesis (wellFormed.refreshedAt id)

@[simp]
theorem recompiledFrom_none (tree : Tree) : tree.recompiledFrom none = tree := by
  rw [recompiledFrom, Blueprint.IsForest.lineageFrom_none]
  rfl

/-- From a combinator upwards there are only combinators. -/
theorem WellFormed.combines_of_mem_lineage
    (wellFormed : tree.WellFormed)
    (combines : tree.Combines id) :
    ∀ upper ∈ tree.blueprint.lineage id, tree.Combines upper := by
  intro upper member
  rcases combines_iff.1 combines with ⟨entry, found, combinator⟩
  exact combines_iff.2 (wellFormed.forest.isLeaf_of_mem_lineage found combinator member)

/-- At the end of the way up all nodes are settled. -/
theorem Coherent.recompiledFrom
    (wellFormed : tree.WellFormed)
    (combines : ∀ upper ∈ tree.blueprint.lineageFrom place, tree.Combines upper)
    (coherent : tree.Coherent (tree.blueprint.lineageFrom place)) :
    (tree.recompiledFrom place).Coherent [] := by
  rw [Tree.recompiledFrom]
  generalize way : tree.blueprint.lineageFrom place = ids at combines coherent ⊢
  induction ids generalizing tree place with
  | nil => exact coherent
  | cons id rest hypothesis =>
      -- The way starts with its place and goes on from the parent of that.
      have start : place = some id := by
        cases place with
        | none => simp at way
        | some first =>
            have head : first :: _ = id :: rest := way
            exact congrArg some (List.cons.inj head).1
      subst start
      rcases combines id List.mem_cons_self with ⟨node, found, combinator⟩
      have whole : tree.blueprint.lineage id = id :: rest := way
      have onwards : tree.blueprint.lineageFrom (tree.blueprint.parent? id) = rest := by
        rw [wellFormed.forest.lineage_eq (present_blueprint found)] at whole
        exact (List.cons.inj whole).2
      have settled : (tree.refreshedAt id).Coherent rest := by
        rw [← onwards]
        refine Coherent.refreshedAt wellFormed ⟨node, found, combinator⟩ ?_
        rw [whole]
        exact coherent
      rw [← blueprint_refreshedAt tree id] at onwards
      rw [List.foldl_cons]
      refine hypothesis (wellFormed.refreshedAt id) onwards ?_ settled
      intro upper member
      exact combines_refreshedAt.2 (combines upper (List.mem_cons_of_mem id member))

end Tree

namespace Change

variable {tree : Tree} {id : NodeId}

theorem on_refresh_of_combines
    (wellFormed : tree.WellFormed)
    (combines : tree.Combines id) :
    (refresh id).on tree = (.ok (), tree.refreshedAt id) := by
  rcases combines with ⟨node, found, combinator⟩
  have proper : id ∉ node.children := by
    intro member
    rw [← Tree.childrenOf_blueprint found] at member
    exact wellFormed.forest.parent?_ne_self id (wellFormed.forest.mem_childrenOf.1 member)
  rw [on_refresh wellFormed.distinct found combinator proper, Tree.refreshedAt_eq found]

/-- Combining anew goes through on combinators, one after the other. -/
theorem on_forM_refresh
    (wellFormed : tree.WellFormed)
    (ids : List NodeId)
    (combines : ∀ id ∈ ids, tree.Combines id) :
    (ids.forM refresh).on tree = (.ok (), ids.foldl Tree.refreshedAt tree) := by
  induction ids generalizing tree with
  | nil => rfl
  | cons id rest hypothesis =>
      have first := on_refresh_of_combines wellFormed (combines id List.mem_cons_self)
      rw [List.foldl_cons]
      apply (on_bind_ok first).trans
      apply hypothesis (wellFormed.refreshedAt id)
      intro other member
      exact Tree.combines_refreshedAt.2 (combines other (List.mem_cons_of_mem id member))

/-- The way up from a combinator is combined anew without an error. -/
theorem on_recompileUpwards
    (wellFormed : tree.WellFormed)
    (combines : tree.Combines id) :
    (recompileUpwards id).on tree = (.ok (), tree.recompiledFrom (some id)) := by
  rw [recompileUpwards, on_bind_ok on_get, wellFormed.lineage_eq combines.present]
  exact on_forM_refresh wellFormed _ (wellFormed.combines_of_mem_lineage combines)

end Change

end ParserGraph

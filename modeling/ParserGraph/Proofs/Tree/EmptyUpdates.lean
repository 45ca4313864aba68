import ParserGraph.CommandLine.Session
import ParserGraph.Proofs.Tree.Outlines

/-!
# Updates without props

An update of a compiled node merges its props, decorates the node anew and compiles all
nodes above it anew.  Without props all of this comes to what was there, as settled nodes
that are compiled anew stay as they are.

A node that waits for its first parser keeps the props of an update aside, even if there are
none.  If it kept nothing aside before, it does so from then on, and is shown as staged.
-/

namespace ParserGraph

namespace Node

variable {node : Node} {derived? : NodeId → Option Parser}

/-- What is combined is decorated already. -/
theorem Settled.withCombined_combined (settled : node.Settled derived?) :
    node.withCombined node.combined = node := by
  rw [withCombined, ← settled.decorated]

/-- A settled combinator is combined anew to what it is. -/
theorem Settled.refreshed_eq
    (settled : node.Settled derived?)
    (combinator : node.kind.isLeaf = false) :
    node.refreshed derived? = node := by
  rw [refreshed, ← settled.assembled combinator]
  split_ifs with whole
  · rw [absorbed_of_staged (settled.merged whole), ← settled.assembled combinator]
    exact settled.withCombined_combined
  · have nothing : node.combined = none := by simpa using whole
    rw [← nothing]
    exact settled.withCombined_combined

@[simp]
theorem merged_empty (node : Node) : node.merged {} = node := by
  simp [merged]

/-- Nothing is merged, and what is combined is kept, as the kind is the same. -/
theorem Settled.updated_empty (settled : node.Settled derived?) :
    node.updated derived? {} = .ok node := by
  have alike : node.kind.same node.kind = true := Kind.same_iff.2 rfl
  simp [Node.updated, alike, settled.withCombined_combined]

/--
The node after an update without props.  If it waits for its first parser, it keeps props
aside then, and if there were none, empty ones.
-/
def noted (node : Node) : Node :=
  if node.isCompiled then node else { node with staged := some (node.staged.getD {}) }

theorem noted_of_isCompiled (compiled : node.isCompiled = true) : node.noted = node :=
  if_pos compiled

theorem noted_of_waiting (waiting : node.isCompiled = false) : node.noted = node.stage {} := by
  simp [noted, stage, waiting]

/-- The node shows no trace of an update without props. -/
def Unmoved (node : Node) : Prop :=
  node.isCompiled = true ∨ node.staged.isSome = true

instance (node : Node) : Decidable node.Unmoved :=
  inferInstanceAs (Decidable (_ ∨ _))

theorem noted_eq_self_iff : node.noted = node ↔ node.Unmoved := by
  rcases node with ⟨id, kind, decoration, children, parent, combined, derived, staged⟩
  cases derived <;> cases staged <;> simp [noted, Unmoved, isCompiled]

/-- The status is all that is shown differently. -/
theorem status_noted_eq_iff : node.noted.status = node.status ↔ node.Unmoved := by
  rcases node with ⟨id, kind, decoration, children, parent, combined, derived, staged⟩
  cases derived <;> cases staged <;> simp [noted, Unmoved, status, isCompiled]

end Node

namespace Tree

variable {tree : Tree} {id : NodeId} {node : Node}

/-! ## What is compiled anew -/

/-- A node that is changed into itself leaves the tree. -/
theorem WellFormed.modify_eq_self
    (wellFormed : tree.WellFormed)
    (found : tree.get? id = some node)
    {change : Node → Node}
    (same : change node = node) :
    tree.modify id change = tree := by
  have unchanged : tree.modify id (fun node => node) = tree := by
    rw [modify]
    simp
  exact (modify_congr wellFormed.distinct found same).trans unchanged

/-- In a consistent tree nothing changes if combinators are compiled anew. -/
theorem Consistent.foldl_refreshedAt_eq
    (consistent : tree.Consistent)
    {ids : List NodeId}
    (combine : ∀ id ∈ ids, tree.Combines id) :
    ids.foldl refreshedAt tree = tree := by
  induction ids with
  | nil => rfl
  | cons id rest hypothesis =>
      rcases List.forall_mem_cons.1 combine with ⟨⟨node, found, combinator⟩, others⟩
      have settled := consistent.coherent id node found List.not_mem_nil
      have named : node.id = id := id_of_get? found
      have stays : tree.refreshedAt id = tree := by
        rw [refreshedAt_eq found, settled.refreshed_eq combinator, put]
        exact consistent.wellFormed.modify_eq_self (named ▸ found) rfl
      rw [List.foldl_cons, stays]
      exact hypothesis others

theorem Consistent.recompiledFrom_parent_eq
    (consistent : tree.Consistent)
    (found : tree.get? id = some node) :
    tree.recompiledFrom node.parent = tree := by
  apply consistent.foldl_refreshedAt_eq
  cases above : node.parent with
  | none => simp
  | some parent =>
      have link := (Blueprint.parent?_eq (entryOf?_blueprint found)).trans above
      have wellFormed := consistent.wellFormed
      exact wellFormed.combines_of_mem_lineage
        (wellFormed.combines_of_mem (wellFormed.forest.mem_childrenOf.2 link))

/-- Without props an update does no more than have a waiting node keep props aside. -/
theorem Consistent.updated_empty
    (consistent : tree.Consistent)
    (found : tree.get? id = some node) :
    tree.updated id {} = tree.modify id Node.noted := by
  have wellFormed := consistent.wellFormed
  have settled := consistent.coherent id node found List.not_mem_nil
  have named : node.id = id := id_of_get? found
  rw [Tree.updated]
  simp only [found, settled.updated_empty]
  split_ifs with compiled
  · have stays : tree.put node = tree := wellFormed.modify_eq_self (named ▸ found) rfl
    rw [stays, consistent.recompiledFrom_parent_eq found,
      wellFormed.modify_eq_self found (Node.noted_of_isCompiled compiled)]
  · have waiting : node.isCompiled = false := by simpa using compiled
    exact modify_congr wellFormed.distinct found (Node.noted_of_waiting waiting).symm

theorem Consistent.apply_update_empty
    (consistent : tree.Consistent)
    (found : tree.get? id = some node) :
    tree.apply (.update id {}) = (.ok (some id), (tree.modify id Node.noted).accepted) := by
  have settled := consistent.coherent id node found List.not_mem_nil
  have allowed : tree.blueprint.checkUpdate tree.derived? id {} = .ok () := by
    rw [checkUpdate_blueprint found settled, settled.updated_empty]
    exact ite_self _
  rw [consistent.apply_eq, Blueprint.verdict, allowed, Tree.perform,
    consistent.updated_empty found]
  rfl

/-! ## What is shown -/

/-- The tops of a tree are found without a look at what else its nodes hold. -/
theorem tops_modify
    {change : Node → Node}
    (ids : ∀ node, (change node).id = node.id)
    (parents : ∀ node, (change node).parent = node.parent) :
    (tree.modify id change).tops = tree.tops := by
  have id_ite : ∀ node : Node, (if node.id == id then change node else node).id = node.id := by
    intro node
    split_ifs <;> simp [ids]
  have parent_ite : ∀ node : Node,
      (if node.id == id then change node else node).parent = node.parent := by
    intro node
    split_ifs <;> simp [parents]
  simp only [tops, modify, List.filter_map, List.map_map, Function.comp_def, id_ite, parent_ite]

theorem outline_modify
    {change : Node → Node}
    (ids : ∀ node, (change node).id = node.id)
    (parents : ∀ node, (change node).parent = node.parent)
    (children : ∀ node, (change node).children = node.children) :
    (tree.modify id change).outline =
      tree.outline.map fun entry =>
        (entry.1, if entry.2.id == id then change entry.2 else entry.2) := by
  rw [outline, outline, tops_modify ids parents, modify]
  apply walk_map fun node => if node.id == id then change node else node
  · intro node
    split_ifs <;> simp [ids]
  · intro node
    split_ifs <;> simp [children]

end Tree

namespace CommandLine

/-- An update without props moves at most the status of a node on its line. -/
theorem outlineLine_noted_eq_iff (tree : Tree) (depth : Nat) (node : Node) :
    outlineLine tree depth node.noted = outlineLine tree depth node ↔ node.Unmoved := by
  rw [← Node.status_noted_eq_iff]
  have named : node.noted.id = node.id := by
    rw [Node.noted]
    split_ifs <;> rfl
  have shown : node.noted.display = node.display := by
    rw [Node.noted]
    split_ifs <;> rfl
  rw [outlineLine, outlineLine, shown, named]
  constructor
  · intro same
    simpa [← String.toList_inj] using same
  · intro same
    rw [same]

/-- The line of the node is all that is shown differently. -/
theorem listing_noted (tree : Tree) (id : NodeId) :
    listing (tree.modify id Node.noted) =
      tree.outline.map fun entry =>
        outlineLine tree entry.1 (if entry.2.id == id then entry.2.noted else entry.2) := by
  have keeps : ∀ node : Node, node.noted.id = node.id ∧ node.noted.parent = node.parent ∧
      node.noted.children = node.children := by
    intro node
    rw [Node.noted]
    split_ifs <;> exact ⟨rfl, rfl, rfl⟩
  rw [listing, Tree.outline_modify (fun node => (keeps node).1) (fun node => (keeps node).2.1)
    fun node => (keeps node).2.2, List.map_map]
  rfl

end CommandLine

namespace Tree

variable {tree : Tree} {id : NodeId} {node : Node}

open CommandLine in
theorem WellFormed.listing_noted_eq_iff
    (wellFormed : tree.WellFormed)
    (found : tree.get? id = some node) :
    listing (tree.modify id Node.noted) = listing tree ↔ node.Unmoved := by
  constructor
  · intro same
    rcases wellFormed.exists_mem_outline found with ⟨depth, member⟩
    rw [listing_noted, listing] at same
    have line := List.map_inj_left.1 same (depth, node) member
    rw [if_pos (beq_iff_eq.2 (id_of_get? found))] at line
    exact (outlineLine_noted_eq_iff tree depth node).1 line
  · intro unmoved
    rw [wellFormed.modify_eq_self found (Node.noted_eq_self_iff.2 unmoved)]

theorem WellFormed.nodes_noted_eq_iff
    (wellFormed : tree.WellFormed)
    (found : tree.get? id = some node) :
    (tree.modify id Node.noted).nodes = tree.nodes ↔ node.Unmoved := by
  constructor
  · intro same
    have change := List.map_eq_map_iff.1 (same.trans (List.map_id _).symm) node (mem_of_get? found)
    rw [if_pos (beq_iff_eq.2 (id_of_get? found))] at change
    exact Node.noted_eq_self_iff.1 change
  · intro unmoved
    rw [wellFormed.modify_eq_self found (Node.noted_eq_self_iff.2 unmoved)]

/-- What an update of a node without props does to a tree. -/
structure TakesEmptyUpdate (tree : Tree) (node : Node) (answered : Except EditError (Option NodeId))
    (next : Tree) : Prop where
  accepted : answered = .ok (some node.id)
  /-- The node may keep empty props aside, and the edit is counted; nothing else is different. -/
  result : next = { tree.modify node.id Node.noted with version := tree.version + 1 }
  /-- All fields of all nodes are as before exactly if the node is compiled or was staged. -/
  nodes_iff : next.nodes = tree.nodes ↔ node.Unmoved
  /-- And only then all nodes are shown as before. -/
  listing_iff : CommandLine.listing next = CommandLine.listing tree ↔ node.Unmoved

theorem Consistent.takesEmptyUpdate
    (consistent : tree.Consistent)
    (member : node ∈ tree.nodes) :
    tree.TakesEmptyUpdate node (tree.apply (.update node.id {})).1
      (tree.apply (.update node.id {})).2 := by
  have wellFormed := consistent.wellFormed
  have found := wellFormed.get?_of_mem member
  rw [consistent.apply_update_empty found]
  exact
    { accepted := rfl
      result := rfl
      nodes_iff := wellFormed.nodes_noted_eq_iff found
      listing_iff := wellFormed.listing_noted_eq_iff found }

/--
After every run, refused edits included, an update of a node without props is accepted.  It
leaves all nodes as they are, and as they are shown, exactly if the node is compiled or
keeps props aside already; otherwise the node keeps empty props aside from then on.
-/
theorem empty_update_after_run
    (options : TreeOptions)
    (edits : List Edit)
    (node : Node)
    (live : node ∈ ((withOptions options).after edits).nodes) :
    let tree := (withOptions options).after edits
    tree.TakesEmptyUpdate node (tree.apply (.update node.id {})).1
      (tree.apply (.update node.id {})).2 :=
  ((consistent_withOptions options).after edits).takesEmptyUpdate live

/-- A labelled pair below a series is compiled, and stays what it is. -/
theorem empty_update_of_compiled_pair :
    let edits : List Edit :=
      [.create "all" {}, .create "and" { label := some "pair" },
        .create "string" { text := some "a" }, .appendChild { number := 2 } { number := 3 },
        .appendChild { number := 1 } { number := 2 }]
    let tree := (withOptions {}).after edits
    let node : Node :=
      { id := { number := 2 }
        kind := .pair .and
        decoration := { label := some "pair" }
        children := [{ number := 3 }]
        parent := some { number := 1 }
        combined := some (.text "a")
        derived := some (.label (.text "a") "pair") }
    node ∈ tree.nodes ∧ node.Unmoved ∧
      tree.TakesEmptyUpdate node (tree.apply (.update { number := 2 } {})).1
        (tree.apply (.update { number := 2 } {})).2 := by
  intro edits tree node
  have live : node ∈ tree.nodes := List.mem_of_getElem? (i := 1) rfl
  exact ⟨live, Or.inl rfl, empty_update_after_run {} edits node live⟩

/-- A pair without children waits for its first parser, and is shown as staged then. -/
theorem not_unseen_empty_update_of_waiting_pair :
    let tree := (withOptions {}).after [.create "and" {}]
    let next := (tree.apply (.update { number := 1 } {})).2
    ¬ (next.nodes = tree.nodes ∨ CommandLine.listing next = CommandLine.listing tree) := by
  intro tree next
  have consistent : tree.Consistent := (consistent_withOptions {}).after [.create "and" {}]
  have live : ({ id := { number := 1 }, kind := .pair .and } : Node) ∈ tree.nodes :=
    List.mem_cons_self
  have taken := consistent.takesEmptyUpdate live
  have moved : ¬ ({ id := { number := 1 }, kind := .pair .and } : Node).Unmoved := by decide
  rintro (same | same)
  · exact moved (taken.nodes_iff.1 same)
  · exact moved (taken.listing_iff.1 same)

end Tree

end ParserGraph

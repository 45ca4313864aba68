import ParserGraph.Proofs.Tree.Lookup

/-!
# Subtrees

A walk drops each node that it meets and goes on with its children.  It meets
exactly the nodes that can be reached from its start from children to children,
because a way that comes back to a dropped node can be cut short there.

In a forest these are the nodes with the start on their way up.
-/

namespace ParserGraph

/-- A node is reached from another one over children, all of them among given nodes. -/
inductive Reaches (nodes : List Node) : NodeId → NodeId → Prop
  | here {id : NodeId} {node : Node} :
      (nodes.find? fun node => node.id == id) = some node → Reaches nodes id id
  | through {id child last : NodeId} {node : Node} :
      (nodes.find? fun node => node.id == id) = some node →
        child ∈ node.children → Reaches nodes child last → Reaches nodes id last

/-- A node other than the dropped one is found as before. -/
theorem find?_nodesWithout (nodes : List Node) {id other : NodeId} (different : other ≠ id) :
    (nodesWithout id nodes).find? (fun node => node.id == other) =
      nodes.find? fun node => node.id == other := by
  rw [nodesWithout, List.find?_filter]
  congr 1
  funext node
  by_cases named : node.id = other
  · simp [named, different]
  · simp [named]

/-- The dropped node is found no more. -/
theorem find?_nodesWithout_self (nodes : List Node) (id : NodeId) :
    (nodesWithout id nodes).find? (fun node => node.id == id) = none := by
  rw [nodesWithout, List.find?_filter]
  simp

namespace Reaches

variable {nodes : List Node} {id start last : NodeId} {node : Node}

/-- What is reached without a node is reached with it. -/
theorem of_nodesWithout (reached : Reaches (nodesWithout id nodes) start last) :
    Reaches nodes start last := by
  have other : ∀ {first : NodeId} {found : Node},
      (nodesWithout id nodes).find? (fun node => node.id == first) = some found →
        nodes.find? (fun node => node.id == first) = some found := by
    intro first found there
    by_cases same : first = id
    · rw [same, find?_nodesWithout_self] at there
      cases there
    · rwa [find?_nodesWithout nodes same] at there
  induction reached with
  | here there => exact here (other there)
  | through there member _ hypothesis => exact through (other there) member hypothesis

/-- A way either avoids a node, or ends there, or goes on from one of its children. -/
theorem avoids_or_passes
    (found : (nodes.find? fun node => node.id == id) = some node)
    (reached : Reaches nodes start last) :
    last = id ∨ (∃ child ∈ node.children, Reaches (nodesWithout id nodes) child last) ∨
      Reaches (nodesWithout id nodes) start last := by
  induction reached with
  | @here start startNode there =>
      by_cases same : start = id
      · exact Or.inl same
      · rw [← find?_nodesWithout nodes same] at there
        exact Or.inr (Or.inr (here there))
  | @through start child last startNode there member _ hypothesis =>
      rcases hypothesis with ended | onwards | avoided
      · exact Or.inl ended
      · exact Or.inr (Or.inl onwards)
      · by_cases same : start = id
        · rw [same, found] at there
          cases there
          exact Or.inr (Or.inl ⟨child, member, avoided⟩)
        · rw [← find?_nodesWithout nodes same] at there
          exact Or.inr (Or.inr (through there member avoided))

/-- Nothing is reached from a node that is missing. -/
theorem not_from_missing
    (missing : (nodes.find? fun node => node.id == start) = none) :
    ¬ Reaches nodes start last := by
  rintro (there | ⟨there, _⟩) <;> simp [missing] at there

/-- What is reached from several nodes, the first of them dropped, is reached from its children. -/
theorem exists_mem_cons_iff
    (found : (nodes.find? fun node => node.id == id) = some node)
    (rest : List NodeId) :
    (∃ start ∈ id :: rest, Reaches nodes start last) ↔
      last = id ∨ ∃ start ∈ node.children ++ rest, Reaches (nodesWithout id nodes) start last := by
  constructor
  · rintro ⟨start, member, reached⟩
    rcases reached.avoids_or_passes found with ended | ⟨child, childMember, onwards⟩ | avoided
    · exact Or.inl ended
    · exact Or.inr ⟨child, List.mem_append_left _ childMember, onwards⟩
    · refine Or.inr ⟨start, List.mem_append_right _ ?_, avoided⟩
      rcases List.mem_cons.1 member with rfl | member
      · exact absurd avoided (not_from_missing (find?_nodesWithout_self nodes start))
      · exact member
  · rintro (rfl | ⟨start, member, reached⟩)
    · exact ⟨last, List.mem_cons_self, here found⟩
    · rcases List.mem_append.1 member with member | member
      · exact ⟨id, List.mem_cons_self, through found member reached.of_nodesWithout⟩
      · exact ⟨start, List.mem_cons_of_mem _ member, reached.of_nodesWithout⟩

end Reaches

/-! ## Walks -/

section Walk

variable {nodes : List Node} {id : NodeId} {node : Node}

/-- A walk passes over a missing node. -/
theorem walk_of_missing
    (missing : (nodes.find? fun node => node.id == id) = none)
    (depth : Nat)
    (rest : List (Nat × NodeId)) :
    walk nodes ((depth, id) :: rest) = walk nodes rest := by
  rw [walk]
  split
  · rfl
  · simp_all

/-- A walk goes on from a node with its children. -/
theorem walk_of_found
    (found : (nodes.find? fun node => node.id == id) = some node)
    (depth : Nat)
    (rest : List (Nat × NodeId)) :
    walk nodes ((depth, id) :: rest) =
      (depth, node) :: walk (nodesWithout id nodes) (node.children.map (depth + 1, ·) ++ rest) := by
  rw [walk]
  split
  · simp_all
  · rename_i same there
    rw [found] at there
    cases there
    rfl

end Walk

/-- A walk meets what can be reached from what it has still to visit. -/
theorem mem_walk_iff (nodes : List Node) (pending : List (Nat × NodeId)) (last : NodeId) :
    last ∈ (walk nodes pending).map (fun entry => entry.2.id) ↔
      ∃ start ∈ pending.map Prod.snd, Reaches nodes start last := by
  induction nodes, pending using walk.induct with
  | case1 nodes => simp [walk]
  | case2 nodes depth id rest missing hypothesis =>
      rw [walk_of_missing missing, hypothesis, List.map_cons, List.exists_mem_cons_iff]
      exact ⟨Or.inr, fun either => either.resolve_left (Reaches.not_from_missing missing)⟩
  | case3 nodes depth id rest node found hypothesis =>
      have named : node.id = id := by
        have matched := List.find?_some found
        simpa using matched
      have visited : (node.children.map (depth + 1, ·) ++ rest).map Prod.snd =
          node.children ++ rest.map Prod.snd := by
        simp [Function.comp_def]
      rw [walk_of_found found, List.map_cons, List.map_cons, Reaches.exists_mem_cons_iff found,
        List.mem_cons, hypothesis, visited, named]

/-- A walk meets nodes that are there. -/
theorem mem_of_mem_walk
    {nodes : List Node}
    {pending : List (Nat × NodeId)}
    {entry : Nat × Node}
    (member : entry ∈ walk nodes pending) :
    entry.2 ∈ nodes := by
  induction nodes, pending using walk.induct with
  | case1 nodes => simp [walk] at member
  | case2 nodes depth id rest missing hypothesis =>
      rw [walk_of_missing missing] at member
      exact hypothesis member
  | case3 nodes depth id rest node found hypothesis =>
      rw [walk_of_found found] at member
      rcases List.mem_cons.1 member with rfl | later
      · exact List.mem_of_find?_eq_some found
      · exact (List.mem_filter.1 (hypothesis later)).1

/-- A walk over changed nodes goes the same way if they keep their ids and their children. -/
theorem walk_map
    (change : Node → Node)
    (ids : ∀ node, (change node).id = node.id)
    (children : ∀ node, (change node).children = node.children)
    (nodes : List Node)
    (pending : List (Nat × NodeId)) :
    walk (nodes.map change) pending =
      (walk nodes pending).map fun entry => (entry.1, change entry.2) := by
  have lookup : ∀ (nodes : List Node) (id : NodeId),
      (nodes.map change).find? (fun node => node.id == id) =
        (nodes.find? fun node => node.id == id).map change := by
    intro nodes id
    rw [List.find?_map]
    simp only [Function.comp_def, ids]
  have without : ∀ (nodes : List Node) (id : NodeId),
      nodesWithout id (nodes.map change) = (nodesWithout id nodes).map change := by
    intro nodes id
    rw [nodesWithout, List.filter_map]
    simp only [Function.comp_def, ids]
    rfl
  induction nodes, pending using walk.induct with
  | case1 nodes => simp [walk]
  | case2 nodes depth id rest missing hypothesis =>
      have stillMissing := (lookup nodes id).trans (congrArg (Option.map change) missing)
      rw [walk_of_missing missing, walk_of_missing stillMissing, hypothesis]
  | case3 nodes depth id rest node found hypothesis =>
      have stillFound := (lookup nodes id).trans (congrArg (Option.map change) found)
      rw [walk_of_found found, walk_of_found stillFound, List.map_cons, without, children,
        hypothesis]

namespace Tree

variable {tree : Tree} {id last : NodeId}

theorem mem_subtree_iff_reaches : last ∈ tree.subtree id ↔ Reaches tree.nodes id last := by
  simp [subtree, mem_walk_iff]

/-- In a well-formed tree the subtree of a node is what has that node on its way up. -/
theorem WellFormed.mem_subtree_iff
    (wellFormed : tree.WellFormed)
    (present : tree.blueprint.Present last) :
    last ∈ tree.subtree id ↔ id ∈ tree.blueprint.lineage last := by
  rw [mem_subtree_iff_reaches]
  constructor
  · intro reached
    induction reached with
    | here _ => exact Blueprint.IsForest.mem_lineage_self tree.blueprint _
    | through found member _ hypothesis =>
        rw [← childrenOf_blueprint found] at member
        have above := wellFormed.forest.mem_childrenOf.1 member
        exact wellFormed.forest.mem_lineage_parent present (hypothesis present) above
  · intro member
    have closed : ∀ {child parent : NodeId}, tree.blueprint.parent? child = some parent →
        Reaches tree.nodes child last → Reaches tree.nodes parent last := by
      intro child parent above reached
      rcases exists_get?_of_present (wellFormed.forest.present_parent above) with ⟨node, found⟩
      have childMember := wellFormed.forest.mem_childrenOf.2 above
      rw [childrenOf_blueprint found] at childMember
      exact Reaches.through found childMember reached
    refine forall_mem_climb closed _ ?_ id member
    rintro start ⟨⟩
    rcases exists_get?_of_present present with ⟨node, found⟩
    exact Reaches.here found

end Tree

end ParserGraph

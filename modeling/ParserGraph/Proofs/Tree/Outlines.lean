import Mathlib.Data.Set.Card
import ParserGraph.Proofs.Tree.Numbering

/-!
# Outlines

The outline of a forest shows each node in front of the outlines of its children, and shows
each node once, with as many steps of depth as there are nodes above it.  A walk comes to
this although it neither knows the nodes above nor goes back to them: it takes a node off
the front of what is still to be visited, and puts the children there.  It drops each node
that it has met, but in a forest it need not, since it meets no node a second time.

The trees of the forest are shown one behind the other, the one of the root first, and the
others in the order in which their tops were created.
-/

namespace ParserGraph

/-- The outlines of nodes, each of which is followed at once by the outlines of its children. -/
inductive Tree.Outlines (tree : Tree) :
    (depth : Nat) → List NodeId → List (Nat × Node) → Prop where
  | nil (depth : Nat) : Outlines tree depth [] []
  | cons {depth : Nat} {id : NodeId} {node : Node} {rest : List NodeId}
      {below further : List (Nat × Node)} (found : tree.get? id = some node)
      (children : Outlines tree (depth + 1) node.children below)
      (siblings : Outlines tree depth rest further) :
      Outlines tree depth (id :: rest) ((depth, node) :: below ++ further)

/--
A walk that keeps the nodes that it has met: the lines that it writes, given the nodes that
are still to be visited.  A walk that goes on for ever has no lines.
-/
inductive Tree.Tours (tree : Tree) : List (Nat × NodeId) → List (Nat × Node) → Prop where
  | done : Tours tree [] []
  | missing {depth : Nat} {id : NodeId} {rest : List (Nat × NodeId)} {lines : List (Nat × Node)}
      (absent : tree.get? id = none) (onwards : Tours tree rest lines) :
      Tours tree ((depth, id) :: rest) lines
  | found {depth : Nat} {id : NodeId} {node : Node} {rest : List (Nat × NodeId)}
      {lines : List (Nat × Node)} (there : tree.get? id = some node)
      (onwards : Tours tree (node.children.map (depth + 1, ·) ++ rest) lines) :
      Tours tree ((depth, id) :: rest) ((depth, node) :: lines)

/-- A walk has at most one list of lines. -/
theorem Tree.Tours.unique
    {tree : Tree}
    {pending : List (Nat × NodeId)}
    {lines others : List (Nat × Node)}
    (tours : tree.Tours pending lines)
    (again : tree.Tours pending others) :
    others = lines := by
  induction tours generalizing others with
  | done =>
      cases again
      rfl
  | missing absent onwards hypothesis =>
      cases again with
      | missing alsoAbsent alsoOnwards => exact hypothesis alsoOnwards
      | found there alsoOnwards => simp_all
  | found there onwards hypothesis =>
      cases again with
      | missing absent alsoOnwards => simp_all
      | found alsoThere alsoOnwards =>
          rw [there] at alsoThere
          cases alsoThere
          rw [hypothesis alsoOnwards]

/-- The nodes that are left behind lines of an outline. -/
def nodesBehind (lines : List (Nat × Node)) (nodes : List Node) : List Node :=
  lines.foldl (fun nodes line => nodesWithout line.2.id nodes) nodes

theorem nodesBehind_append (lines further : List (Nat × Node)) (nodes : List Node) :
    nodesBehind (lines ++ further) nodes = nodesBehind further (nodesBehind lines nodes) :=
  List.foldl_append

/-- A node that is on none of the lines is still found behind them. -/
theorem find?_nodesBehind
    {id : NodeId}
    {lines : List (Nat × Node)}
    (apart : ∀ line ∈ lines, line.2.id ≠ id)
    (nodes : List Node) :
    (nodesBehind lines nodes).find? (fun node => node.id == id) =
      nodes.find? fun node => node.id == id := by
  induction lines generalizing nodes with
  | nil => rfl
  | cons line rest hypothesis =>
      rw [List.forall_mem_cons] at apart
      exact (hypothesis apart.2 _).trans (find?_nodesWithout nodes apart.1.symm)

namespace Tree.Outlines

variable {tree : Tree} {depth : Nat} {ids : List NodeId} {lines : List (Nat × Node)}

theorem append
    (outlines : tree.Outlines depth ids lines)
    {others : List NodeId}
    {further : List (Nat × Node)}
    (behind : tree.Outlines depth others further) :
    tree.Outlines depth (ids ++ others) (lines ++ further) := by
  induction outlines with
  | nil => exact behind
  | cons found children _ _ hypothesis =>
      have whole := cons found children (hypothesis behind)
      simpa using whole

theorem get?_of_mem (outlines : tree.Outlines depth ids lines) :
    ∀ line ∈ lines, tree.get? line.2.id = some line.2 := by
  induction outlines with
  | nil => simp
  | cons found _ _ children siblings =>
      rw [List.cons_append, List.forall_mem_cons, List.forall_mem_append]
      exact ⟨(id_of_get? found).symm ▸ found, children, siblings⟩

/-- A walk writes the outlines of nodes and then goes on, if it finds the nodes of the lines. -/
theorem walk_eq
    (outlines : tree.Outlines depth ids lines)
    (distinct : (lines.map fun line => line.2.id).Nodup)
    {nodes : List Node}
    (there : ∀ line ∈ lines, (nodes.find? fun node => node.id == line.2.id) = some line.2)
    (rest : List (Nat × NodeId)) :
    walk nodes (ids.map (depth, ·) ++ rest) = lines ++ walk (nodesBehind lines nodes) rest := by
  induction outlines generalizing nodes rest with
  | nil => rfl
  | @cons depth id node others below further found _ _ children siblings =>
      have named : node.id = id := id_of_get? found
      rw [List.cons_append, List.forall_mem_cons, List.forall_mem_append] at there
      rcases there with ⟨first, belowThere, furtherThere⟩
      simp only [List.cons_append, List.map_cons, List.map_append, List.nodup_cons,
        List.nodup_append, List.mem_append, List.mem_map, not_or, not_exists, not_and] at distinct
      rcases distinct with ⟨⟨belowApart, furtherApart⟩, belowDistinct, furtherDistinct, apart⟩
      -- What is dropped is none of the lines that are still to be written.
      have still : ∀ {line : Nat × Node}, line.2.id ≠ node.id →
          (nodes.find? fun node => node.id == line.2.id) = some line.2 →
            ((nodesWithout id nodes).find? fun node => node.id == line.2.id) = some line.2 := by
        intro line different present
        rwa [find?_nodesWithout nodes (named ▸ different)]
      have inside := children belowDistinct
        (fun line member => still (belowApart line member) (belowThere line member))
        (others.map (depth, ·) ++ rest)
      have outside : walk (nodesBehind below (nodesWithout id nodes))
          (others.map (depth, ·) ++ rest) =
            further ++
              walk (nodesBehind further (nodesBehind below (nodesWithout id nodes))) rest := by
        apply siblings furtherDistinct
        intro line member
        rw [find?_nodesBehind]
        · exact still (furtherApart line member) (furtherThere line member)
        · exact fun other listed same => apart _ ⟨other, listed, rfl⟩ _ ⟨line, member, rfl⟩ same
      have behind : nodesBehind ((depth, node) :: below ++ further) nodes =
          nodesBehind further (nodesBehind below (nodesWithout id nodes)) := by
        rw [nodesBehind_append, ← named]
        rfl
      rw [List.map_cons, List.cons_append, walk_of_found (named ▸ first), inside, outside, behind,
        List.cons_append, List.cons_append, List.append_assoc]

/-- A walk that keeps the nodes that it has met writes the same lines. -/
theorem tours
    (outlines : tree.Outlines depth ids lines)
    {rest : List (Nat × NodeId)}
    {further : List (Nat × Node)}
    (onwards : tree.Tours rest further) :
    tree.Tours (ids.map (depth, ·) ++ rest) (lines ++ further) := by
  induction outlines generalizing rest further with
  | nil => exact onwards
  | cons found _ _ children siblings =>
      have whole := Tours.found found (children (siblings onwards))
      simpa using whole

end Tree.Outlines

namespace Tree

variable {tree : Tree} {depth : Nat} {id : NodeId} {ids : List NodeId}
  {lines : List (Nat × Node)}

/-! ## Outlines of forests -/

theorem WellFormed.mem_children_iff_parent?
    (wellFormed : tree.WellFormed)
    {node : Node}
    (found : tree.get? id = some node)
    {child : NodeId} :
    child ∈ node.children ↔ tree.parent? child = some id := by
  rw [← childrenOf_blueprint found, ← parent?_blueprint]
  exact wellFormed.forest.mem_childrenOf

theorem WellFormed.not_atOrAbove_of_parent?
    (wellFormed : tree.WellFormed)
    {parent : NodeId}
    (above : tree.parent? id = some parent) :
    ¬ tree.AtOrAbove id parent := by
  rw [← parent?_blueprint] at above
  rw [← wellFormed.mem_lineage_iff_atOrAbove]
  exact wellFormed.forest.not_mem_lineage_of_parent? above

/-- Nodes with the same parent have nothing at or below them in common. -/
theorem WellFormed.eq_of_atOrAbove
    (wellFormed : tree.WellFormed)
    {first second : NodeId}
    (siblings : tree.parent? first = tree.parent? second)
    (above : tree.AtOrAbove first id)
    (also : tree.AtOrAbove second id) :
    first = second := by
  -- A node above another one of the same parent would lie above its own parent.
  have apart : ∀ {lower upper : NodeId}, tree.parent? lower = tree.parent? upper →
      tree.AtOrAbove upper lower → lower = upper := by
    intro lower upper same way
    rcases Relation.ReflTransGen.cases_head way with rfl | ⟨parent, link, onwards⟩
    · rfl
    · exact absurd onwards (wellFormed.not_atOrAbove_of_parent? (same ▸ link))
  have unique : Relator.RightUnique fun child parent => tree.parent? child = some parent := by
    intro child parent other link further
    exact Option.some.inj (link.symm.trans further)
  rcases Relation.ReflTransGen.total_of_right_unique unique above also with way | way
  · exact apart siblings way
  · exact (apart siblings.symm way).symm

theorem exists_outlines_of_forall
    (each : ∀ id ∈ ids, ∃ lines, tree.Outlines depth [id] lines) :
    ∃ lines, tree.Outlines depth ids lines := by
  induction ids with
  | nil => exact ⟨[], .nil depth⟩
  | cons id rest hypothesis =>
      rw [List.forall_mem_cons] at each
      rcases each with ⟨⟨first, outlined⟩, others⟩
      rcases hypothesis others with ⟨further, behind⟩
      exact ⟨first ++ further, outlined.append behind⟩

/-- Each node has an outline, as its children have outlines. -/
theorem WellFormed.exists_outlines
    (wellFormed : tree.WellFormed)
    (live : tree.Live id)
    (depth : Nat) :
    ∃ lines, tree.Outlines depth [id] lines := by
  induction id using wellFormed.forest.children_induction generalizing depth with
  | step id hypothesis =>
      rcases Option.isSome_iff_exists.1 live with ⟨node, found⟩
      have below : ∃ lines, tree.Outlines (depth + 1) node.children lines := by
        apply exists_outlines_of_forall
        intro child listed
        have above := (wellFormed.mem_children_iff_parent? found).1 listed
        rw [← childrenOf_blueprint found] at listed
        exact hypothesis child listed (live_of_parent? above) (depth + 1)
      rcases below with ⟨lines, outlined⟩
      have whole := Outlines.cons found outlined (.nil depth)
      exact ⟨_, whole⟩

namespace Outlines

/-- On the lines of an outline stand nodes at or below those that it is an outline of. -/
theorem exists_atOrAbove
    (wellFormed : tree.WellFormed)
    (outlines : tree.Outlines depth ids lines) :
    ∀ line ∈ lines, ∃ start ∈ ids, tree.AtOrAbove start line.2.id := by
  induction outlines with
  | nil => simp
  | @cons depth id node others below further found _ _ children siblings =>
      simp only [List.cons_append, List.forall_mem_cons, List.forall_mem_append]
      refine ⟨⟨id, List.mem_cons_self, ?_⟩, ?_, ?_⟩
      · rw [id_of_get? found]
        exact Relation.ReflTransGen.refl
      · intro line member
        rcases children line member with ⟨child, listed, above⟩
        have link := (wellFormed.mem_children_iff_parent? found).1 listed
        exact ⟨id, List.mem_cons_self, above.tail link⟩
      · intro line member
        rcases siblings line member with ⟨start, listed, above⟩
        exact ⟨start, List.mem_cons_of_mem id listed, above⟩

/-- No node stands on two lines, if the outlines are those of different siblings. -/
theorem nodup
    (wellFormed : tree.WellFormed)
    (outlines : tree.Outlines depth ids lines)
    (distinct : ids.Nodup)
    {above : Option NodeId}
    (siblings : ∀ id ∈ ids, tree.parent? id = above) :
    (lines.map fun line => line.2.id).Nodup := by
  induction outlines generalizing above with
  | nil => exact List.nodup_nil
  | @cons depth id node others below further found children behind inside outside =>
      have named : node.id = id := id_of_get? found
      rw [List.nodup_cons] at distinct
      rw [List.forall_mem_cons] at siblings
      have parents : ∀ child ∈ node.children, tree.parent? child = some id :=
        fun _ listed => (wellFormed.mem_children_iff_parent? found).1 listed
      have childrenDistinct : node.children.Nodup :=
        wellFormed.ownsChildren.nodup_children node (mem_of_get? found)
      -- What stands on the lines of the node lies at or below it, and not below its siblings.
      have own : ∀ line ∈ (depth, node) :: below, tree.AtOrAbove id line.2.id := by
        rw [List.forall_mem_cons]
        constructor
        · rw [named]
          exact Relation.ReflTransGen.refl
        · intro line member
          rcases children.exists_atOrAbove wellFormed line member with ⟨child, listed, way⟩
          exact way.tail (parents child listed)
      have top : node.id ∉ below.map fun line => line.2.id := by
        intro member
        rcases List.mem_map.1 member with ⟨line, listed, same⟩
        rcases children.exists_atOrAbove wellFormed line listed with ⟨child, owned, way⟩
        rw [same, named] at way
        exact wellFormed.not_atOrAbove_of_parent? (parents child owned) way
      have apart : ∀ line ∈ (depth, node) :: below, ∀ other ∈ further,
          line.2.id ≠ other.2.id := by
        intro line listed other member same
        rcases behind.exists_atOrAbove wellFormed other member with ⟨start, among, way⟩
        have alike : tree.parent? id = tree.parent? start :=
          siblings.1.trans (siblings.2 start among).symm
        rw [← same] at way
        rw [wellFormed.eq_of_atOrAbove alike (own line listed) way] at distinct
        exact distinct.1 among
      rw [List.map_append, List.nodup_append]
      refine ⟨List.nodup_cons.2 ⟨top, inside childrenDistinct parents⟩,
        outside distinct.2 siblings.2, ?_⟩
      intro first onOwn second onOther
      rcases List.mem_map.1 onOwn with ⟨line, listed, rfl⟩
      rcases List.mem_map.1 onOther with ⟨other, member, rfl⟩
      exact apart line listed other member

end Outlines

/-- The nodes above a node. -/
def ancestors (tree : Tree) (id : NodeId) : Set NodeId :=
  {above | Relation.TransGen (fun child parent => tree.parent? child = some parent) id above}

theorem ancestors_of_top (top : tree.parent? id = none) : tree.ancestors id = ∅ := by
  refine Set.eq_empty_of_forall_notMem ?_
  intro above way
  rcases Relation.TransGen.head'_iff.1 way with ⟨parent, link, _⟩
  rw [top] at link
  cases link

theorem ancestors_of_parent? {parent : NodeId} (above : tree.parent? id = some parent) :
    tree.ancestors id = insert parent (tree.ancestors parent) := by
  ext upper
  have onwards : upper ∈ tree.ancestors id ↔ tree.AtOrAbove upper parent := by
    rw [ancestors, Set.mem_ofPred_eq, Relation.TransGen.head'_iff]
    simp [above, AtOrAbove]
  rw [onwards, AtOrAbove, Relation.reflTransGen_iff_eq_or_transGen]
  rfl

/-- The depth of a line is the number of nodes above its node. -/
theorem Outlines.encard_ancestors
    (wellFormed : tree.WellFormed)
    (outlines : tree.Outlines depth ids lines)
    (start : ∀ id ∈ ids, (tree.ancestors id).encard = depth) :
    ∀ line ∈ lines, (tree.ancestors line.2.id).encard = line.1 := by
  induction outlines with
  | nil => simp
  | @cons depth id node others below further found _ _ children siblings =>
      rw [List.forall_mem_cons] at start
      have deeper : ∀ child ∈ node.children,
          (tree.ancestors child).encard = (depth + 1 : Nat) := by
        intro child listed
        have outside : id ∉ tree.ancestors id := wellFormed.ownsChildren.acyclic id
        rw [ancestors_of_parent? ((wellFormed.mem_children_iff_parent? found).1 listed),
          Set.encard_insert_of_notMem outside, start.1, Nat.cast_succ]
      rw [List.cons_append, List.forall_mem_cons, List.forall_mem_append]
      refine ⟨?_, children deeper, siblings start.2⟩
      rw [id_of_get? found]
      exact start.1

/-! ## Order of creation -/

/-- The nodes stand in the order of their numbers. -/
def InOrder (tree : Tree) : Prop :=
  (tree.nodes.map Node.id).Pairwise fun first second => first.number < second.number

theorem ids_updated (tree : Tree) (id : NodeId) (delta : Props) :
    (tree.updated id delta).nodes.map Node.id = tree.nodes.map Node.id := by
  rw [updated]
  split
  · rfl
  · split_ifs
    · split
      · rw [ids_recompiledFrom, ids_put]
      · rfl
    · exact ids_modify fun _ named => named

theorem ids_freed (tree : Tree) (id : NodeId) :
    (tree.freed id).nodes.map Node.id = tree.nodes.map Node.id := by
  rw [freed]
  split
  · exact ids_detached tree _ id
  · rfl

/-- Nodes go from their places, and only the one with the next number comes behind them. -/
theorem sublist_ids_perform (tree : Tree) (edit : Edit) :
    ((tree.perform edit).nodes.map Node.id).Sublist
      (tree.nodes.map Node.id ++ [{ number := tree.issued + 1 }]) := by
  have kept : ∀ {next : Tree}, next.nodes.map Node.id = tree.nodes.map Node.id →
      (next.nodes.map Node.id).Sublist
        (tree.nodes.map Node.id ++ [{ number := tree.issued + 1 }]) := by
    intro next same
    rw [same]
    exact List.sublist_append_left ..
  cases edit with
  | create tag props =>
      rw [perform]
      cases Kind.resolve tag props with
      | error error => exact kept rfl
      | ok kind => simp [added]
  | update node delta => exact kept (ids_updated tree node delta)
  | appendChild parent child => exact kept (ids_attached ..)
  | insertBefore parent child before =>
      apply kept
      rw [perform]
      split_ifs
      · exact ids_recompiledFrom ..
      · exact (ids_recompiledFrom ..).trans (ids_arranged ..)
      · exact ids_attached ..
  | removeChild parent child => exact kept (ids_detached tree parent child)
  | destroy node =>
      have fewer : (((tree.freed node).without node).nodes.map Node.id).Sublist
          ((tree.freed node).nodes.map Node.id) :=
        List.filter_sublist.map Node.id
      exact fewer.trans (kept (ids_freed tree node))
  | setRoot node => exact kept rfl
  | clearRoot => exact kept rfl

theorem Consistent.inOrder_apply
    (consistent : tree.Consistent)
    (ordered : tree.InOrder)
    (edit : Edit) :
    (tree.apply edit).2.InOrder := by
  rw [consistent.apply_eq]
  cases tree.blueprint.verdict tree.derived? edit with
  | error error => exact ordered
  | ok result =>
      refine List.Pairwise.sublist (sublist_ids_perform tree edit) ?_
      rw [List.pairwise_append]
      refine ⟨ordered, List.pairwise_singleton .., ?_⟩
      intro id member next fresh
      rw [List.mem_singleton.1 fresh]
      rcases List.mem_map.1 member with ⟨node, there, rfl⟩
      exact Nat.lt_succ_of_le (consistent.wellFormed.ownsChildren.numbered node there).2

theorem Consistent.inOrder_after
    (consistent : tree.Consistent)
    (ordered : tree.InOrder)
    (edits : List Edit) :
    (tree.after edits).InOrder := by
  induction edits generalizing tree with
  | nil => exact ordered
  | cons edit rest hypothesis =>
      exact hypothesis (consistent.apply edit) (consistent.inOrder_apply ordered edit)

/-! ## The outline of a tree -/

/-- The nodes without a parent other than the root, in order of creation. -/
def otherTops (tree : Tree) : List NodeId :=
  (tree.nodes.filter fun node => node.parent.isNone && tree.root != some node.id).map Node.id

theorem tops_eq (tree : Tree) : tree.tops = tree.root.toList ++ tree.otherTops := rfl

theorem WellFormed.mem_otherTops_iff (wellFormed : tree.WellFormed) :
    id ∈ tree.otherTops ↔ tree.Live id ∧ tree.parent? id = none ∧ tree.root ≠ some id := by
  rw [otherTops, List.mem_map]
  constructor
  · rintro ⟨node, member, rfl⟩
    rcases List.mem_filter.1 member with ⟨there, chosen⟩
    have found := wellFormed.get?_of_mem there
    simp only [Bool.and_eq_true, Option.isNone_iff_eq_none, bne_iff_ne] at chosen
    exact ⟨wellFormed.live_of_mem there, by rw [parent?, found]; exact chosen.1, chosen.2⟩
  · rintro ⟨live, top, noRoot⟩
    rcases Option.isSome_iff_exists.1 live with ⟨node, found⟩
    have named := id_of_get? found
    rw [parent?, found] at top
    refine ⟨node, List.mem_filter.2 ⟨mem_of_get? found, ?_⟩, named⟩
    rw [show node.parent = none from top, named]
    simpa using noRoot

/-- At the top are the nodes without a parent. -/
theorem WellFormed.mem_tops_iff (wellFormed : tree.WellFormed) :
    id ∈ tree.tops ↔ tree.Live id ∧ tree.parent? id = none := by
  rw [tops_eq, List.mem_append, wellFormed.mem_otherTops_iff, Option.mem_toList]
  constructor
  · rintro (designated | ⟨live, top, _⟩)
    · rcases wellFormed.forest.root_top designated with ⟨present, top⟩
      rw [parent?_blueprint] at top
      exact ⟨live_iff_present.2 present, top⟩
    · exact ⟨live, top⟩
  · rintro ⟨live, top⟩
    by_cases designated : tree.root = some id
    · exact Or.inl designated
    · exact Or.inr ⟨live, top, designated⟩

theorem WellFormed.nodup_tops (wellFormed : tree.WellFormed) : tree.tops.Nodup := by
  have others : tree.otherTops.Nodup :=
    wellFormed.distinct.sublist (List.filter_sublist.map Node.id)
  rw [tops_eq]
  cases designated : tree.root with
  | none => exact others
  | some root =>
      have apart : root ∉ tree.otherTops :=
        fun member => (wellFormed.mem_otherTops_iff.1 member).2.2 designated
      exact List.nodup_cons.2 ⟨apart, others⟩

/-- Each node is shown, as it lies below one at the top. -/
theorem WellFormed.exists_mem_outline
    (wellFormed : tree.WellFormed)
    {node : Node}
    (found : tree.get? id = some node) :
    ∃ depth, (depth, node) ∈ tree.outline := by
  have present := present_blueprint found
  rcases wellFormed.forest.exists_top present with ⟨top, onWay, topPresent, free⟩
  rw [parent?_blueprint] at free
  have starts : top ∈ tree.tops :=
    wellFormed.mem_tops_iff.2 ⟨live_iff_present.2 topPresent, free⟩
  have reached : Reaches tree.nodes top id :=
    mem_subtree_iff_reaches.1 ((wellFormed.mem_subtree_iff present).2 onWay)
  have met : id ∈ tree.outline.map fun entry => entry.2.id := by
    rw [outline, mem_walk_iff]
    exact ⟨top, by simpa using starts, reached⟩
  rcases List.mem_map.1 met with ⟨⟨depth, other⟩, member, named⟩
  have there := wellFormed.get?_of_mem (mem_of_mem_walk member)
  rw [show other.id = id from named, found] at there
  cases there
  exact ⟨depth, member⟩

/-- The walk over a whole tree writes the outlines of its tops. -/
theorem WellFormed.outlines_outline (wellFormed : tree.WellFormed) :
    tree.Outlines 0 tree.tops tree.outline := by
  have each : ∀ id ∈ tree.tops, ∃ lines, tree.Outlines 0 [id] lines :=
    fun _ top => wellFormed.exists_outlines (wellFormed.mem_tops_iff.1 top).1 0
  rcases exists_outlines_of_forall each with ⟨lines, outlines⟩
  have distinct := outlines.nodup wellFormed wellFormed.nodup_tops
    fun _ top => (wellFormed.mem_tops_iff.1 top).2
  have written := outlines.walk_eq distinct outlines.get?_of_mem []
  rw [List.append_nil, walk, List.append_nil] at written
  rw [outline, written]
  exact outlines

/-- An outline of all that a forest holds. -/
structure OutlinesForest (tree : Tree) : Prop where
  /-- On the lines stand the nodes that are there, each on one line. -/
  perm_nodes : (tree.outline.map Prod.snd).Perm tree.nodes
  nodup_ids : (tree.outline.map fun line => line.2.id).Nodup
  /-- A line is as deep as there are nodes above its node. -/
  depth_eq : ∀ line ∈ tree.outline, (tree.ancestors line.2.id).encard = line.1
  /-- The root comes first and then, in the order of their numbers, all others without a parent. -/
  outlines :
    ∃ others,
      others.Pairwise (fun first second => first.number < second.number) ∧
        (∀ id, id ∈ others ↔ tree.Live id ∧ tree.parent? id = none ∧ tree.root ≠ some id) ∧
          tree.Outlines 0 (tree.root.toList ++ others) tree.outline
  /-- No node need be dropped on the walk. -/
  tours_iff : ∀ lines, tree.Tours (tree.tops.map (0, ·)) lines ↔ lines = tree.outline

theorem Consistent.outlinesForest
    (consistent : tree.Consistent)
    (ordered : tree.InOrder) :
    tree.OutlinesForest := by
  have wellFormed := consistent.wellFormed
  have outlines := wellFormed.outlines_outline
  have distinct := outlines.nodup wellFormed wellFormed.nodup_tops
    fun _ top => (wellFormed.mem_tops_iff.1 top).2
  constructor
  case perm_nodes =>
    have shown : ((tree.outline.map Prod.snd).map Node.id).Nodup := by
      rwa [List.map_map]
    refine (List.perm_ext_iff_of_nodup shown.of_map wellFormed.distinct.of_map).2 ?_
    intro node
    constructor
    · intro member
      rcases List.mem_map.1 member with ⟨line, listed, rfl⟩
      exact mem_of_mem_walk listed
    · intro member
      rcases wellFormed.exists_mem_outline (wellFormed.get?_of_mem member) with ⟨depth, listed⟩
      exact List.mem_map.2 ⟨_, listed, rfl⟩
  case nodup_ids => exact distinct
  case depth_eq =>
    apply outlines.encard_ancestors wellFormed
    intro id top
    rw [ancestors_of_top (wellFormed.mem_tops_iff.1 top).2, Set.encard_empty]
    rfl
  case outlines =>
    refine ⟨tree.otherTops, ?_, fun _ => wellFormed.mem_otherTops_iff, outlines⟩
    exact List.Pairwise.sublist (List.filter_sublist.map Node.id) ordered
  case tours_iff =>
    have toured := outlines.tours Tours.done
    rw [List.append_nil, List.append_nil] at toured
    intro lines
    refine ⟨toured.unique, ?_⟩
    rintro rfl
    exact toured

/--
After every run, refused edits included, the outline shows each node once, as deep as there
are nodes above it and in front of the outlines of its children, which follow at once and in
their order.  The tree of the root is shown first, if a root is set, and the others follow in
the order in which their tops were created.
-/
theorem outlines_forest_after_run (options : TreeOptions) (edits : List Edit) :
    ((withOptions options).after edits).OutlinesForest := by
  have start := consistent_withOptions options
  exact (start.after edits).outlinesForest (start.inOrder_after List.Pairwise.nil edits)

-- The root stands in front of a node that was created earlier.
example :
    ((withOptions {}).after
      [.create "noop" {}, .create "all" {}, .create "noop" {}, .create "noop" {},
        .appendChild { number := 2 } { number := 4 }, .appendChild { number := 2 } { number := 3 },
        .setRoot { number := 2 }]).outline.map (fun line => (line.1, line.2.id.number)) =
      [(0, 2), (1, 4), (1, 3), (0, 1)] := by
  cbv

end Tree

end ParserGraph

import ParserGraph.Proofs.Tree.Numbering

/-!
# Dropping a node

A node is taken from its parent and then dropped with all below it.  What is still to be
dropped is kept on a list: its last node is taken off and, if it is there, dropped, and its
children come on the list.  As nodes go while the list grows, what is left is told by
what can still be reached from the list.

All that lies below the node goes and nothing else does, so that what stays refers to what
stays only.
-/

namespace ParserGraph

/--
The nodes that are left once those still to be dropped are dropped with all below them.
The node that is taken next stands in front, and the last child of a node is taken first.
-/
def nodesDrained (nodes : List Node) (pending : List NodeId) : List Node :=
  match pending with
  | [] => nodes
  | id :: rest =>
      match _found : nodes.find? fun node => node.id == id with
      | none => nodesDrained nodes rest
      | some node => nodesDrained (nodesWithout id nodes) (node.children.reverse ++ rest)
termination_by (nodes.length, pending.length)
decreasing_by
  · exact Prod.Lex.right _ (Nat.lt_succ_self _)
  · exact Prod.Lex.left _ _ (length_nodesWithout_lt _found)

section Draining

variable {nodes : List Node} {id : NodeId} {node : Node}

theorem nodesDrained_of_missing
    (missing : (nodes.find? fun node => node.id == id) = none)
    (rest : List NodeId) :
    nodesDrained nodes (id :: rest) = nodesDrained nodes rest := by
  rw [nodesDrained]
  split
  · rfl
  · simp_all

theorem nodesDrained_of_found
    (found : (nodes.find? fun node => node.id == id) = some node)
    (rest : List NodeId) :
    nodesDrained nodes (id :: rest) =
      nodesDrained (nodesWithout id nodes) (node.children.reverse ++ rest) := by
  rw [nodesDrained]
  split
  · simp_all
  · rename_i same there
    rw [found] at there
    cases there
    rfl

end Draining

/-- What cannot be reached from what is still to be dropped is left. -/
theorem nodesDrained_eq_filter
    {keep : Node → Bool}
    (nodes : List Node)
    (pending : List NodeId)
    (kept : ∀ node ∈ nodes, keep node = true ↔ ¬ ∃ start ∈ pending, Reaches nodes start node.id) :
    nodesDrained nodes pending = nodes.filter keep := by
  induction nodes, pending using nodesDrained.induct with
  | case1 nodes =>
      rw [nodesDrained, List.filter_eq_self.2]
      intro node member
      simp [kept node member]
  | case2 nodes id rest missing hypothesis =>
      rw [nodesDrained_of_missing missing]
      apply hypothesis
      intro node member
      rw [kept node member, List.exists_mem_cons_iff,
        or_iff_right (Reaches.not_from_missing missing)]
  | case3 nodes id rest node found hypothesis =>
      have below : ∀ last, (∃ start ∈ id :: rest, Reaches nodes start last) ↔
          last = id ∨ ∃ start ∈ node.children.reverse ++ rest,
            Reaches (nodesWithout id nodes) start last := by
        intro last
        rw [Reaches.exists_mem_cons_iff found]
        simp only [List.mem_append, List.mem_reverse]
      have goes : nodesDrained (nodesWithout id nodes) (node.children.reverse ++ rest) =
          (nodesWithout id nodes).filter keep := by
        apply hypothesis
        intro other member
        rcases List.mem_filter.1 member with ⟨there, different⟩
        rw [kept other there, below, or_iff_right (by simpa using different)]
      rw [nodesDrained_of_found found, goes, nodesWithout, List.filter_filter]
      apply List.filter_congr
      intro other member
      by_cases same : other.id = id
      · have dropped : keep other = false := by
          rw [← Bool.not_eq_true, kept other member, below]
          simp [same]
        simp [dropped]
      · simp [same]

@[simp]
theorem Blueprint.root_freed (plan : Blueprint) (id : NodeId) :
    (plan.freed id).root = plan.root := by
  rw [freed]
  split <;> rfl

namespace Tree

variable {tree : Tree} {id other : NodeId}

/-- What the list leaves is what does not belong to the subtree. -/
theorem nodes_without (tree : Tree) (id : NodeId) :
    (tree.without id).nodes = nodesDrained tree.nodes [id] := by
  rw [nodesDrained_eq_filter tree.nodes [id], without]
  intro node _
  simp [mem_subtree_iff_reaches]

theorem Consistent.snd_apply_of_accepts
    (consistent : tree.Consistent)
    {edit : Edit}
    (accepted : tree.Accepts edit) :
    (tree.apply edit).2 = (tree.perform edit).accepted := by
  rcases consistent.accepts_iff.1 accepted with ⟨result, verdict⟩
  exact consistent.snd_apply_of_ok verdict

/-- The destroyed node is there, and if it has a parent, it may be taken from that. -/
theorem Consistent.accepts_removeChild_of_destroy
    (consistent : tree.Consistent)
    (accepted : tree.Accepts (.destroy id))
    {parent : NodeId}
    (above : tree.parent? id = some parent) :
    tree.Accepts (.removeChild parent id) := by
  rcases consistent.accepts_destroy_iff.1 accepted with ⟨node, found, top | ⟨upper, link, removes⟩⟩
  · simp [parent?, found, top] at above
  · have same : upper = parent := by simpa [parent?, found, link] using above
    rwa [← same]

/-- A node that was taken from its parent is there without one, and may be dropped. -/
theorem Consistent.accepts_destroy_of_removed
    (consistent : tree.Consistent)
    {parent : NodeId}
    (above : tree.parent? id = some parent)
    (removes : tree.Accepts (.removeChild parent id)) :
    (tree.apply (.removeChild parent id)).2.parent? id = none ∧
      (tree.apply (.removeChild parent id)).2.Accepts (.destroy id) := by
  have removed := consistent.snd_apply_of_accepts removes
  have present : tree.blueprint.Present id := by
    rw [← parent?_blueprint] at above
    exact Blueprint.present_of_parent? above
  have plan : (tree.apply (.removeChild parent id)).2.blueprint =
      tree.blueprint.detached parent id := by
    rw [removed]
    exact blueprint_detached tree parent id
  have top : (tree.apply (.removeChild parent id)).2.parent? id = none := by
    rw [← parent?_blueprint, plan, Blueprint.parent?_detached present, if_pos rfl]
  refine ⟨top, (consistent.apply _).accepts_destroy_iff.2 ?_⟩
  have stays : (tree.apply (.removeChild parent id)).2.blueprint.Present id := by
    rw [plan]
    exact Blueprint.present_detached.2 present
  rcases exists_get?_of_present stays with ⟨node, found⟩
  refine ⟨node, found, Or.inl ?_⟩
  simpa [parent?, found] using top

/-- To take a node from its parent and to drop it afterwards is to drop it, apart from the count. -/
theorem Consistent.apply_destroy_of_removed
    (consistent : tree.Consistent)
    (accepted : tree.Accepts (.destroy id))
    {parent : NodeId}
    (above : tree.parent? id = some parent) :
    let next := (tree.apply (.destroy id)).2
    ((tree.apply (.removeChild parent id)).2.apply (.destroy id)).2 =
      { next with version := next.version + 1 } := by
  intro next
  have removes := consistent.accepts_removeChild_of_destroy accepted above
  have removed := consistent.snd_apply_of_accepts removes
  have last := consistent.accepts_destroy_of_removed above removes
  have dropped : next = ((tree.detached parent id).without id).accepted := by
    have freed : tree.freed id = tree.detached parent id := by rw [Tree.freed, above]
    rw [← freed]
    exact consistent.snd_apply_of_accepts accepted
  have free : (tree.apply (.removeChild parent id)).2.freed id =
      (tree.detached parent id).accepted := by
    rw [Tree.freed, last.1, removed]
    rfl
  rw [(consistent.apply _).snd_apply_of_accepts last.2, Tree.perform, free, dropped]
  rfl

/-- All links of a tree lead to nodes that are there. -/
structure LinksLive (tree : Tree) : Prop where
  children : ∀ node ∈ tree.nodes, ∀ child ∈ node.children, tree.Live child
  parent : ∀ node ∈ tree.nodes, ∀ parent, node.parent = some parent → tree.Live parent
  root : ∀ id, tree.root = some id → tree.Live id

/-- Each end of a link has the other end among its own links. -/
theorem Consistent.linksLive (consistent : tree.Consistent) : tree.LinksLive := by
  have wellFormed := consistent.wellFormed
  constructor
  · intro node member child listed
    rcases (wellFormed.mem_children_iff node.id child).1 ⟨node, member, rfl, listed⟩ with
      ⟨other, there, named, _⟩
    exact named ▸ wellFormed.live_of_mem there
  · intro node member parent above
    rcases (wellFormed.mem_children_iff parent node.id).2 ⟨node, member, rfl, above⟩ with
      ⟨other, there, named, _⟩
    exact named ▸ wellFormed.live_of_mem there
  · intro id designated
    rcases wellFormed.ownsChildren.root_top id designated with ⟨node, there, named, _⟩
    exact named ▸ wellFormed.live_of_mem there

theorem Consistent.live_apply_destroy_iff
    (consistent : tree.Consistent)
    (accepted : tree.Accepts (.destroy id)) :
    (tree.apply (.destroy id)).2.Live other ↔
      tree.Live other ∧ ¬ Relation.ReflTransGen tree.Lists id other := by
  have drops : (Edit.destroy id).Drops tree other ↔ tree.AtOrAbove id other := by
    simp [Edit.Drops, accepted]
  have creates : tree.created (.destroy id) = [] := rfl
  rw [consistent.live_apply_iff, drops, consistent.wellFormed.reflTransGen_lists_iff, creates]
  simp

/-- What an accepted destruction leaves of a tree. -/
structure DropsSubtree (tree : Tree) (top : NodeId) (next : Tree) : Prop where
  /-- A node stays exactly if it is not the one that goes and does not lie below that. -/
  live_iff : ∀ id, next.Live id ↔ tree.Live id ∧ ¬ Relation.ReflTransGen tree.Lists top id
  links_live : next.LinksLive
  root_eq : next.root = if tree.root = some top then none else tree.root
  /-- The nodes are those that dropping one after the other leaves. -/
  nodes_eq : next.nodes = nodesDrained (tree.freed top).nodes [top]
  version_eq : next.version = tree.version + 1
  /-- To take the node from its parent is an edit, to drop it then another one. -/
  in_two_edits :
    ∀ parent, tree.parent? top = some parent →
      let between := (tree.apply (.removeChild parent top)).2
      tree.Accepts (.removeChild parent top) ∧ between.Accepts (.destroy top) ∧
        (between.apply (.destroy top)).2 = { next with version := next.version + 1 }

theorem Consistent.dropsSubtree
    (consistent : tree.Consistent)
    (accepted : tree.Accepts (.destroy id)) :
    tree.DropsSubtree id (tree.apply (.destroy id)).2 := by
  have dropped := consistent.snd_apply_of_accepts accepted
  constructor
  case live_iff => exact fun other => consistent.live_apply_destroy_iff accepted
  case links_live => exact (consistent.apply _).linksLive
  case root_eq =>
    have freed : (tree.freed id).root = tree.root :=
      (congrArg Blueprint.root (blueprint_freed tree id)).trans
        (Blueprint.root_freed tree.blueprint id)
    rw [dropped, ← freed]
    simp [Tree.perform, Tree.accepted, Tree.without]
  case nodes_eq =>
    rw [dropped]
    exact nodes_without (tree.freed id) id
  case version_eq =>
    rw [dropped]
    exact congrArg (· + 1) (version_perform tree (.destroy id))
  case in_two_edits =>
    intro parent above
    have removes := consistent.accepts_removeChild_of_destroy accepted above
    exact ⟨removes, (consistent.accepts_destroy_of_removed above removes).2,
      consistent.apply_destroy_of_removed accepted above⟩

/--
After every run, refused edits included, an accepted destruction drops the node and all
that lies below it over children, and nothing else.  What stays refers to what stays, and
the root is given up only if it is dropped.  If the node has a parent, it may as well be
taken from that by an edit of its own, which is counted besides.
-/
theorem destroy_drops_subtree
    (options : TreeOptions)
    (edits : List Edit)
    (id : NodeId)
    (accepted : ((withOptions options).after edits).Accepts (.destroy id)) :
    let tree := (withOptions options).after edits
    tree.DropsSubtree id (tree.apply (.destroy id)).2 :=
  ((consistent_withOptions options).after edits).dropsSubtree accepted

/-- A pair goes with its two texts; the series above it keeps its other text. -/
theorem destroy_drops_nested_pair :
    let edits : List Edit :=
      [.create "all" {}, .create "and" {}, .create "string" { text := some "a" },
        .create "string" { text := some "b" }, .create "string" { text := some "c" },
        .appendChild { number := 2 } { number := 3 }, .appendChild { number := 2 } { number := 4 },
        .appendChild { number := 1 } { number := 2 }, .appendChild { number := 1 } { number := 5 },
        .setRoot { number := 1 }]
    let tree := (withOptions {}).after edits
    let next := (tree.apply (.destroy { number := 2 })).2
    tree.Accepts (.destroy { number := 2 }) ∧
      tree.derived? { number := 1 } = some (.all [.and (.text "a") (.text "b"), .text "c"]) ∧
      tree.DropsSubtree { number := 2 } next ∧ ¬ next.Live { number := 3 } := by
  intro edits tree next
  have accepted : tree.Accepts (.destroy { number := 2 }) := ⟨none, rfl⟩
  have drops := destroy_drops_subtree {} edits { number := 2 } accepted
  have listed : tree.Lists { number := 2 } { number := 3 } := ⟨_, rfl, List.mem_cons_self⟩
  exact ⟨accepted, rfl, drops, fun live => ((drops.live_iff _).1 live).2 (.single listed)⟩

end Tree

end ParserGraph

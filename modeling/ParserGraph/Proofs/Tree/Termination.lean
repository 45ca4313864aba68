import ParserGraph.Proofs.Tree.Dropping
import ParserGraph.Proofs.Tree.Outlines
import ParserGraph.Proofs.Tree.Stages

/-!
# Walks over trees end

A loop over the nodes of a tree has nothing that shrinks.  On the way up from a node it goes on
as long as there is a parent, and on the way down it takes a node off a list and puts the
children of that there.  Both come to an end because a tree is a forest wherever such a loop
is run, also between the stages of an edit: the way up does not come back to a node, and no
node lies below two others on the list.

A run of a loop is told here without a bound on its rounds, so that a loop that goes on for
ever has none.
-/

namespace ParserGraph

/-! ## Ways up -/

/--
A run of the loop that goes up from a place: at each node a step is run, and if it goes through,
the loop goes on at the parent that the node has then.  The nodes are those that it comes to,
in order, and the outcome is what it answers and the tree behind it.
-/
inductive Change.ClimbRun (step : NodeId → Change Unit) :
    (before : Tree) → (place : Option NodeId) → (visited : List NodeId) →
      (outcome : Except EditError Unit × Tree) → Prop where
  | top (before : Tree) : ClimbRun step before none [] (.ok (), before)
  | failed {before after : Tree} {id : NodeId} {error : EditError}
      (stepped : (step id).on before = (.error error, after)) :
      ClimbRun step before (some id) [id] (.error error, after)
  | lost {before after : Tree} {id : NodeId}
      (stepped : (step id).on before = (.ok (), after)) (missing : after.get? id = none) :
      ClimbRun step before (some id) [id] (.error (.nodeNotFound id), after)
  | further {before middle : Tree} {id : NodeId} {node : Node} {visited : List NodeId}
      {outcome : Except EditError Unit × Tree}
      (stepped : (step id).on before = (.ok (), middle)) (found : middle.get? id = some node)
      (onwards : ClimbRun step middle node.parent visited outcome) :
      ClimbRun step before (some id) (id :: visited) outcome

/-- Different nodes of a tree, the last of which has no parent. -/
structure Tree.WayUp (tree : Tree) (visited : List NodeId) : Prop where
  distinct : visited.Nodup
  live : ∀ id ∈ visited, tree.Live id
  length_le : visited.length ≤ tree.nodes.length
  top : ∃ last, visited.getLast? = some last ∧ tree.parent? last = none

/-- The loop ends: it has one run, which comes to each node of a way up once. -/
def Change.ClimbEnds (step : NodeId → Change Unit) (start : NodeId) (tree : Tree) : Prop :=
  ∃ visited,
    tree.WayUp visited ∧
      ∀ others outcome,
        ClimbRun step tree (some start) others outcome ↔
          others = visited ∧ outcome = (climbUp step start).on tree

theorem Change.ClimbRun.unique
    {step : NodeId → Change Unit}
    {before : Tree}
    {place : Option NodeId}
    {visited others : List NodeId}
    {outcome other : Except EditError Unit × Tree}
    (run : ClimbRun step before place visited outcome)
    (again : ClimbRun step before place others other) :
    others = visited ∧ other = outcome := by
  induction run generalizing others other with
  | top before =>
      cases again
      exact ⟨rfl, rfl⟩
  | failed stepped =>
      cases again with
      | failed also => simp_all
      | lost also missing => simp_all
      | further also found onwards => simp_all
  | lost stepped missing =>
      cases again with
      | failed also => simp_all
      | lost also alsoMissing => simp_all
      | further also found onwards => simp_all
  | further stepped found onwards hypothesis =>
      cases again with
      | failed also => simp_all
      | lost also missing => simp_all
      | further also alsoFound alsoOnwards =>
          rw [stepped] at also
          cases also
          rw [found] at alsoFound
          cases alsoFound
          rcases hypothesis alsoOnwards with ⟨rfl, rfl⟩
          exact ⟨rfl, rfl⟩

theorem Change.ClimbRun.climbEnds
    {step : NodeId → Change Unit}
    {start : NodeId}
    {tree : Tree}
    {visited : List NodeId}
    (run : ClimbRun step tree (some start) visited ((climbUp step start).on tree))
    (way : tree.WayUp visited) :
    ClimbEnds step start tree := by
  refine ⟨visited, way, fun others outcome => ⟨run.unique, ?_⟩⟩
  rintro ⟨rfl, rfl⟩
  exact run

namespace Tree

variable {tree : Tree} {id : NodeId}

/-- The nodes on the way up from a node of a forest. -/
theorem WellFormed.wayUp (wellFormed : tree.WellFormed) (live : tree.Live id) :
    tree.WayUp (tree.blueprint.lineage id) := by
  have present := live_iff_present.1 live
  constructor
  case distinct => exact wellFormed.forest.nodup_lineageFrom (some id)
  case live =>
    intro other member
    exact live_iff_present.2 (wellFormed.forest.present_of_mem_lineage present member)
  case length_le =>
    apply wellFormed.length_climb_le
    rintro start ⟨⟩
    exact present
  case top =>
    rw [← parent?_blueprint]
    exact wellFormed.forest.exists_getLast?_lineage present

end Tree

namespace Change

variable {tree next : Tree} {id parent child : NodeId}

/-- The way up from a parent is walked to its end, where the child may stand. -/
theorem climbRun_passBelow
    (wellFormed : tree.WellFormed)
    (free : tree.parent? child = none)
    (live : tree.Live id) :
    ClimbRun (passBelow child) tree (some id) (tree.blueprint.lineage id)
      (if child ∈ tree.blueprint.lineage id then .error .cycleDetected else .ok (), tree) := by
  have forest := wellFormed.forest
  induction id using forest.parents_induction with
  | step id hypothesis =>
      rcases Option.isSome_iff_exists.1 live with ⟨node, found⟩
      have present := Tree.present_blueprint found
      have above : tree.blueprint.parent? id = node.parent :=
        Blueprint.parent?_eq (Tree.entryOf?_blueprint found)
      by_cases here : id = child
      · -- The child has nothing above it, so the walk is at its end as well.
        rw [← Tree.parent?_blueprint, ← here] at free
        rw [forest.lineage_eq_singleton present free, here, if_pos List.mem_cons_self]
        exact .failed (on_passBelow_self child)
      · have passed := on_passBelow_of_ne found here
        rw [forest.lineage_eq present, above]
        simp only [List.mem_cons, Ne.symm here, false_or]
        refine .further passed found ?_
        cases upwards : node.parent with
        | none =>
            rw [Blueprint.IsForest.lineageFrom_none, if_neg List.not_mem_nil]
            exact .top tree
        | some parent =>
            have link := above.trans upwards
            exact hypothesis parent link (Tree.live_iff_present.2 (forest.present_parent link))

/--
The way up from a combinator is compiled anew to its end.  The steps change the tree, but not
the blueprint, on which the way up lies.
-/
theorem climbRun_foldl_refreshedAt
    {plan : Blueprint}
    (forest : plan.IsForest)
    {tree : Tree}
    (same : tree.blueprint = plan)
    (wellFormed : tree.WellFormed)
    (combines : tree.Combines id) :
    ClimbRun refresh tree (some id) (plan.lineage id)
      (.ok (), (plan.lineage id).foldl Tree.refreshedAt tree) := by
  induction id using forest.parents_induction generalizing tree with
  | step id hypothesis =>
      have stepped := on_refresh_of_combines wellFormed combines
      have present : plan.Present id := same ▸ combines.present
      have still : (tree.refreshedAt id).blueprint = plan :=
        (Tree.blueprint_refreshedAt tree id).trans same
      rcases Tree.exists_get?_of_present (still ▸ present) with ⟨node, found⟩
      have above : plan.parent? id = node.parent :=
        still ▸ Blueprint.parent?_eq (Tree.entryOf?_blueprint found)
      rw [forest.lineage_eq present, above, List.foldl_cons]
      refine .further stepped found ?_
      cases upwards : node.parent with
      | none =>
          rw [Blueprint.IsForest.lineageFrom_none]
          exact .top _
      | some parent =>
          have next := wellFormed.refreshedAt id
          have link := above.trans upwards
          have combinesNext : (tree.refreshedAt id).Combines parent := by
            rw [← forest.mem_childrenOf, ← still] at link
            exact next.combines_of_mem link
          exact hypothesis parent link still next combinesNext

theorem climbRun_refresh
    (wellFormed : tree.WellFormed)
    (combines : tree.Combines id) :
    ClimbRun refresh tree (some id) (tree.blueprint.lineage id)
      (.ok (), tree.recompiledFrom (some id)) :=
  climbRun_foldl_refreshedAt wellFormed.forest rfl wellFormed combines

/-! ## Loops on trees of a run -/

theorem climbEnds_passBelow
    (wellFormed : tree.WellFormed)
    (free : tree.parent? child = none)
    (live : tree.Live parent) :
    ClimbEnds (passBelow child) parent tree := by
  refine ClimbRun.climbEnds ?_ (wellFormed.wayUp live)
  have present := Tree.live_iff_present.1 live
  rw [climbUp, on_bind_ok on_get, wellFormed.lineage_eq present, on_forM_passBelow
    fun _ member => wellFormed.forest.present_of_mem_lineage present member]
  exact climbRun_passBelow wellFormed free live

theorem climbEnds_refresh
    (wellFormed : tree.WellFormed)
    (combines : tree.Combines id) :
    ClimbEnds refresh id tree := by
  have way := wellFormed.wayUp (Tree.live_iff_present.2 combines.present)
  refine ClimbRun.climbEnds ?_ way
  have walked : (climbUp refresh id).on tree = (.ok (), tree.recompiledFrom (some id)) :=
    on_recompileUpwards wellFormed combines
  rw [walked]
  exact climbRun_refresh wellFormed combines

/-- A parent and a child that are let through are there, and the child has no parent. -/
theorem of_on_approach
    {result : Unit}
    (done : (approach parent child).on tree = (.ok result, next)) :
    next = tree ∧ tree.Live parent ∧ tree.parent? child = none := by
  rcases exists_of_on_bind done with ⟨parentNode, _, parentThere, afterParent⟩
  rcases get?_of_on_node parentThere with ⟨parentFound, rfl⟩
  rcases exists_of_on_bind afterParent with ⟨childNode, _, childThere, afterChild⟩
  rcases get?_of_on_node childThere with ⟨childFound, rfl⟩
  split_ifs at afterChild
  · cases afterChild
  · have last := (on_bind_ok on_get).symm.trans afterChild
    split_ifs at last with attached
    · cases last
    · cases last
      have free : childNode.parent = none := by
        rw [Bool.or_eq_true, not_or] at attached
        simpa using attached.1
      refine ⟨rfl, Option.isSome_iff_exists.2 ⟨parentNode, parentFound⟩, ?_⟩
      rw [Tree.parent?, childFound]
      exact free

end Change

/-! ## Ways down -/

/--
A run of the loop that drops nodes: the last of those still to be dropped, which stands in front
here, is taken off the list, and if it is there, it is dropped and its children come on the list.
-/
inductive DrainRun : (nodes : List Node) → (pending : List NodeId) →
    (popped : List NodeId) → (left : List Node) → Prop where
  | done (nodes : List Node) : DrainRun nodes [] [] nodes
  | missing {nodes left : List Node} {id : NodeId} {rest popped : List NodeId}
      (absent : (nodes.find? fun node => node.id == id) = none)
      (onwards : DrainRun nodes rest popped left) :
      DrainRun nodes (id :: rest) (id :: popped) left
  | dropped {nodes left : List Node} {id : NodeId} {node : Node} {rest popped : List NodeId}
      (found : (nodes.find? fun node => node.id == id) = some node)
      (onwards : DrainRun (nodesWithout id nodes) (node.children.reverse ++ rest) popped left) :
      DrainRun nodes (id :: rest) (id :: popped) left

theorem DrainRun.unique
    {nodes left rest : List Node}
    {pending popped others : List NodeId}
    (run : DrainRun nodes pending popped left)
    (again : DrainRun nodes pending others rest) :
    others = popped ∧ rest = left := by
  induction run generalizing others rest with
  | done nodes =>
      cases again
      exact ⟨rfl, rfl⟩
  | missing absent onwards hypothesis =>
      cases again with
      | missing alsoAbsent alsoOnwards =>
          rcases hypothesis alsoOnwards with ⟨rfl, rfl⟩
          exact ⟨rfl, rfl⟩
      | dropped found alsoOnwards => simp_all
  | dropped found onwards hypothesis =>
      cases again with
      | missing absent alsoOnwards => simp_all
      | dropped alsoFound alsoOnwards =>
          rw [found] at alsoFound
          cases alsoFound
          rcases hypothesis alsoOnwards with ⟨rfl, rfl⟩
          exact ⟨rfl, rfl⟩

namespace Tree

variable {tree : Tree} {id other : NodeId}

/-- At or below a node are the node and what is at or below its children. -/
theorem WellFormed.atOrAbove_iff
    (wellFormed : tree.WellFormed)
    {node : Node}
    (found : tree.get? id = some node) :
    tree.AtOrAbove id other ↔ other = id ∨ ∃ child ∈ node.children, tree.AtOrAbove child other := by
  rw [AtOrAbove, Relation.ReflTransGen.cases_tail_iff]
  simp only [wellFormed.mem_children_iff_parent? found, AtOrAbove, and_comm, eq_comm]

/-- Nothing is at or below both of two nodes. -/
def Apart (tree : Tree) (first second : NodeId) : Prop :=
  ∀ id, tree.AtOrAbove first id → ¬ tree.AtOrAbove second id

/-- The nodes to be dropped lie apart, and nothing at or below them has been dropped yet. -/
structure Awaits (tree : Tree) (nodes : List Node) (pending : List NodeId) : Prop where
  apart : pending.Pairwise tree.Apart
  live : ∀ start ∈ pending, tree.Live start
  there :
    ∀ start ∈ pending, ∀ id, tree.AtOrAbove start id →
      (nodes.find? fun node => node.id == id) = tree.get? id

theorem awaits_singleton (live : tree.Live id) : tree.Awaits tree.nodes [id] where
  apart := List.pairwise_singleton ..
  live := by simpa using live
  there _ _ _ _ := rfl

namespace Awaits

variable {nodes : List Node} {rest : List NodeId} {node : Node}

theorem get?_eq
    (awaits : tree.Awaits nodes (id :: rest))
    (found : (nodes.find? fun node => node.id == id) = some node) :
    tree.get? id = some node :=
  (awaits.there id List.mem_cons_self id .refl).symm.trans found

/-- A node that is popped lies neither below its children nor below others on the list. -/
theorem not_atOrAbove
    (awaits : tree.Awaits nodes (id :: rest))
    (wellFormed : tree.WellFormed)
    (found : tree.get? id = some node) :
    ∀ start ∈ node.children.reverse ++ rest, ¬ tree.AtOrAbove start id := by
  intro start member way
  rcases List.mem_append.1 member with listed | waiting
  · have link := (wellFormed.mem_children_iff_parent? found).1 (List.mem_reverse.1 listed)
    exact wellFormed.not_atOrAbove_of_parent? link way
  · exact (List.pairwise_cons.1 awaits.apart).1 start waiting id .refl way

/-- What a round of the loop keeps. -/
theorem dropped
    (awaits : tree.Awaits nodes (id :: rest))
    (wellFormed : tree.WellFormed)
    (found : tree.get? id = some node) :
    tree.Awaits (nodesWithout id nodes) (node.children.reverse ++ rest) := by
  have outside := awaits.not_atOrAbove wellFormed found
  rcases List.pairwise_cons.1 awaits.apart with ⟨ahead, apart⟩
  have owned : ∀ {child}, child ∈ node.children.reverse → tree.parent? child = some id := by
    intro child listed
    exact (wellFormed.mem_children_iff_parent? found).1 (List.mem_reverse.1 listed)
  have under : ∀ {child other}, child ∈ node.children.reverse → tree.AtOrAbove child other →
      tree.AtOrAbove id other :=
    fun listed way => way.tail (owned listed)
  constructor
  case apart =>
    have distinct : node.children.reverse.Nodup :=
      List.nodup_reverse.2 (wellFormed.ownsChildren.nodup_children node (mem_of_get? found))
    refine List.pairwise_append.2 ⟨distinct.imp_of_mem ?_, apart, ?_⟩
    · intro first second firstListed secondListed different other above also
      have siblings := (owned firstListed).trans (owned secondListed).symm
      exact different (wellFormed.eq_of_atOrAbove siblings above also)
    · intro child listed waiting member other above
      exact ahead waiting member other (under listed above)
  case live =>
    intro start member
    rcases List.mem_append.1 member with listed | waiting
    · exact live_of_parent? (owned listed)
    · exact awaits.live start (List.mem_cons_of_mem id waiting)
  case there =>
    intro start member other way
    have different : other ≠ id := by
      rintro rfl
      exact outside start member way
    rw [find?_nodesWithout nodes different]
    rcases List.mem_append.1 member with listed | waiting
    · exact awaits.there id List.mem_cons_self other (under listed way)
    · exact awaits.there start (List.mem_cons_of_mem id waiting) other way

/-- Each node on the list is popped once with all that lies below it. -/
theorem exists_drainRun
    {pending : List NodeId}
    (awaits : tree.Awaits nodes pending)
    (wellFormed : tree.WellFormed) :
    ∃ popped,
      DrainRun nodes pending popped (nodesDrained nodes pending) ∧ popped.Nodup ∧
        ∀ id, id ∈ popped ↔ ∃ start ∈ pending, tree.AtOrAbove start id := by
  induction nodes, pending using nodesDrained.induct with
  | case1 nodes =>
      rw [nodesDrained]
      exact ⟨[], .done nodes, List.nodup_nil, by simp⟩
  | case2 nodes id rest missing hypothesis =>
      have live := awaits.live id List.mem_cons_self
      rw [Live, ← awaits.there id List.mem_cons_self id .refl, missing] at live
      cases live
  | case3 nodes id rest node there hypothesis =>
      have found := awaits.get?_eq there
      have outside := awaits.not_atOrAbove wellFormed found
      rcases hypothesis (awaits.dropped wellFormed found) with ⟨popped, run, distinct, popped_iff⟩
      rw [nodesDrained_of_found there]
      refine ⟨id :: popped, .dropped there run, List.nodup_cons.2 ⟨?_, distinct⟩, ?_⟩
      · rw [popped_iff]
        rintro ⟨start, member, way⟩
        exact outside start member way
      · intro other
        rw [List.mem_cons, popped_iff, List.exists_mem_cons_iff, wellFormed.atOrAbove_iff found]
        simp only [List.mem_append, List.mem_reverse, or_and_right, exists_or, or_assoc]

end Awaits

/-- The loop that drops a node with all below it pops each of them once, and nothing else. -/
theorem WellFormed.exists_drainRun_without
    (wellFormed : tree.WellFormed)
    (live : tree.Live id) :
    ∃ popped,
      DrainRun tree.nodes [id] popped (tree.without id).nodes ∧ popped.Nodup ∧
        ∀ other, other ∈ popped ↔ tree.Live other ∧ ¬ (tree.without id).Live other := by
  rcases (awaits_singleton live).exists_drainRun wellFormed with
    ⟨popped, run, distinct, popped_iff⟩
  rw [← nodes_without] at run
  refine ⟨popped, run, distinct, ?_⟩
  intro other
  have below : tree.AtOrAbove id other → tree.Live other := live.of_atOrAbove
  have goes : (tree.without id).Live other ↔ tree.Live other ∧ ¬ tree.AtOrAbove id other := by
    rw [Live, wellFormed.get?_without, ← wellFormed.mem_lineage_iff_atOrAbove]
    split_ifs with onWay <;> simp [onWay, Live]
  have single_start : (∃ start ∈ [id], tree.AtOrAbove start other) ↔ tree.AtOrAbove id other := by
    simp
  rw [popped_iff, single_start, goes]
  tauto

end Tree

namespace Change

variable {tree next : Tree} {id : NodeId}

/-- The loop of a destruction is run on the tree from whose links the node has been taken. -/
theorem eq_freed_of_on_recompile
    (wellFormed : tree.WellFormed)
    {result : Unit}
    (done : (prepare (.destroy id) >>= recompile).on tree = (.ok result, next)) :
    tree.Live id ∧ next = tree.freed id := by
  rcases exists_of_on_bind done with ⟨place, middle, prepared, recompiled⟩
  rcases exists_of_on_bind prepared with ⟨node, _, there, rest⟩
  rcases get?_of_on_node there with ⟨found, rfl⟩
  refine ⟨Option.isSome_iff_exists.2 ⟨node, found⟩, ?_⟩
  rw [Tree.freed, Tree.parent?, found, Option.bind_some]
  cases above : node.parent with
  | none =>
      rw [above] at rest
      cases rest
      cases recompiled
      rfl
  | some parent =>
      rw [above] at rest
      rcases exists_of_on_bind rest with ⟨_, _, unlinked, last⟩
      cases last
      rw [on_unlink wellFormed] at unlinked
      rcases eq_of_outcome_eq_ok unlinked with ⟨allowed, rfl⟩
      rcases wellFormed_unlinked wellFormed allowed with ⟨forest, combines⟩
      rw [recompile_some, on_recompileUpwards forest combines] at recompiled
      cases recompiled
      rfl

end Change

namespace Tree

variable {tree : Tree}

/--
The loops that an edit runs end, each on the tree on which it is run.  The stages of the edit
tell which trees these are.
-/
structure WalksEnd (tree : Tree) (edit : Edit) : Prop where
  stages :
    Change.edit edit = do
      let place ← Change.prepare edit
      Change.recompile place
      Change.conclude edit
  check_stages :
    ∀ parent child,
      Change.checkAttachable parent child = do
        Change.approach parent child
        Change.climbUp (Change.passBelow child) parent
  /-- A child is looked for on the whole way up from a parent, at the end of which it may be. -/
  check :
    ∀ parent child next,
      (Change.approach parent child).on tree = (.ok (), next) →
        Change.ClimbEnds (Change.passBelow child) parent next
  /-- The way up is compiled anew behind the change of the children and of the parent. -/
  recompilation :
    ∀ place next,
      (Change.prepare edit).on tree = (.ok (some place), next) →
        Change.ClimbEnds Change.refresh place next
  /-- Each node that goes is popped once, and nothing else is popped. -/
  destruction :
    ∀ id next,
      edit = .destroy id →
        (Change.prepare edit >>= Change.recompile).on tree = (.ok (), next) →
          ∃ popped,
            popped.Nodup ∧
              (∀ other, other ∈ popped ↔ tree.Live other ∧ ¬ (tree.apply edit).2.Live other) ∧
                ∀ others left,
                  DrainRun next.nodes [id] others left ↔
                    others = popped ∧ left = (tree.apply edit).2.nodes

/-- A destruction ends with the loop that drops nodes, behind the last of its stages before. -/
theorem snd_apply_destroy
    {next : Tree}
    {id : NodeId}
    (done : (Change.prepare (.destroy id) >>= Change.recompile).on tree = (.ok (), next)) :
    (tree.apply (.destroy id)).2 = (next.without id).accepted := by
  have stages : Change.edit (.destroy id) =
      (Change.prepare (.destroy id) >>= Change.recompile) >>=
        fun _ => Change.conclude (.destroy id) := by
    rw [Change.edit_eq, bind_assoc]
  have whole : (Change.edit (.destroy id)).on tree = (Change.conclude (.destroy id)).on next := by
    rw [stages]
    exact Change.on_bind_ok done
  exact congrArg Prod.snd whole

theorem Consistent.walksEnd (consistent : tree.Consistent) (edit : Edit) : tree.WalksEnd edit := by
  have wellFormed := consistent.wellFormed
  constructor
  case stages => exact Change.edit_eq edit
  case check_stages => exact Change.checkAttachable_eq
  case check =>
    intro parent child next approached
    rcases Change.of_on_approach approached with ⟨rfl, live, free⟩
    exact Change.climbEnds_passBelow wellFormed free live
  case recompilation =>
    intro place next prepared
    rcases Change.wellFormed_of_on_prepare consistent prepared with ⟨forest, combines⟩
    exact Change.climbEnds_refresh forest combines
  case destruction =>
    rintro id next rfl done
    rcases Change.eq_freed_of_on_recompile wellFormed done with ⟨live, rfl⟩
    have kept : ∀ {other}, (tree.freed id).Live other ↔ tree.Live other := by
      intro other
      rw [live_iff_present, live_iff_present, blueprint_freed, Blueprint.present_freed]
    have freed := (consistent.freed id).wellFormed
    rcases freed.exists_drainRun_without (kept.2 live) with ⟨popped, run, distinct, popped_iff⟩
    rw [snd_apply_destroy done]
    refine ⟨popped, distinct, ?_, fun others left => ⟨run.unique, ?_⟩⟩
    · intro other
      rw [popped_iff, kept]
      rfl
    · rintro ⟨rfl, rfl⟩
      exact run

/--
On every tree of a run, refused edits included, the loops of every edit end.  A loop that goes
up, be it to look for a child above its parent or to compile anew what lies above a change,
comes to different nodes that are there, and so to no more than there are, the last of which
has no parent.  The loop that drops a node pops each node that goes once, and no other one.
-/
theorem walks_end_in_run (options : TreeOptions) (edits : List Edit) (edit : Edit) :
    ((withOptions options).after edits).WalksEnd edit :=
  ((consistent_withOptions options).after edits).walksEnd edit

end Tree

end ParserGraph

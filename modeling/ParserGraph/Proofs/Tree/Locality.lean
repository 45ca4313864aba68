import Mathlib.Logic.Relation
import ParserGraph.Proofs.Tree.Commuting

/-!
# How far an edit reaches

An edit changes one place of a tree, and what it changes there is passed on upwards, as
far as there are parents.  All other nodes stay as they are, but for the parent of the
node that is attached or detached.  The nodes on the way up keep their children and their
parents; they are compiled anew, and those that get their first parser merge the props
that they kept aside.
-/

namespace ParserGraph

/-! ## Ways up -/

/-- A way up depends on the parents of the nodes on it only. -/
theorem climb_congr
    {first second : NodeId → Option NodeId}
    {fuel : Nat}
    {place : Option NodeId}
    (alike : ∀ id ∈ climb first fuel place, first id = second id) :
    climb first fuel place = climb second fuel place := by
  induction fuel generalizing place with
  | zero => rfl
  | succ fuel hypothesis =>
      cases place with
      | none => simp
      | some id =>
          rw [climb, List.forall_mem_cons] at alike
          rw [climb, climb, hypothesis alike.2, alike.1]

namespace Blueprint

variable {plan next : Blueprint} {id child parent : NodeId}

/-- The way up is the way from parents to parents. -/
theorem IsForest.mem_lineage_iff_reflTransGen (forest : plan.IsForest) :
    id ∈ plan.lineage child ↔
      Relation.ReflTransGen (fun lower upper => plan.parent? lower = some upper) child id := by
  constructor
  · intro member
    refine forall_mem_climb (fun above reached => reached.tail above) _ ?_ id member
    rintro start ⟨⟩
    exact Relation.ReflTransGen.refl
  · intro reached
    induction reached with
    | refl => exact mem_lineage_self plan child
    | @tail lower upper reached above hypothesis =>
        refine forest.mem_lineage_parent ?_ hypothesis above
        -- Whoever has a parent is there, and so is the start of a way that goes on.
        rcases Relation.ReflTransGen.cases_head reached with rfl | ⟨second, first, _⟩
        · exact present_of_parent? above
        · exact present_of_parent? first

/-- The parent does not lie below its child. -/
theorem IsForest.not_mem_lineage_of_parent?
    (forest : plan.IsForest)
    (above : plan.parent? child = some parent) :
    child ∉ plan.lineage parent := by
  have apart := forest.not_mem_lineageFrom_parent? (present_of_parent? above)
  rwa [above] at apart

theorem parent?_linked_of_ne {above : Option NodeId} (different : id ≠ child) :
    (plan.linked child above).parent? id = plan.parent? id := by
  rw [linked, parent?, entryOf?_alter, if_neg different]
  rfl

/-- Another parent of a node that does not lie on a way up leaves that way. -/
theorem lineageFrom_congr
    {place : Option NodeId}
    (issued : next.issued = plan.issued)
    (parents : ∀ other, other ≠ child → next.parent? other = plan.parent? other)
    (apart : child ∉ plan.lineageFrom place) :
    next.lineageFrom place = plan.lineageFrom place := by
  rw [lineageFrom, lineageFrom, issued]
  refine (climb_congr ?_).symm
  intro id member
  refine (parents id ?_).symm
  rintro rfl
  exact apart member

end Blueprint

/-! ## What compiling anew makes of a node -/

/-- What a node is made of, apart from its parsers and its place among the others. -/
structure Node.SameContent (node after : Node) : Prop where
  kind : after.kind = node.kind
  decoration : after.decoration = node.decoration
  staged : after.staged = node.staged

/-- A node has got a parser and has merged the props that it kept aside. -/
structure Node.Replayed (node after : Node) : Prop where
  waiting : node.isCompiled = false
  compiled : after.isCompiled = true
  merged :
    ∃ props, node.staged = some props ∧ after.kind = node.kind.withProps props ∧
      after.decoration = node.decoration.overlay props ∧ after.staged = none

/-- A node stands where it stood and is what it was, or has merged the props it kept aside. -/
structure Node.KeepsPlace (node after : Node) : Prop where
  id : after.id = node.id
  children : after.children = node.children
  parent : after.parent = node.parent
  content : node.SameContent after ∨ node.Replayed after

theorem Node.KeepsPlace.refl (node : Node) : node.KeepsPlace node :=
  ⟨rfl, rfl, rfl, Or.inl ⟨rfl, rfl, rfl⟩⟩

/-- A combinator that is combined anew merges at most the props that it kept aside. -/
theorem Node.keepsPlace_refreshed
    {node : Node}
    (derived? : NodeId → Option Parser)
    (combinator : node.kind.isLeaf = false)
    (settled : node.isCompiled = true → node.staged = none) :
    node.KeepsPlace (node.refreshed derived?) := by
  have entry : (node.refreshed derived?).entry = node.entry := Node.entry_refreshed
  refine ⟨Node.id_refreshed, congrArg Entry.children entry, congrArg Entry.parent entry, ?_⟩
  rw [refreshed]
  split_ifs with complete
  · cases kept : node.staged with
    | none =>
        rw [Node.absorbed_of_staged kept]
        exact Or.inl ⟨rfl, rfl, rfl⟩
    | some props =>
        refine Or.inr ⟨?_, ?_, props, kept, ?_, ?_, rfl⟩
        · cases compiled : node.isCompiled with
          | false => rfl
          | true => simp [settled compiled] at kept
        · have remains := Kind.isSome_assemble?_withProps combinator props node.children derived?
          simp [Node.isCompiled, withCombined, absorbed, merged, kept, remains, complete]
        · simp [withCombined, absorbed, merged, kept]
        · simp [withCombined, absorbed, merged, kept]
  · exact Or.inl ⟨rfl, rfl, rfl⟩

namespace Tree

variable {tree next : Tree} {id other parent child : NodeId} {place : Option NodeId} {node : Node}

/-- A node on the way up is combined anew once. -/
theorem exists_get?_recompiledFrom
    (wellFormed : tree.WellFormed)
    (found : tree.get? id = some node)
    (onWay : id ∈ tree.blueprint.lineageFrom place) :
    ∃ derived?, (tree.recompiledFrom place).get? id = some (node.refreshed derived?) := by
  have distinct := wellFormed.forest.nodup_lineageFrom place
  rw [recompiledFrom]
  clear wellFormed
  generalize tree.blueprint.lineageFrom place = ids at onWay distinct
  induction ids generalizing tree with
  | nil => cases onWay
  | cons first rest hypothesis =>
      rcases List.nodup_cons.1 distinct with ⟨apart, restDistinct⟩
      rw [List.foldl_cons]
      by_cases same : id = first
      · subst same
        have named : (node.refreshed tree.derived?).id = id := by
          rw [Node.id_refreshed, id_of_get? found]
        have there : tree.get? (node.refreshed tree.derived?).id = some node := by
          rw [named, found]
        refine ⟨tree.derived?, ?_⟩
        rw [get?_foldl_refreshedAt apart, refreshedAt_eq found, get?_put there, if_pos named.symm]
      · have member := (List.mem_cons.1 onWay).resolve_left same
        exact hypothesis ((get?_refreshedAt_of_ne same).trans found) member restDistinct

end Tree

/-! ## The place of an edit -/

namespace Edit

/-- The node from which an edit is passed on upwards, if there is one. -/
def place? (edit : Edit) (tree : Tree) : Option NodeId :=
  match edit with
  | .update node _ => some node
  | .appendChild parent _ => some parent
  | .insertBefore parent _ _ => some parent
  | .removeChild parent _ => some parent
  | .destroy node => tree.parent? node
  | .create _ _ => none
  | .setRoot _ => none
  | .clearRoot => none

/-- The parent of a node behind an edit, given its parent before. -/
def parentAfter (edit : Edit) (id : NodeId) (parent : Option NodeId) : Option NodeId :=
  match edit with
  | .appendChild above child => if id = child then some above else parent
  | .insertBefore above child _ => if id = child then some above else parent
  | .removeChild _ child => if id = child then none else parent
  | _ => parent

end Edit

/--
Off the way up from a place nodes change their parents at most, and on it, apart from the
place itself, they keep their places.  Only nodes that are there in both trees count.
-/
structure Tree.Framed
    (tree next : Tree)
    (place : Option NodeId)
    (relink : NodeId → Option NodeId → Option NodeId) : Prop where
  outside :
    ∀ {id node after}, tree.get? id = some node → next.get? id = some after →
      id ∉ tree.blueprint.lineageFrom place → after = { node with parent := relink id node.parent }
  above :
    ∀ {id node after}, tree.get? id = some node → next.get? id = some after →
      id ∈ tree.blueprint.lineageFrom place → place ≠ some id → node.KeepsPlace after

namespace Tree

variable {tree middle next : Tree} {id other parent child : NodeId} {place above : Option NodeId}
  {relink : NodeId → Option NodeId → Option NodeId}

/-- Where all nodes but the place itself stay the same, nothing is touched off the place. -/
theorem framed_of_get?
    (same : ∀ {id node}, tree.get? id = some node → place ≠ some id → next.get? id = some node) :
    tree.Framed next place fun _ parent => parent where
  outside := by
    intro id node after found later off
    have elsewhere : place ≠ some id := by
      rintro rfl
      exact off (Blueprint.IsForest.mem_lineage_self tree.blueprint id)
    rw [same found elsewhere] at later
    exact (Option.some.inj later).symm
  above := by
    intro id node after found later _ elsewhere
    rw [same found elsewhere] at later
    exact Option.some.inj later ▸ Node.KeepsPlace.refl node

/-- A tree that was changed at one place and then compiled anew upwards from there. -/
theorem Consistent.framed_recompiledFrom
    (consistent : tree.Consistent)
    (wellFormed : middle.WellFormed)
    (nodes : ∀ id, place ≠ some id →
      middle.get? id = (tree.get? id).map fun node => { node with parent := relink id node.parent })
    (way : middle.blueprint.lineageFrom above = tree.blueprint.lineageFrom above)
    (reach : ∀ id, place ≠ some id →
      (id ∈ tree.blueprint.lineageFrom above ↔ id ∈ tree.blueprint.lineageFrom place))
    (keeps : ∀ id ∈ tree.blueprint.lineageFrom above, ∀ parent, relink id parent = parent)
    (combines : ∀ id ∈ tree.blueprint.lineageFrom above, tree.Combines id) :
    tree.Framed (middle.recompiledFrom above) place relink where
  outside := by
    intro id node after found later off
    have elsewhere : place ≠ some id := by
      rintro rfl
      exact off (Blueprint.IsForest.mem_lineage_self tree.blueprint id)
    have unreached : id ∉ middle.blueprint.lineageFrom above := by
      rw [way, reach id elsewhere]
      exact off
    rw [get?_recompiledFrom unreached, nodes id elsewhere, found] at later
    exact (Option.some.inj later).symm
  above := by
    intro id node after found later onWay elsewhere
    have reached := (reach id elsewhere).2 onWay
    have there : middle.get? id = some node := by
      rw [nodes id elsewhere, found, Option.map_some, keeps id reached]
    rw [← way] at reached
    rcases exists_get?_recompiledFrom wellFormed there reached with ⟨derived?, refreshed⟩
    rw [refreshed] at later
    cases later
    rw [way] at reached
    rcases combines id reached with ⟨same, foundSame, combinator⟩
    rw [found] at foundSame
    cases foundSame
    have settled := consistent.coherent id node found List.not_mem_nil
    exact Node.keepsPlace_refreshed derived? combinator settled.staged_eq_none

/-- Children are placed anew and a node that is not above them gets another parent. -/
theorem Consistent.framed_relinked
    (consistent : tree.Consistent)
    {arrange : List NodeId → List NodeId}
    (forest : ((tree.blueprint.arranged parent arrange).linked child above).IsForest)
    (combines : tree.Combines parent)
    (apart : child ∉ tree.blueprint.lineage parent) :
    tree.Framed
      (((tree.arranged parent arrange).linked child above).recompiledFrom (some parent))
      (some parent) fun id old => if id = child then above else old := by
  refine consistent.framed_recompiledFrom (consistent.wellFormed.relinked forest) ?_ ?_
    (fun _ _ => Iff.rfl) ?_ (consistent.wellFormed.combines_of_mem_lineage combines)
  · intro id elsewhere
    have different : id ≠ parent := mt (congrArg some) elsewhere.symm
    rw [get?_linked, get?_arranged_of_ne different]
  · rw [blueprint_linked, blueprint_arranged]
    refine Blueprint.lineageFrom_congr rfl ?_ apart
    intro other different
    rw [Blueprint.parent?_linked_of_ne different, Blueprint.parent?_arranged]
  · intro id onWay old
    refine if_neg ?_
    rintro rfl
    exact apart onWay

/-- Children are placed anew, and all parents stay. -/
theorem Consistent.framed_rearranged
    (consistent : tree.Consistent)
    {arrange : List NodeId → List NodeId}
    (forest : (tree.blueprint.arranged parent arrange).IsForest)
    (combines : tree.Combines parent) :
    tree.Framed ((tree.arranged parent arrange).recompiledFrom (some parent)) (some parent)
      fun _ old => old := by
  refine consistent.framed_recompiledFrom (consistent.wellFormed.arranged forest) ?_ ?_
    (fun _ _ => Iff.rfl) (fun _ _ _ => rfl) (consistent.wellFormed.combines_of_mem_lineage combines)
  · intro id elsewhere
    have different : id ≠ parent := mt (congrArg some) elsewhere.symm
    rw [get?_arranged_of_ne different]
    simp
  · rw [blueprint_arranged, Blueprint.lineageFrom, Blueprint.parent?_arranged]
    rfl

theorem Consistent.framed_detached
    (consistent : tree.Consistent)
    (member : child ∈ tree.blueprint.childrenOf parent) :
    tree.Framed (tree.detached parent child) (some parent)
      fun id old => if id = child then none else old :=
  consistent.framed_relinked (consistent.wellFormed.forest.detached member)
    (consistent.wellFormed.combines_of_mem member)
    (consistent.wellFormed.forest.not_mem_lineage_of_parent?
      (consistent.wellFormed.forest.mem_childrenOf.1 member))

/-- A node that had a parent already, or none, may be said to get it. -/
theorem Framed.relinked
    (framed : tree.Framed next place fun _ old => old)
    (owned : tree.blueprint.parent? child = above) :
    tree.Framed next place fun id old => if id = child then above else old := by
  refine ⟨?_, framed.above⟩
  intro id node after found later off
  rw [framed.outside found later off]
  split_ifs with same
  · subst same
    rw [Blueprint.parent?_eq (entryOf?_blueprint found), Node.parent_entry] at owned
    rw [owned]
  · rfl

theorem Consistent.framed_freed (consistent : tree.Consistent) (dropped : NodeId) :
    tree.Framed (tree.freed dropped) (tree.parent? dropped)
      fun id old => if id = dropped then none else old := by
  rw [Tree.freed, ← parent?_blueprint]
  cases above : tree.blueprint.parent? dropped with
  | some parent =>
      exact consistent.framed_detached (consistent.wellFormed.forest.mem_childrenOf.2 above)
  | none =>
      have framed : tree.Framed tree none fun _ old => old := framed_of_get? fun found _ => found
      exact framed.relinked above

/-- A node that stays where others are dropped is not the dropped one, and is left alone. -/
theorem Framed.without
    {dropped : NodeId}
    (framed : tree.Framed middle place fun id old => if id = dropped then none else old)
    (wellFormed : middle.WellFormed) :
    tree.Framed (middle.without dropped) place fun _ old => old := by
  have stays : ∀ {id after}, (middle.without dropped).get? id = some after →
      middle.get? id = some after ∧ id ≠ dropped := by
    intro id after later
    rw [wellFormed.get?_without] at later
    split_ifs at later with below
    refine ⟨later, ?_⟩
    rintro rfl
    exact below (Blueprint.IsForest.mem_lineage_self _ id)
  constructor
  · intro id node after found later off
    rcases stays later with ⟨there, different⟩
    rw [framed.outside found there off, if_neg different]
  · intro id node after found later onWay elsewhere
    exact framed.above found (stays later).1 onWay elsewhere

theorem Consistent.framed_updated
    (consistent : tree.Consistent)
    {delta : Props}
    (allowed : tree.blueprint.checkUpdate tree.derived? id delta = .ok ()) :
    tree.Framed (tree.updated id delta) (some id) fun _ old => old := by
  rcases exists_get?_of_present (Blueprint.present_of_checkUpdate allowed) with ⟨node, found⟩
  have settled := consistent.coherent id node found List.not_mem_nil
  rw [checkUpdate_blueprint found settled] at allowed
  rw [Tree.updated]
  simp only [found]
  split_ifs at allowed ⊢ with compiled
  · cases done : node.updated tree.derived? delta with
    | error error => simp [done, Except.map] at allowed
    | ok changed =>
        have named : changed.id = id :=
          (Node.entry_updated (settled.staged_eq_none compiled) done).1.trans (id_of_get? found)
        have there : tree.get? changed.id = some node := by rw [named, found]
        have above : tree.blueprint.parent? id = node.parent :=
          Blueprint.parent?_eq (entryOf?_blueprint found)
        refine consistent.framed_recompiledFrom (consistent.wellFormed_merged found compiled done)
          ?_ ?_ ?_ (fun _ _ _ => rfl) ?_
        · intro other elsewhere
          have different : other ≠ id := mt (congrArg some) elsewhere.symm
          rw [get?_put there, named, if_neg different]
          simp
        · rw [consistent.blueprint_merged found compiled done, Blueprint.lineageFrom_withProps]
        · intro other elsewhere
          have different : other ≠ id := mt (congrArg some) elsewhere.symm
          have way : tree.blueprint.lineageFrom (some id) =
              id :: tree.blueprint.lineageFrom (tree.blueprint.parent? id) :=
            consistent.wellFormed.forest.lineage_eq (present_blueprint found)
          rw [way, above, List.mem_cons, or_iff_right different]
        · intro other onWay
          rw [← above] at onWay
          cases upper : tree.blueprint.parent? id with
          | none => simp [upper] at onWay
          | some parent =>
              rw [upper] at onWay
              have member := consistent.wellFormed.forest.mem_childrenOf.2 upper
              exact consistent.wellFormed.combines_of_mem_lineage
                (consistent.wellFormed.combines_of_mem member) other onWay
  · refine framed_of_get? ?_
    intro other node found elsewhere
    refine (get?_modify ?_ other).trans ((if_neg (mt (congrArg some) elsewhere.symm)).trans found)
    intro node named
    exact named

theorem WellFormed.framed_created (wellFormed : tree.WellFormed) (tag : String) (props : Props) :
    tree.Framed (tree.perform (.create tag props)) none fun _ old => old := by
  simp only [Tree.perform]
  cases Kind.resolve tag props with
  | error error => exact framed_of_get? fun found _ => found
  | ok kind =>
      have fresh := wellFormed.get?_next
      rw [← Node.id_created { number := tree.issued + 1 } kind props] at fresh
      refine framed_of_get? ?_
      intro id node found _
      rw [get?_added fresh, if_neg]
      · exact found
      · rintro rfl
        rw [fresh] at found
        cases found

/-- What lies off the way up from its place an edit leaves alone, but for parents. -/
theorem Consistent.framed_perform
    (consistent : tree.Consistent)
    {edit : Edit}
    {result : Option NodeId}
    (accepted : tree.blueprint.verdict tree.derived? edit = .ok result) :
    tree.Framed (tree.perform edit) (edit.place? tree) edit.parentAfter := by
  have wellFormed := consistent.wellFormed
  have nextForest := wellFormed.forest.perform accepted
  cases edit with
  | create tag props => exact wellFormed.framed_created tag props
  | update node delta => exact consistent.framed_updated (Blueprint.answer_eq_ok_iff.1 accepted).1
  | appendChild parent child =>
      rcases Blueprint.checkAppend_eq_ok_iff.1 (Blueprint.answer_eq_ok_iff.1 accepted).1 with
        ⟨attachable, _⟩
      rcases Blueprint.checkAttachable_eq_ok_iff.1 attachable with
        ⟨entry, _, found, _, combinator, _, _, apart⟩
      exact consistent.framed_relinked nextForest (combines_iff.2 ⟨entry, found, combinator⟩) apart
  | insertBefore parent child before =>
      rcases Blueprint.checkInsert_eq_ok_iff.1 (Blueprint.answer_eq_ok_iff.1 accepted).1 with
        ⟨entry, _, found, _, combinator, _, allowed⟩
      have combines : tree.Combines parent := combines_iff.2 ⟨entry, found, combinator⟩
      simp only [Tree.perform, Blueprint.perform] at nextForest ⊢
      split_ifs at nextForest ⊢ with member still
      -- A child that is moved keeps its parent.
      · have framed : tree.Framed _ _ fun _ old => old :=
          consistent.framed_recompiledFrom wellFormed (fun _ _ => by simp) rfl (fun _ _ => Iff.rfl)
            (fun _ _ _ => rfl) (wellFormed.combines_of_mem_lineage combines)
        exact framed.relinked (wellFormed.forest.mem_childrenOf.1 member)
      · have framed := consistent.framed_rearranged nextForest combines
        exact framed.relinked (wellFormed.forest.mem_childrenOf.1 member)
      · rw [Blueprint.childrenOf_eq found] at member
        have attachable := (Blueprint.checkAppend_eq_ok_iff.1 (allowed.resolve_left member)).1
        rcases Blueprint.checkAttachable_eq_ok_iff.1 attachable with ⟨_, _, _, _, _, _, _, apart⟩
        exact consistent.framed_relinked nextForest combines apart
  | removeChild parent child =>
      rcases Blueprint.checkDetach_eq_ok_iff.1 (Blueprint.answer_eq_ok_iff.1 accepted).1 with
        ⟨entry, found, member, _⟩
      rw [← Blueprint.childrenOf_eq found] at member
      exact consistent.framed_detached member
  | destroy node => exact (consistent.framed_freed node).without (consistent.freed node).wellFormed
  | setRoot node => exact framed_of_get? fun found _ => found
  | clearRoot => exact framed_of_get? fun found _ => found

theorem Consistent.framed_apply
    (consistent : tree.Consistent)
    {edit : Edit}
    {result : Option NodeId}
    (accepted : tree.blueprint.verdict tree.derived? edit = .ok result) :
    tree.Framed (tree.apply edit).2 (edit.place? tree) edit.parentAfter := by
  have framed := consistent.framed_perform accepted
  rw [consistent.snd_apply_of_ok accepted]
  exact ⟨framed.outside, framed.above⟩

/-- A node is another one or lies above it. -/
def AtOrAbove (tree : Tree) (upper lower : NodeId) : Prop :=
  Relation.ReflTransGen (fun child parent => tree.parent? child = some parent) lower upper

theorem WellFormed.mem_lineage_iff_atOrAbove (wellFormed : tree.WellFormed) :
    id ∈ tree.blueprint.lineage child ↔ tree.AtOrAbove id child := by
  rw [wellFormed.forest.mem_lineage_iff_reflTransGen, parent?_blueprint]
  exact Iff.rfl

end Tree

/-- A node is the place of an edit or lies above that. -/
def Edit.Reaches (edit : Edit) (tree : Tree) (id : NodeId) : Prop :=
  ∃ place, edit.place? tree = some place ∧ tree.AtOrAbove id place

namespace Tree

variable {tree : Tree} {id : NodeId} {edit : Edit}

theorem WellFormed.mem_lineageFrom_place?_iff (wellFormed : tree.WellFormed) :
    id ∈ tree.blueprint.lineageFrom (edit.place? tree) ↔ edit.Reaches tree id := by
  rw [Edit.Reaches]
  cases edit.place? tree with
  | none => simp
  | some place =>
      have onWay : id ∈ tree.blueprint.lineageFrom (some place) ↔ tree.AtOrAbove id place :=
        wellFormed.mem_lineage_iff_atOrAbove
      simp [onWay]

/--
An accepted edit drops only a node and those below it.  Nodes that stay and are not on
the way up from the place of the edit have at most another parent behind it, that of a
node that was attached or detached; so an edit without a place changes no node that was
there.  Nodes above the place keep their children and their parents, and what else they
are made of, unless they have got their first parser and have merged the props that they
kept aside.
-/
theorem edit_reaches_upwards_only
    (options : TreeOptions)
    (edits : List Edit)
    (edit : Edit)
    (result : Option NodeId)
    (accepted : (((withOptions options).after edits).apply edit).1 = .ok result)
    (id : NodeId)
    (node : Node)
    (found : ((withOptions options).after edits).get? id = some node) :
    let tree := (withOptions options).after edits
    let next := (tree.apply edit).2
    (next.get? id = none → ∃ dropped, edit = .destroy dropped ∧ tree.AtOrAbove dropped id) ∧
      ∀ after, next.get? id = some after →
        (¬ edit.Reaches tree id → after = { node with parent := edit.parentAfter id node.parent }) ∧
        (edit.Reaches tree id → edit.place? tree ≠ some id → node.KeepsPlace after) := by
  intro tree next
  have consistent : tree.Consistent := (consistent_withOptions options).after edits
  have wellFormed := consistent.wellFormed
  have decided : tree.blueprint.verdict tree.derived? edit = .ok result :=
    (consistent.fst_apply edit).symm.trans accepted
  have performs := consistent.performs decided
  have framed := consistent.framed_apply decided
  constructor
  · intro gone
    by_contra spared
    have stays : (tree.blueprint.perform edit).Present id := by
      refine Blueprint.present_perform wellFormed.forest (present_blueprint found) ?_
      rintro dropped rfl
      rcases Blueprint.checkDestroy_eq_ok_iff.1 (Blueprint.answer_eq_ok_iff.1 decided).1 with
        ⟨entry, there, _⟩
      refine ⟨Blueprint.present_of_entryOf? there, ?_⟩
      intro onWay
      exact spared ⟨dropped, rfl, wellFormed.mem_lineage_iff_atOrAbove.1 onWay⟩
    rw [← performs.blueprint] at stays
    rcases exists_get?_of_present stays with ⟨after, later⟩
    rw [later] at gone
    cases gone
  · intro after later
    constructor
    · intro off
      exact framed.outside found later (mt wellFormed.mem_lineageFrom_place?_iff.1 off)
    · intro onWay elsewhere
      exact framed.above found later (wellFormed.mem_lineageFrom_place?_iff.2 onWay) elsewhere

/-- A text is put below a pair, and the series above the pair merges the label it kept aside. -/
theorem edit_reaches_waiting_series :
    let edits : List Edit :=
      [.create "string" { text := some "a" }, .create "and" {},
        .create "all" { label := some "word" }, .appendChild { number := 3 } { number := 2 }]
    let tree := (withOptions {}).after edits
    let edit := Edit.appendChild { number := 2 } { number := 1 }
    (tree.apply edit).1 = .ok (some { number := 2 }) ∧ edit.Reaches tree { number := 3 } ∧
      ∃ node after,
        tree.get? { number := 3 } = some node ∧
          (tree.apply edit).2.get? { number := 3 } = some after ∧ node.staged.isSome = true ∧
          after.staged = none ∧ node.KeepsPlace after := by
  intro edits tree edit
  have accepted : (tree.apply edit).1 = .ok (some { number := 2 }) := rfl
  have reached : edit.Reaches tree { number := 3 } :=
    ⟨{ number := 2 }, rfl, Relation.ReflTransGen.single rfl⟩
  refine ⟨accepted, reached, _, _, rfl, rfl, rfl, rfl, ?_⟩
  have frame := edit_reaches_upwards_only {} edits edit _ accepted { number := 3 } _ rfl
  exact (frame.2 _ rfl).2 reached (by decide)

end Tree

end ParserGraph

import ParserGraph.Proofs.Tree.Acceptance
import ParserGraph.Proofs.Tree.Switching

/-!
# Taking a new child away again

A new child may take the parsers of all nodes above it away, and these come back when the
child is taken away again.  It may also give the node its first parser, so that props are
merged that were kept aside; but then it is the only child, and a compiled node does not
give that one away.  So a tree that has gone the way there and back is the tree that it was.
-/

namespace ParserGraph

namespace Blueprint

variable {plan : Blueprint} {parent child : NodeId}

/-- The child is in no list any more, and it has no parent, as before. -/
theorem detached_attached
    (free : plan.parent? child = none)
    {place : List NodeId → List NodeId}
    (undone : (place (plan.childrenOf parent)).erase child = plan.childrenOf parent) :
    ((plan.arranged parent place).linked child (some parent)).detached parent child = plan := by
  ext1
  · funext id
    simp only [detached, arranged, linked, entryOf?_alter]
    cases found : plan.entryOf? id with
    | none => simp
    | some entry =>
        rcases entry with ⟨kind, decoration, children, above⟩
        have atParent : id = parent → (place children).erase child = children := by
          rintro rfl
          rwa [childrenOf_eq found] at undone
        have atChild : id = child → above = none := by
          rintro rfl
          rwa [parent?_eq found] at free
        split_ifs with isChild isParent isParent
        · simp [atParent isParent, atChild isChild]
        · simp [atChild isChild]
        · simp [atParent isParent]
        · rfl
  · rfl
  · rfl
  · rfl

end Blueprint

/-- The edit appends a child, or inserts one below a parent that does not list it yet. -/
def Edit.AttachesNew (edit : Edit) (tree : Tree) (parent child : NodeId) : Prop :=
  edit = .appendChild parent child ∨
    (∃ before, edit = .insertBefore parent child before) ∧ ¬ tree.Lists parent child

namespace Node.SameContent

variable {node between after : Node}

theorem trans (same : node.SameContent between) (next : between.SameContent after) :
    node.SameContent after where
  kind := next.kind.trans same.kind
  decoration := next.decoration.trans same.decoration
  staged := next.staged.trans same.staged

/-- What a node has merged, one with the same content has merged. -/
theorem replayed
    (same : node.SameContent between)
    (compiled : between.isCompiled = node.isCompiled)
    (replayed : between.Replayed after) :
    node.Replayed after := by
  rcases replayed with ⟨waiting, done, merged⟩
  rw [same.kind, same.decoration, same.staged] at merged
  exact ⟨compiled ▸ waiting, done, merged⟩

/-- A node is its place, what it is made of and its parsers. -/
theorem eq
    (same : node.SameContent after)
    (id : after.id = node.id)
    (entry : after.entry = node.entry)
    (combined : after.combined = node.combined)
    (derived : after.derived = node.derived) :
    after = node := by
  have children : after.children = node.children := congrArg Entry.children entry
  have parent : after.parent = node.parent := congrArg Entry.parent entry
  rcases same with ⟨kind, decoration, staged⟩
  cases node
  cases after
  simp only [Node.mk.injEq]
  exact ⟨id, kind, decoration, children, parent, combined, derived, staged⟩

end Node.SameContent

namespace Tree

variable {tree middle last first second : Tree} {id parent child : NodeId} {edit : Edit}
  {result answer : Option NodeId}

/-! ## What determines a tree -/

/-- With different ids, the nodes are what is found at their ids. -/
theorem WellFormed.map_some_nodes (wellFormed : tree.WellFormed) :
    tree.nodes.map some = (tree.nodes.map Node.id).map tree.get? := by
  rw [List.map_map]
  exact List.map_congr_left fun _ member => (wellFormed.get?_of_mem member).symm

theorem WellFormed.nodes_eq
    (wellFormed : first.WellFormed)
    (other : second.WellFormed)
    (ids : first.nodes.map Node.id = second.nodes.map Node.id)
    (nodes : ∀ id, first.get? id = second.get? id) :
    first.nodes = second.nodes := by
  apply List.map_injective_iff.2 fun _ _ => Option.some.inj
  rw [wellFormed.map_some_nodes, other.map_some_nodes, ids]
  exact List.map_congr_left fun id _ => nodes id

theorem map_entry_eq (plans : first.blueprint = second.blueprint) (id : NodeId) :
    (first.get? id).map Node.entry = (second.get? id).map Node.entry :=
  congrFun (congrArg Blueprint.entryOf? plans) id

/-- Where blueprints, leaves and what is merged are the same, nodes have the same parsers. -/
theorem Consistent.combined_eq
    (consistent : first.Consistent)
    (other : second.Consistent)
    (plans : first.blueprint = second.blueprint)
    (leaves : ∀ id, ¬ first.Combines id → first.own? id = second.own? id)
    {node after : Node}
    (found : first.get? id = some node)
    (later : second.get? id = some after)
    (same : node.SameContent after) :
    after.combined = node.combined := by
  have parsers := consistent.derived?_congr other plans leaves
  cases leaf : node.kind.isLeaf with
  | true =>
      have bare : ¬ first.Combines id := by
        rintro ⟨combinator, there, noLeaf⟩
        rw [found] at there
        cases there
        rw [leaf] at noLeaf
        cases noLeaf
      have own := leaves id bare
      rw [own?, own?, found, later] at own
      exact (congrArg Node.combined (Option.some.inj own)).symm
  | false =>
      have entries := map_entry_eq plans id
      rw [found, later] at entries
      have children : node.children = after.children :=
        congrArg Entry.children (Option.some.inj entries)
      have settled := consistent.coherent id node found List.not_mem_nil
      have settledAfter := other.coherent id after later List.not_mem_nil
      rw [settled.assembled leaf, settledAfter.assembled (same.kind ▸ leaf), same.kind, ← children]
      exact Kind.assemble?_congr fun child _ => (parsers child).symm

theorem Consistent.get?_eq
    (consistent : first.Consistent)
    (other : second.Consistent)
    (plans : first.blueprint = second.blueprint)
    (leaves : ∀ id, ¬ first.Combines id → first.own? id = second.own? id)
    (contents :
      ∀ {id node after}, first.get? id = some node → second.get? id = some after →
        node.SameContent after)
    (id : NodeId) :
    first.get? id = second.get? id := by
  have entries := map_entry_eq plans id
  have derived := consistent.derived?_congr other plans leaves id
  cases found : first.get? id with
  | none =>
      rw [found] at entries
      exact (Option.map_eq_none_iff.1 entries.symm).symm
  | some node =>
      rw [found] at entries
      rcases Option.map_eq_some_iff.1 entries.symm with ⟨after, later, entry⟩
      have same := contents found later
      rw [derived?, found, derived?, later] at derived
      have named := (id_of_get? later).trans (id_of_get? found).symm
      have combined := consistent.combined_eq other plans leaves found later same
      rw [later, same.eq named entry combined derived.symm]

/--
Consistent trees of one blueprint are the same if they have numbered their nodes in the same
order, their leaves are the same, and none of their nodes has merged more than its like.
-/
theorem Consistent.eq_of_blueprint
    (consistent : first.Consistent)
    (other : second.Consistent)
    (plans : first.blueprint = second.blueprint)
    (ids : first.nodes.map Node.id = second.nodes.map Node.id)
    (versions : first.version = second.version)
    (leaves : ∀ id, ¬ first.Combines id → first.own? id = second.own? id)
    (contents :
      ∀ {id node after}, first.get? id = some node → second.get? id = some after →
        node.SameContent after) :
    first = second := by
  have nodes := consistent.wellFormed.nodes_eq other.wellFormed ids
    (consistent.get?_eq other plans leaves contents)
  rcases first with ⟨list, issued, root, options, version⟩
  rcases second with ⟨list', issued', root', options', version'⟩
  simp only [Tree.mk.injEq]
  exact ⟨nodes, congrArg Blueprint.issued plans, congrArg Blueprint.root plans,
    congrArg Blueprint.options plans, versions⟩

/-! ## There and back -/

/--
On the way there and on the way back nodes have at most merged what they kept aside, and
those that had a parser in the middle have one at the end.
-/
structure Detour (tree middle last : Tree) : Prop where
  start : tree.Consistent
  returned : last.Consistent
  blueprint : tree.blueprint = last.blueprint
  ids : tree.nodes.map Node.id = last.nodes.map Node.id
  leaves : ∀ id, ¬ tree.Combines id → tree.own? id = last.own? id
  /-- No node is missing in the middle. -/
  stays : ∀ {id node}, tree.get? id = some node → ∃ between, middle.get? id = some between
  away :
    ∀ {id node after}, tree.get? id = some node → middle.get? id = some after →
      node.SameContent after ∨ node.Replayed after
  back :
    ∀ {id node after}, middle.get? id = some node → last.get? id = some after →
      node.SameContent after ∨ node.Replayed after
  spared :
    ∀ id, (middle.derived? id).isSome = true → (last.derived? id).isSome = true

namespace Detour

theorem isCompiled_eq
    (detour : tree.Detour middle last)
    {node after : Node}
    (found : tree.get? id = some node)
    (later : last.get? id = some after) :
    after.isCompiled = node.isCompiled := by
  have parsers := detour.start.derived?_congr detour.returned detour.blueprint detour.leaves id
  rw [← isSome_derived?_eq found, ← isSome_derived?_eq later, parsers]

/-- What is merged needs a first parser, which a compiled node had before. -/
theorem sameContent
    (detour : tree.Detour middle last)
    {node after : Node}
    (found : tree.get? id = some node)
    (later : last.get? id = some after) :
    node.SameContent after := by
  rcases detour.stays found with ⟨between, there⟩
  have compiled := detour.isCompiled_eq found later
  rcases detour.away found there with same | replayed
  · rcases detour.back there later with sameAgain | replayed
    · exact same.trans sameAgain
    · -- A compiled node keeps nothing aside that it could merge on the way back.
      rcases replayed.merged with ⟨props, kept, _⟩
      have settled := detour.start.coherent id node found List.not_mem_nil
      rw [same.staged, settled.staged_eq_none (compiled ▸ replayed.compiled)] at kept
      cases kept
  · have spared := detour.spared id
    rw [isSome_derived?_eq there, isSome_derived?_eq later, compiled, replayed.waiting] at spared
    cases spared replayed.compiled

/-- A tree is the same after a detour, apart from the count of edits. -/
theorem eq (detour : tree.Detour middle last) : last = { tree with version := last.version } := by
  have start : ({ tree with version := last.version } : Tree).Consistent :=
    ⟨⟨detour.start.wellFormed.distinct, detour.start.wellFormed.forest⟩, detour.start.coherent⟩
  exact (start.eq_of_blueprint detour.returned detour.blueprint detour.ids rfl detour.leaves
    detour.sameContent).symm

end Detour

/-! ## A new child is attached and taken away -/

/-- Nodes that are placed anew and compiled anew merge at most what they kept aside. -/
theorem Consistent.content_relinked
    (consistent : tree.Consistent)
    {arrange : List NodeId → List NodeId}
    {above : Option NodeId}
    (forest : ((tree.blueprint.arranged parent arrange).linked child above).IsForest)
    (combines : tree.Combines parent)
    {node after : Node}
    (found : tree.get? id = some node)
    (later :
      (((tree.arranged parent arrange).linked child above).recompiledFrom (some parent)).get? id =
        some after) :
    node.SameContent after ∨ node.Replayed after := by
  have wellFormed := consistent.wellFormed.relinked forest
  have placed : ∃ between,
      ((tree.arranged parent arrange).linked child above).get? id = some between ∧
        node.SameContent between ∧ between.isCompiled = node.isCompiled := by
    rw [get?_linked, get?_arranged, found]
    exact ⟨_, rfl, ⟨rfl, rfl, rfl⟩, rfl⟩
  rcases placed with ⟨between, there, same, compiled⟩
  by_cases onWay :
      id ∈ ((tree.arranged parent arrange).linked child above).blueprint.lineage parent
  · have linked : ((tree.arranged parent arrange).linked child above).Combines parent :=
      combines_linked.2 (combines_arranged.2 combines)
    rcases wellFormed.combines_of_mem_lineage linked id onWay with ⟨upper, foundUpper, combinator⟩
    rw [there] at foundUpper
    cases foundUpper
    rcases exists_get?_recompiledFrom wellFormed there onWay with ⟨derived?, refreshed⟩
    rw [refreshed] at later
    cases later
    have settled := consistent.coherent id node found List.not_mem_nil
    have keeps := Node.keepsPlace_refreshed derived? combinator fun done =>
      same.staged.trans (settled.staged_eq_none (compiled ▸ done))
    exact keeps.content.imp same.trans (same.replayed compiled)
  · rw [get?_recompiledFrom onWay, there] at later
    cases later
    exact Or.inl same

/-- A new child makes no leaf of a combinator, and no combinator of a leaf. -/
@[simp]
theorem combines_attached {arrange : List NodeId → List NodeId} :
    (tree.attached parent child arrange).Combines id ↔ tree.Combines id := by
  rw [combines_iff, blueprint_attached, ← blueprint_arranged, ← blueprint_linked, ← combines_iff,
    combines_linked, combines_arranged]

/-- The removal of a child switches nothing off. -/
theorem Consistent.isSome_derived?_removeChild
    (consistent : tree.Consistent)
    (removed : tree.blueprint.verdict tree.derived? (.removeChild parent child) = .ok result)
    (compiled : (tree.derived? id).isSome = true) :
    ((tree.apply (.removeChild parent child)).2.derived? id).isSome = true := by
  have performs := consistent.performs removed
  rcases (consistent.isSome_derived?_iff id).1 compiled with ⟨entry, found, _⟩
  have stays : (tree.apply (.removeChild parent child)).2.blueprint.Present id := by
    rw [performs.blueprint]
    exact Blueprint.present_perform consistent.wellFormed.forest
      (Blueprint.present_of_entryOf? found) (by rintro node ⟨⟩)
  refine (consistent.compiled_or_switchesOff removed performs id compiled stays).resolve_right ?_
  rintro ⟨_, _, _, equal | ⟨_, equal⟩, _⟩ <;> cases equal

/-- A free child is attached and taken away again. -/
theorem Consistent.detour
    (consistent : tree.Consistent)
    (combines : tree.Combines parent)
    (free : tree.blueprint.parent? child = none)
    {arrange : List NodeId → List NodeId}
    (undone :
      (arrange (tree.blueprint.childrenOf parent)).erase child =
        tree.blueprint.childrenOf parent)
    (attached : middle = (tree.attached parent child arrange).accepted)
    (whole : middle.Consistent)
    (removed : middle.blueprint.verdict middle.derived? (.removeChild parent child) = .ok result) :
    tree.Detour middle (middle.apply (.removeChild parent child)).2 := by
  have plans : middle.blueprint =
      (tree.blueprint.arranged parent arrange).linked child (some parent) := by
    rw [attached]
    exact blueprint_attached tree parent child arrange
  have forest := plans ▸ whole.wellFormed.forest
  have performs := whole.performs removed
  have back : (middle.apply (.removeChild parent child)).2 =
      (middle.detached parent child).accepted :=
    whole.snd_apply_of_ok removed
  have member : child ∈ middle.blueprint.childrenOf parent := by
    rcases Blueprint.checkDetach_eq_ok_iff.1 (Blueprint.answer_eq_ok_iff.1 removed).1 with
      ⟨entry, found, member, _⟩
    rwa [Blueprint.childrenOf_eq found]
  constructor
  case start => exact consistent
  case returned => exact performs.consistent
  case blueprint =>
    rw [performs.blueprint, plans]
    exact (Blueprint.detached_attached free undone).symm
  case ids =>
    have there : middle.nodes.map Node.id = tree.nodes.map Node.id := by
      rw [attached]
      exact ids_attached tree parent child arrange
    rw [← there, back]
    exact (ids_detached middle parent child).symm
  case leaves =>
    intro id bare
    have bareBetween : ¬ middle.Combines id := by
      rw [attached]
      exact mt combines_attached.1 bare
    have there : middle.own? id = tree.own? id := by
      rw [attached]
      exact consistent.own?_relinked forest combines bare
    rw [← there, back]
    exact (whole.own?_detached member bareBetween).symm
  case stays =>
    intro id node found
    apply exists_get?_of_present
    rw [plans]
    exact Blueprint.present_linked.2 (Blueprint.present_arranged.2 (present_blueprint found))
  case away =>
    intro id node after found later
    rw [attached] at later
    exact consistent.content_relinked forest combines found later
  case back =>
    intro id node after found later
    rw [back] at later
    exact whole.content_relinked (whole.wellFormed.forest.detached member)
      (whole.wellFormed.combines_of_mem member) found later
  case spared => exact fun id => whole.isSome_derived?_removeChild removed

/-- A new child is put where it can be taken away again without a trace. -/
theorem exists_attached
    (attaches : edit.Attaches parent child)
    (fresh : child ∉ tree.blueprint.childrenOf parent) :
    ∃ arrange,
      tree.perform edit = tree.attached parent child arrange ∧
        (arrange (tree.blueprint.childrenOf parent)).erase child =
          tree.blueprint.childrenOf parent := by
  rcases attaches with rfl | ⟨before, rfl⟩
  · refine ⟨_, rfl, ?_⟩
    rw [List.erase_append_right _ fresh, List.erase_cons_head, List.append_nil]
  · exact ⟨_, if_neg fresh, Node.erase_insertChild fresh before⟩

theorem Consistent.version_apply
    (consistent : tree.Consistent)
    (accepted : tree.blueprint.verdict tree.derived? edit = .ok result) :
    (tree.apply edit).2.version = tree.version + 1 := by
  rw [consistent.snd_apply_of_ok accepted]
  exact congrArg (· + 1) (version_perform tree edit)

/-- A new child is attached as one that is appended may be. -/
theorem checkAppend_of_attachesNew
    (attaches : edit.AttachesNew tree parent child)
    (accepted : tree.blueprint.verdict tree.derived? edit = .ok result) :
    tree.blueprint.checkAppend parent child = .ok () := by
  rcases attaches with rfl | ⟨⟨before, rfl⟩, new⟩
  · exact (Blueprint.answer_eq_ok_iff.1 accepted).1
  · rcases Blueprint.checkInsert_eq_ok_iff.1 (Blueprint.answer_eq_ok_iff.1 accepted).1 with
      ⟨entry, _, found, _, _, _, allowed⟩
    rw [← Blueprint.childrenOf_eq found] at allowed
    exact allowed.resolve_left (mt lists_iff.2 new)

/-- The removal of a new child ends a detour. -/
theorem Consistent.detour_of_attachesNew
    (consistent : tree.Consistent)
    (attaches : edit.AttachesNew tree parent child)
    (accepted : tree.blueprint.verdict tree.derived? edit = .ok result)
    (removed :
      (tree.apply edit).2.blueprint.verdict (tree.apply edit).2.derived?
        (.removeChild parent child) = .ok answer) :
    tree.Detour (tree.apply edit).2 ((tree.apply edit).2.apply (.removeChild parent child)).2 := by
  have appends := checkAppend_of_attachesNew attaches accepted
  rcases Blueprint.checkAttachable_eq_ok_iff.1 (Blueprint.checkAppend_eq_ok_iff.1 appends).1 with
    ⟨parentEntry, childEntry, parentFound, childFound, combinator, top, _, _⟩
  have combines : tree.Combines parent := combines_iff.2 ⟨parentEntry, parentFound, combinator⟩
  have free : tree.blueprint.parent? child = none := (Blueprint.parent?_eq childFound).trans top
  have fresh : child ∉ tree.blueprint.childrenOf parent := by
    intro member
    simp [consistent.wellFormed.forest.mem_childrenOf.1 member] at free
  rcases exists_attached (attaches.imp_right And.left) fresh with ⟨arrange, performed, undone⟩
  have attached : (tree.apply edit).2 = (tree.attached parent child arrange).accepted := by
    rw [consistent.snd_apply_of_ok accepted, performed]
  exact consistent.detour combines free undone attached (consistent.apply edit) removed

/--
A child that an accepted edit has attached, and that was no child of that parent before,
can be taken away again only in a way that leaves no trace: apart from the count of edits,
which is higher by two, the tree is the one before.
-/
theorem removal_undoes_attachment
    (options : TreeOptions)
    (edits : List Edit)
    (parent child : NodeId)
    (edit : Edit)
    (attaches : edit.AttachesNew ((withOptions options).after edits) parent child)
    (attached : ((withOptions options).after edits).Accepts edit)
    (removed :
      (((withOptions options).after edits).apply edit).2.Accepts (.removeChild parent child)) :
    let tree := (withOptions options).after edits
    ((tree.apply edit).2.apply (.removeChild parent child)).2 =
      { tree with version := tree.version + 2 } := by
  intro tree
  have consistent : tree.Consistent := (consistent_withOptions options).after edits
  rcases consistent.accepts_iff.1 attached with ⟨result, there⟩
  rcases (consistent.apply edit).accepts_iff.1 removed with ⟨answer, back⟩
  have detour := consistent.detour_of_attachesNew attaches there back
  have counted : ((tree.apply edit).2.apply (.removeChild parent child)).2.version =
      tree.version + 2 := by
    rw [(consistent.apply edit).version_apply back, consistent.version_apply there]
  rw [detour.eq, counted]

/-- An empty choice in front of the only child of the root takes its parser away for a while. -/
theorem removal_undoes_empty_choice :
    let edits : List Edit :=
      [.create "string" { text := some "a" }, .create "all" { label := some "word" },
        .create "choice" {}, .appendChild { number := 2 } { number := 1 },
        .setRoot { number := 2 }]
    let tree := (withOptions {}).after edits
    let edit := Edit.insertBefore { number := 2 } { number := 3 } { number := 1 }
    let removal := Edit.removeChild { number := 2 } { number := 3 }
    edit.AttachesNew tree { number := 2 } { number := 3 } ∧ tree.Accepts edit ∧
      (tree.apply edit).2.Accepts removal ∧
      tree.derived? { number := 2 } = some (.label (.all [.text "a"]) "word") ∧
      (tree.apply edit).2.derived? { number := 2 } = none ∧
      ((tree.apply edit).2.apply removal).2 = { tree with version := tree.version + 2 } := by
  intro edits tree edit removal
  have new : edit.AttachesNew tree { number := 2 } { number := 3 } := by
    refine Or.inr ⟨⟨_, rfl⟩, ?_⟩
    rintro ⟨node, found, member⟩
    cases found
    exact absurd member (by decide)
  have attached : tree.Accepts edit := ⟨some { number := 2 }, rfl⟩
  have removed : (tree.apply edit).2.Accepts removal := ⟨some { number := 2 }, rfl⟩
  refine ⟨new, attached, removed, rfl, rfl, ?_⟩
  exact removal_undoes_attachment {} edits { number := 2 } { number := 3 } edit new attached removed

end Tree

end ParserGraph

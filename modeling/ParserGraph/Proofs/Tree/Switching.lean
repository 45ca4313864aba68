import ParserGraph.Proofs.Tree.Locality

/-!
# Which edits take a parser away

A node is compiled exactly if it is a leaf, or has children that are all compiled.  So a
node that stays can lose its parser only through a child that it or a node below it did
not have before, and that is not compiled itself; for a compiled node does not give its
last child away.
-/

namespace ParserGraph

/-- The edit puts a child below a parent, or moves it there. -/
def Edit.Attaches (edit : Edit) (parent child : NodeId) : Prop :=
  edit = .appendChild parent child ∨ ∃ before, edit = .insertBefore parent child before

/-! ## Children behind an edit -/

namespace Blueprint

variable {plan : Blueprint} {edit : Edit} {id child parent : NodeId} {result : Option NodeId}
  {derived? : NodeId → Option Parser}

/-- What an accepted edit makes of the children of a node that stays. -/
inductive Regroups
    (plan : Blueprint)
    (derived? : NodeId → Option Parser)
    (edit : Edit)
    (id : NodeId)
    (children : List NodeId) : Prop where
  | kept (same : children.Perm (plan.childrenOf id))
  /-- A free node is attached. -/
  | gained (child : NodeId)
      (attaches : edit.Attaches id child)
      (present : plan.Present child)
      (free : plan.parent? child = none)
      (more : children.Perm (child :: plan.childrenOf id))
  /-- A child is taken away, which is not the only one of a compiled node. -/
  | lost (child : NodeId)
      (member : child ∈ plan.childrenOf id)
      (fewer : children = (plan.childrenOf id).erase child)
      (spare : (derived? id).isSome = true → (plan.childrenOf id).length ≠ 1)

theorem regroups_attached
    (allowed : plan.checkAppend parent child = .ok ())
    (attaches : edit.Attaches parent child)
    {place : List NodeId → List NodeId}
    (placed : (place (plan.childrenOf parent)).Perm (child :: plan.childrenOf parent)) :
    plan.Regroups derived? edit id
      (((plan.arranged parent place).linked child (some parent)).childrenOf id) := by
  rcases checkAttachable_eq_ok_iff.1 (checkAppend_eq_ok_iff.1 allowed).1 with
    ⟨entry, childEntry, found, childFound, _, free, _, _⟩
  rw [childrenOf_attached (present_of_entryOf? found)]
  split_ifs with same
  · subst same
    have detached := (parent?_eq childFound).trans free
    exact .gained child attaches (present_of_entryOf? childFound) detached placed
  · exact .kept (List.Perm.refl _)

theorem regroups_detached (allowed : plan.checkDetach derived? parent child = .ok ()) :
    plan.Regroups derived? edit id ((plan.detached parent child).childrenOf id) := by
  rcases checkDetach_eq_ok_iff.1 allowed with ⟨entry, found, member, spare⟩
  rw [← childrenOf_eq found] at member spare
  rw [childrenOf_detached (present_of_entryOf? found)]
  split_ifs with same
  · subst same
    exact .lost child member rfl spare
  · exact .kept (List.Perm.refl _)

theorem regroups_freed (allowed : plan.checkDestroy derived? child = .ok ()) :
    plan.Regroups derived? edit id ((plan.freed child).childrenOf id) := by
  rcases checkDestroy_eq_ok_iff.1 allowed with ⟨entry, found, above⟩
  rw [freed, parent?_eq found]
  cases upper : entry.parent with
  | none => exact .kept (List.Perm.refl _)
  | some parent => exact regroups_detached (above parent upper)

/-- An accepted edit keeps the children of a node, or attaches one, or takes one away. -/
theorem regroups_perform
    (forest : plan.IsForest)
    (accepted : plan.verdict derived? edit = .ok result)
    (stays : (plan.perform edit).Present id) :
    plan.Regroups derived? edit id ((plan.perform edit).childrenOf id) := by
  cases edit with
  | create tag props =>
      simp only [perform]
      cases resolved : Kind.resolve tag props with
      | error error => exact .kept (List.Perm.refl _)
      | ok kind =>
          rw [childrenOf_added forest rfl]
          exact .kept (List.Perm.refl _)
  | update node delta =>
      rw [perform, childrenOf_withProps]
      exact .kept (List.Perm.refl _)
  | appendChild parent child =>
      exact regroups_attached (answer_eq_ok_iff.1 accepted).1 (Or.inl rfl)
        (List.perm_append_singleton child _)
  | insertBefore parent child before =>
      rcases checkInsert_eq_ok_iff.1 (answer_eq_ok_iff.1 accepted).1 with
        ⟨entry, _, found, _, _, _, allowed⟩
      rw [← childrenOf_eq found] at allowed
      simp only [perform]
      split_ifs with moved still
      · exact .kept (List.Perm.refl _)
      · rw [childrenOf_arranged (present_of_entryOf? found)]
        split_ifs with same
        · subst same
          have inserted :=
            Node.insertChild_perm ((plan.childrenOf id).erase child) child before
          exact .kept (inserted.trans (List.perm_cons_erase moved).symm)
        · exact .kept (List.Perm.refl _)
      · exact regroups_attached (allowed.resolve_left moved) (Or.inr ⟨before, rfl⟩)
          (Node.insertChild_perm _ child before)
  | removeChild parent child => exact regroups_detached (answer_eq_ok_iff.1 accepted).1
  | destroy node =>
      rw [perform, childrenOf_without, if_neg (present_without.1 stays).2]
      exact regroups_freed (answer_eq_ok_iff.1 accepted).1
  | setRoot node => exact .kept (List.Perm.refl _)
  | clearRoot => exact .kept (List.Perm.refl _)

namespace Regroups

variable {children : List NodeId}

theorem mem_or_attaches
    (regroups : plan.Regroups derived? edit id children)
    (member : child ∈ children) :
    child ∈ plan.childrenOf id ∨
      edit.Attaches id child ∧ plan.Present child ∧ plan.parent? child = none := by
  cases regroups with
  | kept same => exact Or.inl (same.mem_iff.1 member)
  | gained attached attaches present free more =>
      rcases List.mem_cons.1 (more.mem_iff.1 member) with rfl | old
      · exact Or.inr ⟨attaches, present, free⟩
      · exact Or.inl old
  | lost taken _ fewer _ =>
      rw [fewer] at member
      exact Or.inl (List.mem_of_mem_erase member)

/-- A compiled node with children keeps some. -/
theorem ne_nil
    (regroups : plan.Regroups derived? edit id children)
    (compiled : (derived? id).isSome = true)
    (some : plan.childrenOf id ≠ []) :
    children ≠ [] := by
  cases regroups with
  | kept same =>
      rintro rfl
      exact some same.nil_eq.symm
  | gained attached _ _ _ more =>
      rintro rfl
      exact absurd more.length_eq (by simp)
  | lost taken member fewer spare =>
      rintro rfl
      have length := List.length_erase_of_mem member
      have positive := List.length_pos_of_mem member
      have several := spare compiled
      rw [← fewer, List.length_nil] at length
      omega

end Regroups

/-- A free child is attached as an appended one may be. -/
theorem exists_attached
    (forest : plan.IsForest)
    (accepted : plan.verdict derived? edit = .ok result)
    (attaches : edit.Attaches parent child)
    (free : plan.parent? child = none) :
    plan.checkAppend parent child = .ok () ∧
      ∃ place,
        plan.perform edit = (plan.arranged parent place).linked child (some parent) ∧
          child ∈ place (plan.childrenOf parent) := by
  rcases attaches with rfl | ⟨before, rfl⟩
  · refine ⟨(answer_eq_ok_iff.1 accepted).1, _, rfl, ?_⟩
    exact List.mem_append_right _ (List.mem_singleton.2 rfl)
  · rcases checkInsert_eq_ok_iff.1 (answer_eq_ok_iff.1 accepted).1 with
      ⟨entry, _, found, _, _, _, allowed⟩
    rw [← childrenOf_eq found] at allowed
    have apart : child ∉ plan.childrenOf parent := by
      intro member
      simp [forest.mem_childrenOf.1 member] at free
    refine ⟨allowed.resolve_left apart, _, if_neg apart, ?_⟩
    exact (Node.insertChild_perm _ child before).mem_iff.2 List.mem_cons_self

end Blueprint

/-! ## Parsers behind an edit -/

/-- The edit attaches a node without a parent, which is not compiled, to a node or below it. -/
def Edit.SwitchesOff (edit : Edit) (tree : Tree) (id : NodeId) : Prop :=
  ∃ parent child node,
    edit.Attaches parent child ∧ tree.get? child = some node ∧ node.parent = none ∧
      node.isCompiled = false ∧ tree.AtOrAbove id parent

namespace Tree

variable {tree next : Tree} {edit : Edit} {id child parent : NodeId} {result : Option NodeId}

theorem isSome_derived?_eq {node : Node} (found : tree.get? id = some node) :
    (tree.derived? id).isSome = node.isCompiled := by
  rw [derived?, found]
  rfl

/-- A child without a parser leaves its parent without one. -/
theorem Consistent.isSome_derived?_parent
    (consistent : tree.Consistent)
    (above : tree.blueprint.parent? child = some parent)
    (uncompiled : (tree.derived? child).isSome = false) :
    (tree.derived? parent).isSome = false := by
  rw [Bool.eq_false_iff]
  intro compiled
  rcases (consistent.isSome_derived?_iff parent).1 compiled with ⟨entry, found, _, below⟩
  have member := consistent.wellFormed.forest.mem_childrenOf.2 above
  rw [Blueprint.childrenOf_eq found] at member
  rw [below child member] at uncompiled
  cases uncompiled

/-- What switches off a child switches off its parent. -/
theorem switchesOff_parent
    (above : tree.blueprint.parent? child = some parent)
    (off : edit.SwitchesOff tree child) :
    edit.SwitchesOff tree parent := by
  rcases off with ⟨place, attached, node, attaches, found, free, uncompiled, below⟩
  rw [parent?_blueprint] at above
  exact ⟨place, attached, node, attaches, found, free, uncompiled, below.tail above⟩

/-- Only one node is attached at a time. -/
theorem not_switchesOff_of_attaches
    (attaches : edit.Attaches parent child)
    (compiled : (tree.derived? child).isSome = true) :
    ¬ edit.SwitchesOff tree id := by
  rintro ⟨place, attached, node, attachesAttached, found, _, uncompiled, _⟩
  have same : attached = child := by
    rcases attaches with rfl | ⟨before, rfl⟩ <;>
      rcases attachesAttached with equal | ⟨other, equal⟩ <;> cases equal <;> rfl
  subst same
  rw [isSome_derived?_eq found, uncompiled] at compiled
  cases compiled

/-- Where no edit switches it off, a compiled node that stays is compiled. -/
theorem Consistent.compiled_or_switchesOff
    (consistent : tree.Consistent)
    (accepted : tree.blueprint.verdict tree.derived? edit = .ok result)
    (performs : tree.Performs edit next)
    (id : NodeId)
    (compiled : (tree.derived? id).isSome = true)
    (stays : next.blueprint.Present id) :
    (next.derived? id).isSome = true ∨ edit.SwitchesOff tree id := by
  have forest := consistent.wellFormed.forest
  have nextForest := performs.consistent.wellFormed.forest
  induction id using nextForest.children_induction with
  | step id hypothesis =>
    rcases (consistent.isSome_derived?_iff id).1 compiled with ⟨entry, found, whole, below⟩
    rcases stays.exists_entryOf? with ⟨nextEntry, later⟩
    have regroups := Blueprint.regroups_perform forest accepted (performs.blueprint ▸ stays)
    rw [← performs.blueprint, Blueprint.childrenOf_eq later] at regroups
    by_cases off : edit.SwitchesOff tree id
    · exact Or.inr off
    · refine Or.inl ((performs.consistent.isSome_derived?_iff id).2 ⟨nextEntry, later, ?_, ?_⟩)
      · rcases whole with leaf | some
        · rw [performs.blueprint] at later
          rcases Blueprint.kind_perform forest found later with same | ⟨delta, _, changed⟩
          · exact Or.inl (same ▸ leaf)
          · exact Or.inl (by rw [changed, Kind.isLeaf_withProps, leaf])
        · rw [← Blueprint.childrenOf_eq found] at some
          exact Or.inr (regroups.ne_nil compiled some)
      · intro child member
        have listed : child ∈ next.blueprint.childrenOf id := by
          rwa [Blueprint.childrenOf_eq later]
        have childStays : next.blueprint.Present child :=
          Blueprint.present_of_parent? (nextForest.mem_childrenOf.1 listed)
        rcases regroups.mem_or_attaches member with old | ⟨attaches, present, free⟩
        · have above := forest.mem_childrenOf.1 old
          rw [Blueprint.childrenOf_eq found] at old
          refine (hypothesis child listed (below child old) childStays).resolve_right ?_
          exact fun childOff => off (switchesOff_parent above childOff)
        · rcases exists_get?_of_present present with ⟨node, there⟩
          cases attached : (tree.derived? child).isSome with
          | true =>
              exact (hypothesis child listed attached childStays).resolve_right
                (not_switchesOff_of_attaches attaches attached)
          | false =>
              rw [isSome_derived?_eq there] at attached
              rw [Blueprint.parent?_eq (entryOf?_blueprint there)] at free
              exact absurd ⟨id, child, node, attaches, there, free, attached, .refl⟩ off

/-- An attached node that is not compiled leaves all nodes above it without a parser. -/
theorem Consistent.not_compiled_of_switchesOff
    (consistent : tree.Consistent)
    (accepted : tree.blueprint.verdict tree.derived? edit = .ok result)
    (off : edit.SwitchesOff tree id) :
    ((tree.apply edit).2.derived? id).isSome = false := by
  rcases off with ⟨parent, child, node, attaches, found, free, uncompiled, above⟩
  have forest := consistent.wellFormed.forest
  have performs := consistent.performs accepted
  have nextForest := performs.consistent.wellFormed.forest
  have top : tree.blueprint.parent? child = none :=
    (Blueprint.parent?_eq (entryOf?_blueprint found)).trans free
  rcases Blueprint.exists_attached forest accepted attaches top with
    ⟨allowed, place, performed, placed⟩
  rw [← performs.blueprint] at performed
  rcases Blueprint.checkAttachable_eq_ok_iff.1 (Blueprint.checkAppend_eq_ok_iff.1 allowed).1 with
    ⟨entry, _, parentFound, _, _, _, _, apart⟩
  have present := present_blueprint found
  -- The attached node itself is left alone.
  have childUncompiled : ((tree.apply edit).2.derived? child).isSome = false := by
    have stays : (tree.apply edit).2.blueprint.Present child := by
      rw [performed]
      exact Blueprint.present_linked.2 (Blueprint.present_arranged.2 present)
    rcases exists_get?_of_present stays with ⟨after, later⟩
    have outside : child ∉ tree.blueprint.lineageFrom (edit.place? tree) := by
      rcases attaches with rfl | ⟨before, rfl⟩ <;> exact apart
    have alone := (consistent.framed_apply accepted).outside found later outside
    rw [isSome_derived?_eq later, alone]
    exact uncompiled
  induction above with
  | refl =>
      refine performs.consistent.isSome_derived?_parent ?_ childUncompiled
      apply nextForest.mem_childrenOf.1
      rw [performed, Blueprint.childrenOf_attached (Blueprint.present_of_entryOf? parentFound),
        if_pos rfl]
      exact placed
  | @tail lower upper _ link hypothesis =>
      refine performs.consistent.isSome_derived?_parent ?_ hypothesis
      rw [← parent?_blueprint] at link
      have different : lower ≠ child := by
        rintro rfl
        simp [top] at link
      rw [performed, Blueprint.parent?_attached present, if_neg different, link]

/-- The tree has a parser exactly if its root has one. -/
theorem exists_compile_eq_ok_iff (designated : tree.root = some id) :
    (∃ parser, tree.compile = .ok parser) ↔ (tree.derived? id).isSome = true := by
  rw [compile, designated]
  cases found : tree.derived? id <;> simp [found]

/--
An accepted edit takes the parser of a node that stays exactly if it attaches a node that
has no parent and is not compiled to that node or to one below it.  So no other edit does,
and no move of a child.  The same holds of the parser of the tree as long as its root stays
the same.
-/
theorem compiled_until_attached
    (options : TreeOptions)
    (edits : List Edit)
    (edit : Edit)
    (result : Option NodeId)
    (accepted : (((withOptions options).after edits).apply edit).1 = .ok result) :
    let tree := (withOptions options).after edits
    let next := (tree.apply edit).2
    (∀ id, (tree.derived? id).isSome = true → (next.get? id).isSome = true →
      ((next.derived? id).isSome = false ↔ edit.SwitchesOff tree id)) ∧
      ((∀ parent child, edit.Attaches parent child → (tree.parent? child).isSome = true) →
        ∀ id, ¬ edit.SwitchesOff tree id) ∧
      ∀ root parser, tree.root = some root → next.root = some root → tree.compile = .ok parser →
        ((∃ parser, next.compile = .ok parser) ↔ ¬ edit.SwitchesOff tree root) := by
  intro tree next
  have consistent : tree.Consistent := (consistent_withOptions options).after edits
  have decided : tree.blueprint.verdict tree.derived? edit = .ok result :=
    (consistent.fst_apply edit).symm.trans accepted
  have performs := consistent.performs decided
  have switched : ∀ id, (tree.derived? id).isSome = true → next.blueprint.Present id →
      ((next.derived? id).isSome = false ↔ edit.SwitchesOff tree id) := by
    intro id compiled stays
    constructor
    · intro uncompiled
      refine (consistent.compiled_or_switchesOff decided performs id compiled stays).resolve_left ?_
      rw [uncompiled]
      exact Bool.false_ne_true
    · exact consistent.not_compiled_of_switchesOff decided
  refine ⟨?_, ?_, ?_⟩
  · intro id compiled stays
    rcases Option.isSome_iff_exists.1 stays with ⟨after, later⟩
    exact switched id compiled (present_blueprint later)
  · rintro owned id ⟨parent, child, node, attaches, found, free, _, _⟩
    have above := owned parent child attaches
    rw [parent?, found, Option.bind_some, free] at above
    cases above
  · intro root parser designated still compiles
    have compiled := (exists_compile_eq_ok_iff designated).1 ⟨parser, compiles⟩
    have stays := (performs.consistent.wellFormed.forest.root_top still).1
    rw [exists_compile_eq_ok_iff still, ← switched root compiled stays, Bool.not_eq_false]

/-- An empty choice is put in front of the only child of the root. -/
theorem switched_off_by_empty_choice :
    let edits : List Edit :=
      [.create "string" { text := some "a" }, .create "all" {}, .create "choice" {},
        .appendChild { number := 2 } { number := 1 }, .setRoot { number := 2 }]
    let tree := (withOptions {}).after edits
    let edit := Edit.insertBefore { number := 2 } { number := 3 } { number := 1 }
    (tree.apply edit).1 = .ok (some { number := 2 }) ∧
      (tree.derived? { number := 2 }).isSome = true ∧
      edit.SwitchesOff tree { number := 2 } ∧
      ((tree.apply edit).2.derived? { number := 2 }).isSome = false := by
  intro edits tree edit
  have accepted : (tree.apply edit).1 = .ok (some { number := 2 }) := rfl
  have off : edit.SwitchesOff tree { number := 2 } :=
    ⟨_, { number := 3 }, _, Or.inr ⟨_, rfl⟩, rfl, rfl, rfl, Relation.ReflTransGen.refl⟩
  refine ⟨accepted, rfl, off, ?_⟩
  exact ((compiled_until_attached {} edits edit _ accepted).1 { number := 2 } rfl rfl).2 off

end Tree

end ParserGraph

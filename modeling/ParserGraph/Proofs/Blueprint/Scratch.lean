import ParserGraph.Proofs.Blueprint.Forest
import ParserGraph.Proofs.Sameness

/-!
# Parsers from scratch

The parser of a node is assembled from the parsers of its children.  In a forest
this recursion ends before the depth that it is given is used up, so that the parser
from scratch of a node is the one that its kind makes of the parsers from scratch of
its children, decorated.
-/

namespace ParserGraph

/-! ## Lists of optional results -/

section MapM

variable {Item Result Image : Type}

/-- The results of all items depend only on what is said of these items. -/
theorem mapM_congr
    {items : List Item}
    {first second : Item → Option Result}
    (alike : ∀ item ∈ items, first item = second item) :
    items.mapM first = items.mapM second := by
  induction items with
  | nil => rfl
  | cons item rest hypothesis =>
      rw [List.mapM_cons, List.mapM_cons, alike item List.mem_cons_self,
        hypothesis fun other member => alike other (List.mem_cons_of_mem item member)]

/-- All items have results exactly if each of them has one. -/
theorem isSome_mapM_iff {items : List Item} {find? : Item → Option Result} :
    (items.mapM find?).isSome = true ↔ ∀ item ∈ items, (find? item).isSome = true := by
  induction items with
  | nil => simp
  | cons item rest hypothesis =>
      rw [List.mapM_cons, List.forall_mem_cons, ← hypothesis]
      cases find? item <;> cases rest.mapM find? <;> simp

/-- There are as many results as items. -/
theorem length_of_mapM
    {items : List Item}
    {find? : Item → Option Result}
    {results : List Result}
    (found : items.mapM find? = some results) :
    results.length = items.length := by
  induction items generalizing results with
  | nil =>
      cases found
      rfl
  | cons item rest hypothesis =>
      rw [List.mapM_cons] at found
      cases head : find? item with
      | none => simp [head] at found
      | some result =>
          cases tail : rest.mapM find? with
          | none => simp [head, tail] at found
          | some others =>
              simp only [head, tail] at found
              cases found
              simp [hypothesis tail]

/-- Changing each result changes all of them. -/
theorem map_mapM
    (items : List Item)
    (find? : Item → Option Result)
    (change : Result → Image) :
    (items.mapM find?).map (List.map change) =
      items.mapM fun item => (find? item).map change := by
  induction items with
  | nil => rfl
  | cons item rest hypothesis =>
      rw [List.mapM_cons, List.mapM_cons, ← hypothesis]
      cases find? item <;> cases rest.mapM find? <;> rfl

end MapM

/-! ## Assembling -/

namespace Kind

variable {kind : Kind} {children : List NodeId} {derived? : NodeId → Option Parser}

/-- What is assembled depends only on the parsers of the children. -/
theorem assemble?_congr
    {first second : NodeId → Option Parser}
    (alike : ∀ child ∈ children, first child = second child) :
    kind.assemble? children first = kind.assemble? children second := by
  unfold assemble?
  rw [mapM_congr alike]

/-- Assembling commutes with canonical forms. -/
theorem canonical_assemble? :
    (kind.assemble? children derived?).map Parser.canonical =
      kind.canonical.assemble? children fun child => (derived? child).map Parser.canonical := by
  unfold assemble?
  rw [← map_mapM]
  cases children.mapM derived? with
  | none => rfl
  | some parsers =>
      simp only [Option.map_some, Option.bind_some, combine_canonical]
      cases kind.combine parsers <;> rfl

/-- A leaf without children is assembled from nothing. -/
theorem assemble?_nil : kind.assemble? [] derived? = (kind.combine []).toOption := rfl

/-- A combinator is assembled exactly if it has children and each of them has a parser. -/
theorem isSome_assemble?_iff (combinator : kind.isLeaf = false) :
    (kind.assemble? children derived?).isSome = true ↔
      children ≠ [] ∧ ∀ child ∈ children, (derived? child).isSome = true := by
  rw [assemble?, ← isSome_mapM_iff]
  cases found : children.mapM derived? with
  | none => simp
  | some parsers =>
      have length := length_of_mapM found
      cases parsers with
      | nil =>
          have empty : children = [] := List.length_eq_zero_iff.1 length.symm
          simp [empty, combine_nil combinator, Except.toOption]
      | cons first rest =>
          have nonempty : children ≠ [] := by
            rintro rfl
            simp at length
          rcases combine_cons combinator first rest with ⟨base, combined⟩
          simp [nonempty, combined, Except.toOption]

/-- Props in a combinator do not change whether it can be assembled. -/
theorem isSome_assemble?_withProps
    (combinator : kind.isLeaf = false)
    (props : Props)
    (children : List NodeId)
    (derived? : NodeId → Option Parser) :
    ((kind.withProps props).assemble? children derived?).isSome =
      (kind.assemble? children derived?).isSome := by
  rw [Bool.eq_iff_iff, isSome_assemble?_iff combinator,
    isSome_assemble?_iff ((isLeaf_withProps props kind).trans combinator)]

end Kind

/-- Decorating commutes with canonical forms. -/
theorem Decoration.canonical_map_apply (decoration : Decoration) (base? : Option Parser) :
    (base?.map decoration.apply).map Parser.canonical =
      (base?.map Parser.canonical).map decoration.canonical.apply := by
  cases base? with
  | none => rfl
  | some base => exact congrArg some (decoration.canonical_apply base)

/-! ## The recursion down a forest -/

namespace Blueprint

variable {plan : Blueprint} {id child : NodeId}

namespace IsForest

theorem length_lineage_le (forest : plan.IsForest) (present : plan.Present id) :
    (plan.lineage id).length ≤ plan.issued := by
  apply forest.length_climb_le _
  rintro other ⟨⟩
  exact present

/-- A child has a way up longer by one. -/
theorem length_lineage_child (forest : plan.IsForest) (member : child ∈ plan.childrenOf id) :
    (plan.lineage child).length = (plan.lineage id).length + 1 := by
  have above := forest.mem_childrenOf.1 member
  rw [forest.lineage_eq (present_of_parent? above), above]
  rfl

/-- Depths that reach the ground give the same parser. -/
theorem compileWithin_eq
    (forest : plan.IsForest)
    {depth other : Nat}
    (reaches : plan.issued < depth + (plan.lineage id).length)
    (otherReaches : plan.issued < other + (plan.lineage id).length) :
    plan.compileWithin depth id = plan.compileWithin other id := by
  induction depth generalizing id other with
  | zero =>
      cases found : plan.entryOf? id with
      | some entry =>
          have bounded := forest.length_lineage_le (present_of_entryOf? found)
          omega
      | none => cases other <;> simp [compileWithin, found]
  | succ depth hypothesis =>
      cases found : plan.entryOf? id with
      | none => cases other <;> simp [compileWithin, found]
      | some entry =>
          have bounded := forest.length_lineage_le (present_of_entryOf? found)
          cases other with
          | zero => omega
          | succ other =>
              simp only [compileWithin, found, Option.bind_some]
              congr 1
              refine Kind.assemble?_congr ?_
              intro child member
              rw [← childrenOf_eq found] at member
              have longer := forest.length_lineage_child member
              exact hypothesis (by omega) (by omega)

/-- A parser from scratch is assembled from the parsers from scratch of the children. -/
theorem compile?_eq (forest : plan.IsForest) (id : NodeId) :
    plan.compile? id = (plan.entryOf? id).bind fun entry =>
      (entry.kind.assemble? entry.children plan.compile?).map entry.decoration.apply := by
  cases found : plan.entryOf? id with
  | none => simp [compile?, compileWithin, found]
  | some entry =>
      simp only [compile?, compileWithin, found, Option.bind_some]
      congr 1
      refine Kind.assemble?_congr ?_
      intro child member
      rw [← childrenOf_eq found] at member
      have longer := forest.length_lineage_child member
      exact forest.compileWithin_eq (by omega) (by omega)

/-- What holds of a node whenever it holds of its children holds of all nodes. -/
theorem children_induction
    (forest : plan.IsForest)
    {holds : NodeId → Prop}
    (step : ∀ id, (∀ child ∈ plan.childrenOf id, holds child) → holds id)
    (id : NodeId) :
    holds id := by
  -- The deeper a node lies, the less can lie below it.
  suffices below : ∀ height id, plan.issued < height + (plan.lineage id).length → holds id from
    below (plan.issued + 1) id (by omega)
  intro height
  induction height with
  | zero =>
      intro id tall
      apply step
      intro child member
      have bounded := forest.length_lineage_le (present_of_mem_childrenOf member)
      omega
  | succ height hypothesis =>
      intro id tall
      apply step
      intro child member
      have longer := forest.length_lineage_child member
      exact hypothesis child (by omega)

/-- Parsers that are assembled node by node are, up to their canonical forms, those from scratch. -/
theorem canonical_eq_compile?
    (forest : plan.IsForest)
    {kept? : NodeId → Option Parser}
    (assembled : ∀ id, (kept? id).map Parser.canonical =
      ((plan.entryOf? id).bind fun entry =>
        (entry.kind.assemble? entry.children kept?).map entry.decoration.apply).map
          Parser.canonical)
    (id : NodeId) :
    (kept? id).map Parser.canonical = (plan.compile? id).map Parser.canonical := by
  induction id using forest.children_induction with
  | step id hypothesis =>
      rw [assembled id, forest.compile?_eq id]
      cases found : plan.entryOf? id with
      | none => rfl
      | some entry =>
          have alike : ∀ child ∈ entry.children,
              (kept? child).map Parser.canonical = (plan.compile? child).map Parser.canonical := by
            intro child member
            rw [← childrenOf_eq found] at member
            exact hypothesis child member
          rw [Option.bind_some, Option.bind_some, Decoration.canonical_map_apply,
            Decoration.canonical_map_apply, Kind.canonical_assemble?, Kind.canonical_assemble?,
            Kind.assemble?_congr alike]

end IsForest

end Blueprint

end ParserGraph

import ParserGraph.Proofs.Tree.Acceptance

/-!
# Children in front of others

A child that is put in front of another one is taken out of the list first, if it stands
there already, and the other one is looked for only then.  So the child comes to stand
right in front of it wherever both stood before, and no other child is moved.  The parent
is then combined anew from its children in their new order.
-/

namespace ParserGraph

/-! ## Lists of children -/

/-- The new list is the old one with the child taken to the place in front of another one. -/
structure Spliced (child before : NodeId) (old new : List NodeId) : Prop where
  still : child = before → new = old
  placed :
    child ≠ before →
      ∃ front back,
        old.erase child = front ++ before :: back ∧ new = front ++ child :: before :: back
  /-- The others stay, in their order. -/
  others : new.erase child = old.erase child
  mem_iff : ∀ id, id ∈ new ↔ id = child ∨ id ∈ old
  distinct : new.Nodup
  length : new.length = old.length + if child ∈ old then 0 else 1

/-- A child is put right in front of one that is there. -/
theorem Node.exists_insertChild_eq
    {children : List NodeId}
    {before : NodeId}
    (member : before ∈ children)
    (child : NodeId) :
    ∃ front back,
      children = front ++ before :: back ∧
        Node.insertChild children child before = front ++ child :: before :: back := by
  induction children with
  | nil => cases member
  | cons first rest hypothesis =>
      rw [insertChild]
      split_ifs with here
      · exact ⟨[], rest, by rw [here, List.nil_append], by rw [here, List.nil_append]⟩
      · rcases hypothesis ((List.mem_cons.1 member).resolve_left (Ne.symm here)) with
          ⟨front, back, split, inserted⟩
        refine ⟨first :: front, back, ?_, ?_⟩
        · rw [split, List.cons_append]
        · rw [inserted, List.cons_append]

theorem spliced_self
    {before : NodeId}
    {children : List NodeId}
    (member : before ∈ children)
    (distinct : children.Nodup) :
    Spliced before before children children where
  still _ := rfl
  placed different := absurd rfl different
  others := rfl
  mem_iff id := by
    refine ⟨Or.inr, ?_⟩
    rintro (rfl | listed)
    · exact member
    · exact listed
  distinct := distinct
  length := by rw [if_pos member, Nat.add_zero]

/-- It does not matter whether the child was there. -/
theorem spliced_insertChild
    {child before : NodeId}
    {children : List NodeId}
    (member : before ∈ children)
    (different : child ≠ before)
    (distinct : children.Nodup) :
    Spliced child before children (Node.insertChild (children.erase child) child before) := by
  have fresh : child ∉ children.erase child := distinct.not_mem_erase
  have anchored : before ∈ children.erase child :=
    (List.mem_erase_of_ne (Ne.symm different)).2 member
  have placed := Node.insertChild_perm (children.erase child) child before
  constructor
  case still => exact fun same => absurd same different
  case placed =>
    intro _
    rcases Node.exists_insertChild_eq anchored child with ⟨front, back, split, inserted⟩
    exact ⟨front, back, split, inserted⟩
  case others => exact Node.erase_insertChild fresh before
  case mem_iff =>
    intro id
    rw [placed.mem_iff, List.mem_cons, distinct.mem_erase_iff]
    by_cases same : id = child <;> simp [same]
  case distinct =>
    exact placed.nodup_iff.2 (List.nodup_cons.2 ⟨fresh, distinct.erase child⟩)
  case length =>
    rw [placed.length_eq, List.length_cons]
    split_ifs with listed
    · have positive := List.length_pos_of_mem listed
      rw [List.length_erase_of_mem listed]
      omega
    · rw [List.erase_of_not_mem listed]

/-! ## The children behind an insertion -/

namespace Blueprint

variable {plan : Blueprint} {parent child before : NodeId}

theorem before_mem_of_checkInsert (allowed : plan.checkInsert parent child before = .ok ()) :
    before ∈ plan.childrenOf parent := by
  rcases checkInsert_eq_ok_iff.1 allowed with ⟨entry, _, found, _, _, anchored, _⟩
  rwa [childrenOf_eq found]

theorem verdict_insertBefore
    (derived? : NodeId → Option Parser)
    (allowed : plan.checkInsert parent child before = .ok ()) :
    plan.verdict derived? (.insertBefore parent child before) = .ok (some parent) :=
  answer_eq_ok_iff.2 ⟨allowed, rfl⟩

/-- What is put among the children of a node does not lie above it. -/
theorem IsForest.not_mem_lineage_of_checkInsert
    (forest : plan.IsForest)
    (allowed : plan.checkInsert parent child before = .ok ()) :
    child ∉ plan.lineage parent := by
  rcases checkInsert_eq_ok_iff.1 allowed with ⟨entry, _, found, _, _, _, listed | appends⟩
  · rw [← childrenOf_eq found] at listed
    exact forest.not_mem_lineage_of_parent? (forest.mem_childrenOf.1 listed)
  · rcases checkAttachable_eq_ok_iff.1 (checkAppend_eq_ok_iff.1 appends).1 with
      ⟨_, _, _, _, _, _, _, apart⟩
    exact apart

/-- A child from elsewhere and one that is moved come to the same place. -/
theorem IsForest.entryOf?_insertBefore
    (forest : plan.IsForest)
    (allowed : plan.checkInsert parent child before = .ok ())
    {entry : Entry}
    (found : plan.entryOf? parent = some entry) :
    (plan.perform (.insertBefore parent child before)).entryOf? parent =
      some { entry with
        children :=
          if child = before then entry.children
          else Node.insertChild (entry.children.erase child) child before } := by
  have anchored := before_mem_of_checkInsert allowed
  have different : parent ≠ child := by
    rintro rfl
    exact forest.not_mem_lineage_of_checkInsert allowed (mem_lineage_self plan parent)
  rw [Blueprint.perform, childrenOf_eq found]
  rw [childrenOf_eq found] at anchored
  split_ifs with listed still still
  · exact found
  · rw [Blueprint.arranged, entryOf?_alter, if_pos rfl, found, Option.map_some]
  · exact absurd (still ▸ anchored) listed
  · rw [linked, entryOf?_alter, if_neg different, Blueprint.arranged, entryOf?_alter, if_pos rfl,
      found, Option.map_some, List.erase_of_not_mem listed]

theorem IsForest.spliced
    (forest : plan.IsForest)
    (allowed : plan.checkInsert parent child before = .ok ()) :
    Spliced child before (plan.childrenOf parent)
      ((plan.perform (.insertBefore parent child before)).childrenOf parent) := by
  have anchored := before_mem_of_checkInsert allowed
  have distinct := forest.distinct parent
  rcases (present_of_mem_childrenOf anchored).exists_entryOf? with ⟨entry, found⟩
  rw [childrenOf_eq (forest.entryOf?_insertBefore allowed found), ← childrenOf_eq found]
  simp only
  split_ifs with still
  · subst still
    exact spliced_self anchored distinct
  · exact spliced_insertChild anchored still distinct

end Blueprint

/-! ## The parent behind an insertion -/

namespace Tree

variable {tree : Tree} {parent child before : NodeId}

/-- A node with a child put in front of another one, combined anew from its new children. -/
structure Resplices (tree next : Tree) (child before : NodeId) (node after : Node) : Prop where
  children : Spliced child before node.children after.children
  /-- In the blueprint nothing else of the node is changed. -/
  entry : after.entry = { node.entry with children := after.children }
  /-- The children bring the parsers that they had. -/
  kept : ∀ id ∈ after.children, next.derived? id = tree.derived? id
  combined : after.combined = after.kind.assemble? after.children tree.derived?
  derived : after.derived = after.combined.map after.decoration.apply

namespace Consistent

/-- What an insertion puts among the children, or finds there, keeps its parser. -/
theorem derived?_insertBefore
    (consistent : tree.Consistent)
    (allowed : tree.blueprint.checkInsert parent child before = .ok ())
    {id : NodeId}
    (member :
      id ∈ (tree.blueprint.perform (.insertBefore parent child before)).childrenOf parent) :
    (tree.apply (.insertBefore parent child before)).2.derived? id = tree.derived? id := by
  have forest := consistent.wellFormed.forest
  have accepted := Blueprint.verdict_insertBefore tree.derived? allowed
  have old : tree.blueprint.Present id ∧ id ∉ tree.blueprint.lineage parent := by
    rcases ((forest.spliced allowed).mem_iff id).1 member with rfl | listed
    · rcases Blueprint.checkInsert_eq_ok_iff.1 allowed with ⟨_, _, _, there, _⟩
      exact ⟨Blueprint.present_of_entryOf? there, forest.not_mem_lineage_of_checkInsert allowed⟩
    · have above := forest.mem_childrenOf.1 listed
      exact ⟨Blueprint.present_of_parent? above, forest.not_mem_lineage_of_parent? above⟩
  have stays : (tree.apply (.insertBefore parent child before)).2.blueprint.Present id := by
    rw [(consistent.performs accepted).blueprint]
    exact Blueprint.present_perform forest old.1 (by rintro node ⟨⟩)
  rcases exists_get?_of_present old.1 with ⟨node, found⟩
  rcases exists_get?_of_present stays with ⟨after, there⟩
  have same := (consistent.framed_apply accepted).outside found there old.2
  rw [derived?, derived?, found, there, same]
  rfl

/-- A node that gets a child, or moves one, is combined anew from its children. -/
theorem exists_resplices
    (consistent : tree.Consistent)
    (allowed : tree.blueprint.checkInsert parent child before = .ok ()) :
    ∃ node after,
      tree.get? parent = some node ∧
        (tree.apply (.insertBefore parent child before)).2.get? parent = some after ∧
          tree.Resplices (tree.apply (.insertBefore parent child before)).2 child before
            node after := by
  have forest := consistent.wellFormed.forest
  have accepted := Blueprint.verdict_insertBefore tree.derived? allowed
  have performs := consistent.performs accepted
  have anchored := Blueprint.before_mem_of_checkInsert allowed
  rcases exists_get?_of_present (Blueprint.present_of_mem_childrenOf anchored) with ⟨node, found⟩
  have placed := forest.entryOf?_insertBefore allowed (entryOf?_blueprint found)
  rw [← performs.blueprint] at placed
  rcases exists_get?_of_present (Blueprint.present_of_entryOf? placed) with ⟨after, there⟩
  have listed : (tree.blueprint.perform (.insertBefore parent child before)).childrenOf parent =
      after.children := by
    rw [← performs.blueprint, childrenOf_blueprint there]
  have spliced := forest.spliced allowed
  rw [childrenOf_blueprint found, listed] at spliced
  have entry : after.entry = { node.entry with children := after.children } := by
    rw [entryOf?_blueprint there] at placed
    have whole := Option.some.inj placed
    have children := congrArg Entry.children whole
    rw [Node.children_entry] at children
    rw [whole, children]
  have kept : ∀ id ∈ after.children,
      (tree.apply (.insertBefore parent child before)).2.derived? id = tree.derived? id := by
    intro id member
    rw [← listed] at member
    exact consistent.derived?_insertBefore allowed member
  have combinator : after.kind.isLeaf = false := by
    rw [childrenOf_blueprint found] at anchored
    have bare : node.entry.kind.isLeaf = false :=
      forest.isLeaf_of_mem_children (entryOf?_blueprint found) anchored
    rwa [← Node.isLeaf_entry, entry]
  have settled := performs.consistent.coherent parent after there List.not_mem_nil
  refine ⟨node, after, found, there, spliced, entry, kept, ?_, settled.decorated⟩
  rw [settled.assembled combinator]
  exact Kind.assemble?_congr kept

end Consistent

/--
An accepted insertion of a child in front of itself leaves the children of the parent as
they are.  Any other one takes the child out of them, if it is there, and puts it right in
front of the other, so that nothing is lost, doubled or reordered.  The parent is then
combined from its children in their new order.
-/
theorem children_spliced_by_insertion
    (options : TreeOptions)
    (edits : List Edit)
    (parent child before : NodeId)
    (accepted :
      ((withOptions options).after edits).Accepts (.insertBefore parent child before)) :
    let tree := (withOptions options).after edits
    let next := (tree.apply (.insertBefore parent child before)).2
    ∃ node after,
      tree.get? parent = some node ∧ next.get? parent = some after ∧
        tree.Resplices next child before node after := by
  intro tree next
  have consistent : tree.Consistent := (consistent_withOptions options).after edits
  rcases consistent.accepts_iff.1 accepted with ⟨result, decided⟩
  exact consistent.exists_resplices (Blueprint.answer_eq_ok_iff.1 decided).1

/-- The last of three texts is moved in front of the first, and the texts are joined anew. -/
theorem children_spliced_to_the_front :
    let edits : List Edit :=
      [.create "all" {}, .create "string" { text := some "a" },
        .create "string" { text := some "b" }, .create "string" { text := some "c" },
        .appendChild { number := 1 } { number := 2 }, .appendChild { number := 1 } { number := 3 },
        .appendChild { number := 1 } { number := 4 }]
    let tree := (withOptions {}).after edits
    let edit := Edit.insertBefore { number := 1 } { number := 4 } { number := 2 }
    tree.Accepts edit ∧
      ∃ node after,
        tree.get? { number := 1 } = some node ∧
          (tree.apply edit).2.get? { number := 1 } = some after ∧
          node.children = [{ number := 2 }, { number := 3 }, { number := 4 }] ∧
          after.children = [{ number := 4 }, { number := 2 }, { number := 3 }] ∧
          after.combined = some (.all [.text "c", .text "a", .text "b"]) ∧
          tree.Resplices (tree.apply edit).2 { number := 4 } { number := 2 } node after := by
  intro edits tree edit
  have accepted : tree.Accepts edit := ⟨some { number := 1 }, rfl⟩
  rcases children_spliced_by_insertion {} edits { number := 1 } { number := 4 } { number := 2 }
    accepted with ⟨node, after, found, later, resplices⟩
  refine ⟨accepted, node, after, found, later, ?_, ?_, ?_, resplices⟩
  · cases found
    rfl
  · cases later
    rfl
  · cases later
    rfl

end Tree

end ParserGraph

import ParserGraph.Proofs.Tree.Acceptance

/-!
# Numbers of nodes

Nodes are numbered in the order in which they are created, and only an accepted creation
takes a number.  A number stays taken when its node is dropped, so that it never comes to
stand for another node.
-/

namespace ParserGraph

namespace Blueprint

variable {plan : Blueprint} {id node : NodeId} {edit : Edit}

/-! ## What an edit counts and drops -/

@[simp]
theorem issued_freed (plan : Blueprint) (id : NodeId) : (plan.freed id).issued = plan.issued := by
  rw [freed]
  split <;> rfl

@[simp]
theorem present_freed : (plan.freed node).Present id ↔ plan.Present id := by
  rw [freed]
  split
  · exact present_detached
  · exact Iff.rfl

/-- Only a creation takes a number. -/
theorem issued_perform (other : ∀ tag props, edit ≠ .create tag props) :
    (plan.perform edit).issued = plan.issued := by
  cases edit with
  | create tag props => exact absurd rfl (other tag props)
  | insertBefore parent child before =>
      simp only [perform]
      split_ifs <;> rfl
  | destroy node => exact issued_freed plan node
  | _ => rfl

/-- Only the freed node loses its parent. -/
theorem parent?_freed_of_ne (present : plan.Present node) (different : id ≠ node) :
    (plan.freed node).parent? id = plan.parent? id := by
  rw [freed]
  cases plan.parent? node with
  | none => rfl
  | some parent => rw [parent?_detached present, if_neg different]

/-- A node that is taken from its parent stays above those that it was above. -/
theorem IsForest.mem_lineage_freed_iff (forest : plan.IsForest) (present : plan.Present node) :
    node ∈ (plan.freed node).lineage id ↔ node ∈ plan.lineage id := by
  constructor
  · intro member
    by_contra outside
    exact not_mem_lineage_freed forest present outside member
  · intro member
    have way := forest.mem_lineage_iff_reflTransGen.1 member
    clear member
    induction way using Relation.ReflTransGen.head_induction_on with
    | refl => exact mem_lineage_self _ node
    | @head lower upper above _ hypothesis =>
        by_cases same : lower = node
        · rw [same]
          exact mem_lineage_self _ node
        · rw [← parent?_freed_of_ne present same] at above
          exact ((forest.freed node).mem_lineage_iff above node).2 (Or.inr hypothesis)

/-- Nodes come by creations, and go with what they lie below. -/
theorem IsForest.present_perform_iff
    (forest : plan.IsForest)
    {derived? : NodeId → Option Parser}
    {result : Option NodeId}
    (accepted : plan.verdict derived? edit = .ok result) :
    (plan.perform edit).Present id ↔
      (plan.Present id ∨ ∃ tag props, edit = .create tag props ∧ result = some id) ∧
        ¬ ∃ top, edit = .destroy top ∧ top ∈ plan.lineage id := by
  cases edit with
  | create tag props =>
      rcases answer_eq_ok_iff.1 accepted with ⟨allowed, answer⟩
      cases resolved : Kind.resolve tag props with
      | error error => simp [checkCreate, resolved] at allowed
      | ok kind =>
          simp [Blueprint.perform, resolved, present_added, ← answer, or_comm, eq_comm]
  | update node delta => simp [Blueprint.perform]
  | appendChild parent child => simp [Blueprint.perform]
  | insertBefore parent child before =>
      simp only [Blueprint.perform]
      split_ifs <;> simp
  | removeChild parent child => simp [Blueprint.perform]
  | destroy top =>
      rcases checkDestroy_eq_ok_iff.1 (answer_eq_ok_iff.1 accepted).1 with ⟨entry, found, _⟩
      have present := present_of_entryOf? found
      simp [Blueprint.perform, present_without, forest.mem_lineage_freed_iff present]
  | setRoot node => simp [Blueprint.perform, Present]
  | clearRoot => simp [Blueprint.perform, Present]

end Blueprint

/-- The edit is accepted and drops the node, with one above it or as itself. -/
def Edit.Drops (edit : Edit) (tree : Tree) (id : NodeId) : Prop :=
  ∃ top, edit = .destroy top ∧ tree.Accepts edit ∧ tree.AtOrAbove top id

/-- Kinds that come from each other by props: what a kind holds is left out. -/
structure Kind.SameType (kind other : Kind) : Prop where
  tag : other.tag = kind.tag
  isLeaf : other.isLeaf = kind.isLeaf
  maxChildren : ∀ options, other.maxChildren options = kind.maxChildren options

namespace Kind.SameType

theorem refl (kind : Kind) : kind.SameType kind :=
  ⟨rfl, rfl, fun _ => rfl⟩

theorem symm {kind other : Kind} (same : kind.SameType other) : other.SameType kind :=
  ⟨same.tag.symm, same.isLeaf.symm, fun options => (same.maxChildren options).symm⟩

theorem trans
    {first second third : Kind}
    (before : first.SameType second)
    (behind : second.SameType third) :
    first.SameType third where
  tag := behind.tag.trans before.tag
  isLeaf := behind.isLeaf.trans before.isLeaf
  maxChildren options := (behind.maxChildren options).trans (before.maxChildren options)

theorem withProps (kind : Kind) (props : Props) : kind.SameType (kind.withProps props) :=
  ⟨tag_withProps props kind, isLeaf_withProps props kind,
    fun options => maxChildren_withProps options props kind⟩

theorem entry (node : Node) : node.kind.SameType node.entry.kind :=
  withProps node.kind _

end Kind.SameType

namespace Tree

variable {tree : Tree} {id : NodeId} {edit : Edit} {edits : List Edit}

def Live (tree : Tree) (id : NodeId) : Prop :=
  (tree.get? id).isSome = true

/-- What an edit answers if it is an accepted creation. -/
def created (tree : Tree) (edit : Edit) : List (Option NodeId) :=
  match edit with
  | .create _ _ => (tree.apply edit).1.toOption.toList
  | _ => []

/-- What the accepted creations of a run answer, in order. -/
def creations (tree : Tree) : List Edit → List (Option NodeId)
  | [] => []
  | edit :: rest => tree.created edit ++ (tree.apply edit).2.creations rest

/-- The node is dropped somewhere in a run. -/
def DropsDuring (tree : Tree) (edits : List Edit) (id : NodeId) : Prop :=
  ∃ front edit back, edits = front ++ edit :: back ∧ edit.Drops (tree.after front) id

theorem live_iff_present : tree.Live id ↔ tree.blueprint.Present id := by
  rw [Live, Blueprint.Present, blueprint, Option.isSome_map]

/-- Only a node that is there has a parent. -/
theorem live_of_parent? {parent : NodeId} (above : tree.parent? id = some parent) :
    tree.Live id := by
  rw [← parent?_blueprint] at above
  exact live_iff_present.2 (Blueprint.present_of_parent? above)

/-- What lies at or below a node that is there is there. -/
theorem Live.of_atOrAbove
    {upper : NodeId}
    (live : tree.Live upper)
    (way : tree.AtOrAbove upper id) :
    tree.Live id := by
  rcases Relation.ReflTransGen.cases_head way with rfl | ⟨parent, link, _⟩
  · exact live
  · exact live_of_parent? link

theorem WellFormed.live_of_mem
    (wellFormed : tree.WellFormed)
    {node : Node}
    (member : node ∈ tree.nodes) :
    tree.Live node.id := by
  rw [Live, wellFormed.get?_of_mem member]
  rfl

/-! ## One edit -/

theorem mem_created_iff :
    some id ∈ tree.created edit ↔
      ∃ tag props, edit = .create tag props ∧ (tree.apply edit).1 = .ok (some id) := by
  cases edit with
  | create tag props =>
      cases answered : (tree.apply (.create tag props)).1 <;>
        simp [created, answered, Except.toOption, eq_comm]
  | _ => simp [created]

/-- An accepted creation answers the next number, and nothing else takes one. -/
theorem Consistent.created_cases (consistent : tree.Consistent) (edit : Edit) :
    (tree.created edit = [some { number := tree.issued + 1 }] ∧
        (tree.apply edit).2.issued = tree.issued + 1) ∨
      (tree.created edit = [] ∧ (tree.apply edit).2.issued = tree.issued) := by
  have answered := consistent.fst_apply edit
  cases accepted : tree.blueprint.verdict tree.derived? edit with
  | error error =>
      rw [accepted] at answered
      refine Or.inr ⟨?_, congrArg Tree.issued (consistent.snd_apply_of_error accepted)⟩
      cases edit <;> simp [Tree.created, answered, Except.toOption]
  | ok result =>
      rw [accepted] at answered
      have issued := congrArg Blueprint.issued (consistent.performs accepted).blueprint
      cases edit with
      | create tag props =>
          rcases Blueprint.answer_eq_ok_iff.1 accepted with ⟨allowed, answer⟩
          refine Or.inl ⟨?_, issued.trans ?_⟩
          · rw [Tree.created, answered, ← answer]
            rfl
          · cases resolved : Kind.resolve tag props with
            | error error => simp [Blueprint.checkCreate, resolved] at allowed
            | ok kind =>
                rw [Blueprint.perform, resolved]
                rfl
      | _ => exact Or.inr ⟨rfl, issued.trans (Blueprint.issued_perform (by simp))⟩

/-- An accepted edit drops what lies below the node that it destroys. -/
theorem Consistent.drops_iff
    (consistent : tree.Consistent)
    {result : Option NodeId}
    (accepted : tree.blueprint.verdict tree.derived? edit = .ok result) :
    edit.Drops tree id ↔ ∃ top, edit = .destroy top ∧ top ∈ tree.blueprint.lineage id := by
  have allowed : tree.Accepts edit := consistent.accepts_iff.2 ⟨result, accepted⟩
  simp only [Edit.Drops, allowed, true_and, consistent.wellFormed.mem_lineage_iff_atOrAbove]

theorem Consistent.live_apply_iff (consistent : tree.Consistent) (edit : Edit) :
    (tree.apply edit).2.Live id ↔
      (tree.Live id ∨ some id ∈ tree.created edit) ∧ ¬ edit.Drops tree id := by
  have answered := consistent.fst_apply edit
  rw [mem_created_iff]
  cases accepted : tree.blueprint.verdict tree.derived? edit with
  | error error =>
      rw [accepted] at answered
      have refused : ¬ tree.Accepts edit := by
        rintro ⟨result, ok⟩
        rw [answered] at ok
        cases ok
      simp [consistent.snd_apply_of_error accepted, answered, Edit.Drops, refused]
  | ok result =>
      rw [accepted] at answered
      rw [live_iff_present, live_iff_present, (consistent.performs accepted).blueprint,
        consistent.wellFormed.forest.present_perform_iff accepted, consistent.drops_iff accepted,
        answered]
      simp

/-- What is dropped was there. -/
theorem Consistent.live_of_drops (consistent : tree.Consistent) (drops : edit.Drops tree id) :
    tree.Live id := by
  rcases drops with ⟨top, rfl, allowed, above⟩
  rcases consistent.accepts_destroy_iff.1 allowed with ⟨node, found, _⟩
  have live : tree.Live top := Option.isSome_iff_exists.2 ⟨node, found⟩
  exact live.of_atOrAbove above

theorem Consistent.sameType_apply
    (consistent : tree.Consistent)
    (edit : Edit)
    {node after : Node}
    (found : tree.get? id = some node)
    (later : (tree.apply edit).2.get? id = some after) :
    node.kind.SameType after.kind := by
  cases accepted : tree.blueprint.verdict tree.derived? edit with
  | error error =>
      rw [consistent.snd_apply_of_error accepted, found] at later
      cases later
      exact .refl node.kind
  | ok result =>
      have entry := entryOf?_blueprint later
      rw [(consistent.performs accepted).blueprint] at entry
      have changed := Blueprint.kind_perform consistent.wellFormed.forest
        (entryOf?_blueprint found) entry
      have types : node.entry.kind.SameType after.entry.kind := by
        rcases changed with same | ⟨delta, _, merged⟩
        · exact same ▸ .refl node.entry.kind
        · exact merged ▸ .withProps node.entry.kind delta
      exact (Kind.SameType.entry node).trans (types.trans (Kind.SameType.entry after).symm)

/-! ## Runs -/

theorem Consistent.issued_apply (consistent : tree.Consistent) (edit : Edit) :
    (tree.apply edit).2.issued = tree.issued + (tree.created edit).length := by
  rcases consistent.created_cases edit with ⟨created, issued⟩ | ⟨created, issued⟩
  · rw [created, issued, List.length_singleton]
  · rw [created, issued, List.length_nil, Nat.add_zero]

/-- The numbers that a run takes follow on those that are taken before. -/
theorem Consistent.creations_eq (consistent : tree.Consistent) (edits : List Edit) :
    tree.creations edits =
      (List.range' (tree.issued + 1) (tree.creations edits).length).map
        fun number => some { number } := by
  induction edits generalizing tree with
  | nil => rfl
  | cons edit rest hypothesis =>
      have later := hypothesis (consistent.apply edit)
      rw [creations]
      rcases consistent.created_cases edit with ⟨created, issued⟩ | ⟨created, issued⟩
      · rw [issued] at later
        rw [created, List.singleton_append, List.length_cons, List.range'_succ, List.map_cons,
          ← later]
      · rw [issued] at later
        rw [created, List.nil_append, ← later]

theorem Consistent.issued_after (consistent : tree.Consistent) (edits : List Edit) :
    (tree.after edits).issued = tree.issued + (tree.creations edits).length := by
  induction edits generalizing tree with
  | nil => rfl
  | cons edit rest hypothesis =>
      have later := hypothesis (consistent.apply edit)
      rw [consistent.issued_apply, Nat.add_assoc, ← List.length_append] at later
      exact later

theorem length_creations_le (tree : Tree) (edits : List Edit) :
    (tree.creations edits).length ≤ edits.length := by
  induction edits generalizing tree with
  | nil => exact Nat.le_refl 0
  | cons edit rest hypothesis =>
      have single : (tree.created edit).length ≤ 1 := by
        cases edit with
        | create tag props =>
            rw [created]
            cases (tree.apply (.create tag props)).1.toOption <;> simp
        | _ => exact Nat.zero_le 1
      have later := hypothesis (tree.apply edit).2
      rw [creations, List.length_append, List.length_cons]
      omega

/-- The numbers that a run takes were free before, and are taken behind it. -/
theorem Consistent.number_of_mem_creations
    (consistent : tree.Consistent)
    (member : some id ∈ tree.creations edits) :
    tree.issued < id.number ∧ id.number ≤ (tree.after edits).issued := by
  rw [consistent.issued_after]
  rw [consistent.creations_eq edits] at member
  rcases List.mem_map.1 member with ⟨number, listed, named⟩
  have bounds := List.mem_range'_1.1 listed
  cases named
  constructor
  · exact bounds.1
  · show number ≤ tree.issued + (tree.creations edits).length
    omega

theorem Consistent.number_le_of_live (consistent : tree.Consistent) (live : tree.Live id) :
    id.number ≤ tree.issued :=
  (consistent.wellFormed.forest.numbered (live_iff_present.1 live)).2

theorem dropsDuring_cons_iff {rest : List Edit} :
    tree.DropsDuring (edit :: rest) id ↔
      edit.Drops tree id ∨ (tree.apply edit).2.DropsDuring rest id := by
  constructor
  · rintro ⟨front, dropping, back, split, drops⟩
    cases front with
    | nil =>
        cases split
        exact Or.inl drops
    | cons first front =>
        cases split
        exact Or.inr ⟨front, dropping, back, rfl, drops⟩
  · rintro (drops | ⟨front, dropping, back, rfl, drops⟩)
    · exact ⟨[], edit, rest, rfl, drops⟩
    · exact ⟨edit :: front, dropping, back, rfl, drops⟩

/-- Those nodes are there that were there or have been created, and have not been dropped. -/
theorem Consistent.live_after_iff (consistent : tree.Consistent) (edits : List Edit) :
    (tree.after edits).Live id ↔
      (tree.Live id ∨ some id ∈ tree.creations edits) ∧ ¬ tree.DropsDuring edits id := by
  induction edits generalizing tree with
  | nil =>
      have still : ¬ tree.DropsDuring [] id := by
        rintro ⟨front, _, _, split, _⟩
        simp at split
      have here : tree.after [] = tree := rfl
      simp [here, creations, still]
  | cons edit rest hypothesis =>
      have next := consistent.apply edit
      -- What is created later is not among what is dropped now.
      have apart : some id ∈ (tree.apply edit).2.creations rest → ¬ edit.Drops tree id := by
        intro created drops
        have old := consistent.number_le_of_live (consistent.live_of_drops drops)
        have new := (next.number_of_mem_creations created).1
        rw [consistent.issued_apply] at new
        omega
      have run : tree.after (edit :: rest) = (tree.apply edit).2.after rest := rfl
      rw [run, hypothesis next, consistent.live_apply_iff, dropsDuring_cons_iff, creations,
        List.mem_append]
      tauto

/-- A node that has gone does not come back. -/
theorem Consistent.not_live_after
    (consistent : tree.Consistent)
    (taken : id.number ≤ tree.issued)
    (gone : ¬ tree.Live id)
    (edits : List Edit) :
    ¬ (tree.after edits).Live id := by
  rw [consistent.live_after_iff]
  rintro ⟨live | created, _⟩
  · exact gone live
  · exact Nat.not_lt.2 taken (consistent.number_of_mem_creations created).1

/-- As long as a node is there it is of one type. -/
theorem Consistent.sameType_after
    (consistent : tree.Consistent)
    (edits : List Edit)
    {node after : Node}
    (found : tree.get? id = some node)
    (later : (tree.after edits).get? id = some after) :
    node.kind.SameType after.kind := by
  induction edits generalizing tree node with
  | nil =>
      have here : tree.after [] = tree := rfl
      rw [here, found] at later
      exact Option.some.inj later ▸ .refl node.kind
  | cons edit rest hypothesis =>
      have next := consistent.apply edit
      cases there : (tree.apply edit).2.get? id with
      | none =>
          have live : tree.Live id := Option.isSome_iff_exists.2 ⟨node, found⟩
          have taken : id.number ≤ (tree.apply edit).2.issued := by
            rw [consistent.issued_apply]
            exact Nat.le_add_right_of_le (consistent.number_le_of_live live)
          have gone : ¬ (tree.apply edit).2.Live id := by simp [Live, there]
          have back : (tree.after (edit :: rest)).Live id :=
            Option.isSome_iff_exists.2 ⟨after, later⟩
          exact absurd back (next.not_live_after taken gone rest)
      | some between =>
          exact (consistent.sameType_apply edit found there).trans (hypothesis next there later)

theorem DropsDuring.append
    {front : List Edit}
    (drops : tree.DropsDuring front id)
    (back : List Edit) :
    tree.DropsDuring (front ++ back) id := by
  rcases drops with ⟨first, edit, second, rfl, drops⟩
  exact ⟨first, edit, second ++ back, by rw [List.append_assoc, List.cons_append], drops⟩

/-- Only a number that is taken is dropped. -/
theorem Consistent.number_le_of_dropsDuring
    (consistent : tree.Consistent)
    (drops : tree.DropsDuring edits id) :
    id.number ≤ (tree.after edits).issued := by
  rcases drops with ⟨front, edit, back, rfl, drops⟩
  have middle := consistent.after front
  have taken := middle.number_le_of_live (middle.live_of_drops drops)
  rw [after_append, middle.issued_after]
  exact Nat.le_add_right_of_le taken

/-- From a tree without nodes, a run numbers its nodes in the order of their creation. -/
structure NumbersNodes (tree : Tree) (edits : List Edit) : Prop where
  /-- Each creation answers the next number. -/
  numbered :
    tree.creations edits =
      (List.range' 1 (tree.creations edits).length).map fun number => some { number }
  distinct : (tree.creations edits).Nodup
  issued : (tree.after edits).issued = (tree.creations edits).length
  /-- Numbers of 64 bits suffice for fewer edits than there are such numbers. -/
  fits :
    edits.length < UInt64.size →
      ∀ id, some id ∈ tree.creations edits → id.number < UInt64.size
  live_iff :
    ∀ id,
      (tree.after edits).Live id ↔
        some id ∈ tree.creations edits ∧ ¬ tree.DropsDuring edits id
  gone :
    ∀ front back id,
      edits = front ++ back → tree.DropsDuring front id →
        ¬ (tree.after edits).Live id ∧ some id ∉ (tree.after front).creations back
  kept :
    ∀ front back id node after,
      edits = front ++ back → (tree.after front).get? id = some node →
        (tree.after edits).get? id = some after →
          node.id = id ∧ after.id = id ∧ node.kind.SameType after.kind

theorem Consistent.numbersNodes
    (consistent : tree.Consistent)
    (empty : tree.nodes = [])
    (unused : tree.issued = 0)
    (edits : List Edit) :
    tree.NumbersNodes edits := by
  have numbered := consistent.creations_eq edits
  rw [unused, Nat.zero_add] at numbered
  constructor
  case numbered => exact numbered
  case distinct =>
    rw [numbered]
    refine List.Nodup.map ?_ (List.nodup_range' ..)
    intro first second equal
    cases equal
    rfl
  case issued => rw [consistent.issued_after, unused, Nat.zero_add]
  case fits =>
    intro few id created
    have bounds := (consistent.number_of_mem_creations created).2
    have bounded := length_creations_le tree edits
    rw [consistent.issued_after, unused, Nat.zero_add] at bounds
    exact Nat.lt_of_le_of_lt (Nat.le_trans bounds bounded) few
  case live_iff =>
    intro id
    have nowhere : ¬ tree.Live id := by simp [Live, get?, empty]
    rw [consistent.live_after_iff, or_iff_right nowhere]
  case gone =>
    rintro front back id rfl drops
    constructor
    · rw [consistent.live_after_iff]
      exact fun live => live.2 (drops.append back)
    · intro created
      have taken := consistent.number_le_of_dropsDuring drops
      exact Nat.not_lt.2 taken ((consistent.after front).number_of_mem_creations created).1
  case kept =>
    rintro front back id node after rfl found later
    rw [after_append] at later
    have types := (consistent.after front).sameType_after back found later
    exact ⟨id_of_get? found, id_of_get? later, types⟩

/--
In every run, refused edits included, the creations that are accepted answer the numbers
from one on, each once and in order, and no other edit takes one.  The nodes that are there
at the end are those that have been created and not been dropped, with a node that was
destroyed or with one below it.  What has been dropped does not come back, and what stays
keeps its number and its type.
-/
theorem numbersNodes_in_run (options : TreeOptions) (edits : List Edit) :
    (withOptions options).NumbersNodes edits :=
  (consistent_withOptions options).numbersNodes rfl rfl edits

-- A refused creation takes no number, and the number of a destroyed node stays taken.
example :
    (withOptions {}).creations
      [.create "string" {}, .create "all" {}, .destroy { number := 1 }, .create "noop" {}] =
        [some { number := 1 }, some { number := 2 }] := by
  rfl

end Tree

end ParserGraph

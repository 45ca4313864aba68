import Mathlib.Data.List.Nodup
import ParserGraph.Proofs.Parser.Rounds

/-!
# Failures as events

Each failure of a scan is an event at an offset.  A record of failures that takes in
events keeps the greatest offset and all labels there, whatever the order of the
events is.
-/

namespace ParserGraph

/-- At an offset a label was expected in vain. -/
structure FailureEvent where
  offset : Nat
  label : String
deriving DecidableEq, Repr

namespace Expectations

/-- Sets of labels with the same members are equal. -/
theorem ext_of_mem
    {first second : Expectations}
    (members : ∀ label, label ∈ first ↔ label ∈ second) :
    first = second := by
  rcases first with ⟨firstLabels, firstIncreasing⟩
  rcases second with ⟨secondLabels, secondIncreasing⟩
  have distinct : ∀ {labels : List String}, labels.Pairwise (· < ·) → labels.Nodup := by
    intro labels increasing
    apply increasing.imp
    rintro label other smaller rfl
    exact absurd smaller (String.lt_irrefl label)
  have rearranged : firstLabels.Perm secondLabels :=
    (List.perm_ext_iff_of_nodup (distinct firstIncreasing) (distinct secondIncreasing)).2 members
  have same : firstLabels = secondLabels := by
    refine rearranged.eq_of_pairwise ?_ firstIncreasing secondIncreasing
    intro label other _ _ smaller greater
    exact absurd (String.lt_trans smaller greater) (String.lt_irrefl label)
  subst same
  rfl

theorem mem_ofList {label : String} {labels : List String} :
    label ∈ ofList labels ↔ label ∈ labels := by
  have inserted : ∀ (labels : List String) (expectations : Expectations),
      label ∈ labels.foldl (fun expectations label => expectations.insert label) expectations ↔
        label ∈ expectations ∨ label ∈ labels := by
    intro labels
    induction labels with
    | nil => simp
    | cons first rest hypothesis =>
        intro expectations
        rw [List.foldl_cons, hypothesis, mem_insert, List.mem_cons]
        exact or_assoc.trans or_left_comm
  rw [ofList, inserted]
  simp

end Expectations

/-- The greatest offset of events, or a start if there is no event. -/
def furthestOf (start : Nat) (events : List FailureEvent) : Nat :=
  ((events.map FailureEvent.offset).max?).getD start

def labelsAt (offset : Nat) (events : List FailureEvent) : List String :=
  (events.filter fun event => event.offset == offset).map FailureEvent.label

theorem mem_labelsAt {offset : Nat} {events : List FailureEvent} {label : String} :
    label ∈ labelsAt offset events ↔
      ∃ event ∈ events, event.offset = offset ∧ event.label = label := by
  simp [labelsAt, and_assoc]

namespace FailureRecord

variable {record : FailureRecord} {events : List FailureEvent} {start : Nat}

/-- The record with events taken in, one after the other. -/
def absorb (record : FailureRecord) (events : List FailureEvent) : FailureRecord :=
  events.foldl (fun record event => record.fail event.offset event.label) record

@[simp]
theorem absorb_nil (record : FailureRecord) : record.absorb [] = record := rfl

@[simp]
theorem absorb_cons (record : FailureRecord) (event : FailureEvent) (rest : List FailureEvent) :
    record.absorb (event :: rest) = (record.fail event.offset event.label).absorb rest := rfl

theorem absorb_append (record : FailureRecord) (first second : List FailureEvent) :
    record.absorb (first ++ second) = (record.absorb first).absorb second :=
  List.foldl_append

/-- Failures at one offset are events there. -/
theorem failAll_eq_absorb (record : FailureRecord) (offset : Nat) (labels : List String) :
    record.failAll offset labels = record.absorb (labels.map fun label => { offset, label }) := by
  rw [failAll, absorb, List.foldl_map]

/-! ## The furthest offset -/

@[simp]
theorem furthest_fail (record : FailureRecord) (offset : Nat) (label : String) :
    (record.fail offset label).furthest = max record.furthest offset := by
  rw [fail]
  split_ifs with further same
  · exact (Nat.max_eq_right (Nat.le_of_lt further)).symm
  · rw [same, Nat.max_self]
  · exact (Nat.max_eq_left (Nat.le_of_not_lt further)).symm

theorem le_furthest_absorb (record : FailureRecord) (events : List FailureEvent) :
    record.furthest ≤ (record.absorb events).furthest := by
  induction events generalizing record with
  | nil => exact Nat.le_refl _
  | cons event rest hypothesis =>
      refine Nat.le_trans ?_ (hypothesis (record.fail event.offset event.label))
      rw [furthest_fail]
      exact Nat.le_max_left _ _

/-- No event lies further on than the record. -/
theorem offset_le_furthest_absorb
    (record : FailureRecord)
    {event : FailureEvent}
    (member : event ∈ events) :
    event.offset ≤ (record.absorb events).furthest := by
  induction events generalizing record with
  | nil => cases member
  | cons first rest hypothesis =>
      rw [absorb_cons]
      rcases List.mem_cons.1 member with rfl | member
      · refine Nat.le_trans ?_ (le_furthest_absorb (record.fail event.offset event.label) rest)
        rw [furthest_fail]
        exact Nat.le_max_right _ _
      · exact hypothesis (record.fail first.offset first.label) member

/-- The furthest offset is the one before or that of an event. -/
theorem furthest_absorb_eq_or (record : FailureRecord) (events : List FailureEvent) :
    (record.absorb events).furthest = record.furthest ∨
      ∃ event ∈ events, event.offset = (record.absorb events).furthest := by
  induction events generalizing record with
  | nil => exact Or.inl rfl
  | cons event rest hypothesis =>
      rw [absorb_cons]
      rcases hypothesis (record.fail event.offset event.label) with kept | ⟨other, member, there⟩
      · rw [kept, furthest_fail]
        rcases Nat.le_total record.furthest event.offset with further | nearer
        · exact Or.inr ⟨event, List.mem_cons_self, (Nat.max_eq_right further).symm⟩
        · exact Or.inl (Nat.max_eq_left nearer)
      · exact Or.inr ⟨other, List.mem_cons_of_mem event member, there⟩

/-- From a start in front of all events the furthest offset is the greatest one of them. -/
theorem furthest_absorb_startingAt (behind : ∀ event ∈ events, start ≤ event.offset) :
    ((startingAt start).absorb events).furthest = furthestOf start events := by
  have folded : ∀ (record : FailureRecord) (events : List FailureEvent),
      (record.absorb events).furthest =
        (events.map FailureEvent.offset).foldl max record.furthest := by
    intro record events
    induction events generalizing record with
    | nil => rfl
    | cons event rest hypothesis => simp [hypothesis]
  rw [folded, furthestOf]
  cases events with
  | nil => rfl
  | cons event rest =>
      have first : max start event.offset = event.offset :=
        Nat.max_eq_right (behind event List.mem_cons_self)
      simp only [startingAt, List.map_cons, List.foldl_cons, first, List.max?_cons',
        Option.getD_some]

/-! ## What is expected there -/

/-- Expected are the labels at the furthest offset, those of the record included. -/
theorem mem_expected_absorb (record : FailureRecord) (events : List FailureEvent) (label : String) :
    label ∈ (record.absorb events).expected ↔
      (label ∈ record.expected ∧ (record.absorb events).furthest = record.furthest) ∨
        label ∈ labelsAt (record.absorb events).furthest events := by
  induction events generalizing record with
  | nil => simp [labelsAt]
  | cons event rest hypothesis =>
      have further := le_furthest_absorb (record.fail event.offset event.label) rest
      rw [absorb_cons, hypothesis]
      generalize ((record.fail event.offset event.label).absorb rest).furthest = furthest
        at further ⊢
      rw [furthest_fail] at further
      rcases Nat.lt_trichotomy record.furthest event.offset with beyond | level | before
      · have dropped : furthest ≠ record.furthest := by omega
        simp only [fail, if_pos beyond, labelsAt]
        by_cases there : event.offset = furthest
        · simp [there, dropped]
        · simp [there, Ne.symm there, dropped]
      · simp only [fail, level, Nat.lt_irrefl, if_false, if_true, labelsAt]
        by_cases there : event.offset = furthest
        · simpa [there, or_assoc] using or_left_comm
        · simp [there, Ne.symm there]
      · have nearer : ¬ record.furthest < event.offset := by omega
        have elsewhere : event.offset ≠ record.furthest := by omega
        have passed : event.offset ≠ furthest := by omega
        simp [fail, nearer, elsewhere, labelsAt, passed]

/-- Records that agree on the furthest offset and on what is expected there are equal. -/
theorem ext_of_mem
    {first second : FailureRecord}
    (furthest : first.furthest = second.furthest)
    (members : ∀ label, label ∈ first.expected ↔ label ∈ second.expected) :
    first = second := by
  have expected := Expectations.ext_of_mem members
  cases first
  cases second
  cases furthest
  cases expected
  rfl

/-- A record that starts without labels expects those of the greatest offset. -/
theorem mem_expected_absorb_startingAt
    (behind : ∀ event ∈ events, start ≤ event.offset)
    (label : String) :
    label ∈ ((startingAt start).absorb events).expected ↔
      label ∈ labelsAt (furthestOf start events) events := by
  rw [mem_expected_absorb, furthest_absorb_startingAt behind]
  simp [startingAt]

/-- Events that lie in front of others may be left out. -/
theorem absorb_eq_of_tops
    {first second : List FailureEvent}
    (within : ∀ event ∈ first, event ∈ second)
    (tops : ∀ event ∈ second,
      event ∈ first ∨ ∃ higher ∈ first, event.offset < higher.offset)
    (record : FailureRecord) :
    record.absorb first = record.absorb second := by
  have furthest : (record.absorb first).furthest = (record.absorb second).furthest := by
    apply Nat.le_antisymm
    · rcases furthest_absorb_eq_or record first with kept | ⟨event, member, there⟩
      · exact kept ▸ le_furthest_absorb record second
      · exact there ▸ offset_le_furthest_absorb record (within event member)
    · rcases furthest_absorb_eq_or record second with kept | ⟨event, member, there⟩
      · exact kept ▸ le_furthest_absorb record first
      · rw [← there]
        rcases tops event member with listed | ⟨higher, listed, further⟩
        · exact offset_le_furthest_absorb record listed
        · exact Nat.le_trans (Nat.le_of_lt further) (offset_le_furthest_absorb record listed)
  have listed : ∀ label, label ∈ labelsAt (record.absorb second).furthest first ↔
      label ∈ labelsAt (record.absorb second).furthest second := by
    intro label
    simp only [mem_labelsAt]
    constructor
    · rintro ⟨event, member, there, named⟩
      exact ⟨event, within event member, there, named⟩
    · rintro ⟨event, member, there, named⟩
      rcases tops event member with listed | ⟨higher, listed, further⟩
      · exact ⟨event, listed, there, named⟩
      · have bounded := offset_le_furthest_absorb record (within higher listed)
        omega
  apply ext_of_mem furthest
  intro label
  rw [mem_expected_absorb, mem_expected_absorb, furthest, listed]

/-- What a record of its own has taken in is all that another record needs of some events. -/
theorem failAll_absorb
    (behind : ∀ event ∈ events, start ≤ event.offset)
    (record : FailureRecord) :
    record.failAll ((startingAt start).absorb events).furthest
        ((startingAt start).absorb events).expected.labels =
      record.absorb events := by
  have members : ∀ label, label ∈ ((startingAt start).absorb events).expected.labels ↔
      label ∈ labelsAt ((startingAt start).absorb events).furthest events := by
    intro label
    rw [furthest_absorb_startingAt behind]
    exact mem_expected_absorb_startingAt behind label
  have attained := furthest_absorb_eq_or (startingAt start) events
  have bounded : ∀ event ∈ events, event.offset ≤ ((startingAt start).absorb events).furthest :=
    fun _ member => offset_le_furthest_absorb _ member
  rw [failAll_eq_absorb]
  generalize ((startingAt start).absorb events).furthest = furthest at members attained bounded ⊢
  refine absorb_eq_of_tops ?_ ?_ record
  · intro event member
    rcases List.mem_map.1 member with ⟨label, expected, rfl⟩
    rcases mem_labelsAt.1 ((members label).1 expected) with ⟨⟨offset, _⟩, listed, rfl, rfl⟩
    exact listed
  · intro event member
    have replayed : ∀ event ∈ events, event.offset = furthest →
        event ∈ ((startingAt start).absorb events).expected.labels.map
          fun label => { offset := furthest, label } := by
      rintro ⟨offset, label⟩ listed rfl
      exact List.mem_map.2 ⟨label, (members label).2 (mem_labelsAt.2 ⟨_, listed, rfl, rfl⟩), rfl⟩
    rcases Nat.eq_or_lt_of_le (bounded event member) with top | lower
    · exact Or.inl (replayed event member top)
    · rcases attained with unmoved | ⟨higher, listed, top⟩
      · have started : furthest = start := unmoved
        have further := behind event member
        omega
      · exact Or.inr ⟨_, replayed higher listed top, top.symm ▸ lower⟩

end FailureRecord

end ParserGraph

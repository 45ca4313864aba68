import Mathlib.Tactic.SplitIfs
import ParserGraph.Proofs.Parser.Slicing

/-!
# Answers between characters

A step of a scan by offsets answers between characters if it gives something or nothing
without a fault, and if all that it leaves behind lies at its start or further on, within
the input and between two of its characters.  Such a step tracks a step on cursors if
both answer alike.  Each way to put steps together keeps this.
-/

namespace ParserGraph

/-- The offset is a start or lies further on, within the input and between two characters. -/
structure Text.Within (input : List Char) (start offset : Nat) : Prop where
  ahead : start ≤ offset
  inside : offset ≤ Text.byteLength input
  boundary : Text.IsBoundary input offset

namespace Text.Within

variable {input : List Char} {start middle offset : Nat}

theorem refl (boundary : Text.IsBoundary input start) : Text.Within input start start :=
  ⟨Nat.le_refl _, boundary.le, boundary⟩

theorem of_le (further : start ≤ middle) (within : Text.Within input middle offset) :
    Text.Within input start offset :=
  { within with ahead := Nat.le_trans further within.ahead }

/-- The place behind characters that stand at a place. -/
theorem behind (front passed rest : List Char) :
    Text.Within (front ++ (passed ++ rest)) (Text.byteLength front)
      (Text.byteLength (front ++ passed)) := by
  have boundary :=
    Text.isBoundary_iff.2 ⟨front ++ passed, rest, List.append_assoc _ _ _, rfl⟩
  exact ⟨by simp, boundary.le, boundary⟩

end Text.Within

namespace Cursor

/-- The place at an offset, of which nothing is left if there is no slice. -/
def ofOffset (input : List Char) (offset : Nat) : Cursor :=
  { offset, rest := (Text.sliceFrom? input offset).getD [] }

theorem ofOffset_append (front back : List Char) :
    ofOffset (front ++ back) (Text.byteLength front) =
      { offset := Text.byteLength front, rest := back } := by
  simp [ofOffset]

theorem ofOffset_behind (front passed rest : List Char) :
    ofOffset (front ++ (passed ++ rest)) (Text.byteLength (front ++ passed)) =
      (ofOffset (front ++ (passed ++ rest)) (Text.byteLength front)).behind passed rest := by
  rw [ofOffset_append, ← List.append_assoc, ofOffset_append, behind, Text.byteLength_append]

/-- Less is left further on. -/
theorem length_rest_lt_iff {input : List Char} {first last : Nat}
    (starts : Text.IsBoundary input first)
    (within : Text.Within input first last) :
    (ofOffset input last).rest.length < (ofOffset input first).rest.length ↔ last ≠ first := by
  constructor
  · rintro shorter rfl
    exact Nat.lt_irrefl _ shorter
  · intro different
    have further := Nat.lt_of_le_of_ne within.ahead (Ne.symm different)
    rcases Text.isBoundary_iff.1 starts with ⟨front, back, whole, rfl⟩
    rcases Text.isBoundary_iff.1 within.boundary with ⟨upper, lower, rfl, rfl⟩
    rcases List.append_eq_append_iff.1 whole with ⟨middle, rfl, rfl⟩ | ⟨beyond, rfl, rfl⟩
    · have nonempty : middle ≠ [] := by
        rintro rfl
        simp at further
      rw [ofOffset_append, ← whole, ofOffset_append]
      simpa using List.length_pos_iff.2 nonempty
    · rw [Text.byteLength_append] at further
      omega

/-- Nothing is left exactly at the end. -/
theorem rest_isEmpty_iff {input : List Char} {offset : Nat}
    (boundary : Text.IsBoundary input offset) :
    (ofOffset input offset).rest.isEmpty = true ↔ offset = Text.byteLength input := by
  rcases Text.isBoundary_iff.1 boundary with ⟨front, back, rfl, rfl⟩
  rw [ofOffset_append, List.isEmpty_iff, Text.byteLength_append]
  constructor
  · rintro rfl
    simp
  · intro ended
    have short := Text.length_le_byteLength back
    exact List.length_eq_zero_iff.1 (show back.length = 0 by omega)

end Cursor

def Stop.reading (input : List Char) (stop : Stop) : Reading :=
  { value := stop.value, cursor := .ofOffset input stop.offset }

def Stops.series (input : List Char) (stops : Stops) : Series :=
  { values := stops.values, cursor := .ofOffset input stops.offset, failed := stops.failed }

namespace FailureRecord

theorem furthest_fail_eq_or (record : FailureRecord) (offset : Nat) (label : String) :
    (record.fail offset label).furthest = record.furthest ∨
      (record.fail offset label).furthest = offset := by
  rw [FailureRecord.fail]
  split_ifs
  · exact Or.inr rfl
  · exact Or.inl rfl
  · exact Or.inl rfl

theorem furthest_failAll_eq_or (record : FailureRecord) (offset : Nat) (labels : List String) :
    (record.failAll offset labels).furthest = record.furthest ∨
      (record.failAll offset labels).furthest = offset := by
  induction labels generalizing record with
  | nil => exact Or.inl rfl
  | cons label rest hypothesis =>
      rcases hypothesis (record.fail offset label) with kept | moved
      · rcases furthest_fail_eq_or record offset label with still | there
        · exact Or.inl (kept.trans still)
        · exact Or.inr (kept.trans there)
      · exact Or.inr moved

end FailureRecord

namespace Slicing

variable [Pattern.Engine]
variable {First Second Result FirstSeen SecondSeen Seen : Type}
variable {search : Search} {input : List Char} {start : Nat}

/--
What a step answers and what it leaves behind lies between characters, from its start on;
with the parsers' own search a scan on cursors answers the same.
-/
structure Answers
    (search : Search)
    (input : List Char)
    (place : Result → Nat)
    (view : Result → Seen)
    (start : Nat)
    (scan : Scan Seen)
    (before : Ledger)
    (result : Option Result)
    (after : Ledger) : Prop where
  offsets :
    ∃ later, after.offsets = before.offsets ++ later ∧
      ∀ offset ∈ later, Text.Within input start offset
  furthest :
    after.record.furthest = before.record.furthest ∨
      Text.Within input start after.record.furthest
  reached : ∀ reached, result = some reached → Text.Within input start (place reached)
  mirrored : search = Pattern.range? → scan before.record = (result.map view, after.record)

/-- From every ledger there is an answer and no fault. -/
def Tracks
    (search : Search)
    (input : List Char)
    (place : Result → Nat)
    (view : Result → Seen)
    (start : Nat)
    (step : Slicing Result)
    (scan : Scan Seen) : Prop :=
  ∀ before, ∃ result after,
    step before = some (result, after) ∧
      Answers search input place view start scan before result after

section Steps

variable {place : Result → Nat} {view : Result → Seen}

/-- An answer goes on from another one that was given in front of it. -/
theorem Answers.followed
    {firstPlace : First → Nat}
    {firstView : First → FirstSeen}
    {scanFirst : Scan FirstSeen}
    {scanSecond scan : Scan Seen}
    {middleStart : Nat}
    {before middle after : Ledger}
    {given : Option First}
    {result : Option Result}
    (first : Answers search input firstPlace firstView start scanFirst before given middle)
    (further : start ≤ middleStart)
    (second : Answers search input place view middleStart scanSecond middle result after)
    (mirrored : search = Pattern.range? →
      scan before.record = scanSecond middle.record) :
    Answers search input place view start scan before result after := by
  constructor
  · rcases first.offsets with ⟨earlier, listed, inside⟩
    rcases second.offsets with ⟨later, listedThen, insideThen⟩
    refine ⟨earlier ++ later, by rw [listedThen, listed, List.append_assoc], ?_⟩
    intro offset member
    rcases List.mem_append.1 member with member | member
    · exact inside offset member
    · exact (insideThen offset member).of_le further
  · rcases second.furthest with kept | moved
    · rw [kept]
      exact first.furthest
    · exact Or.inr (moved.of_le further)
  · intro reached done
    exact (second.reached reached done).of_le further
  · intro own
    rw [mirrored own]
    exact second.mirrored own

theorem tracks_succeed
    {result : Result}
    {seen : Seen}
    (within : Text.Within input start (place result))
    (viewed : view result = seen) :
    Tracks search input place view start (.succeed result) (.succeed seen) := by
  intro before
  refine ⟨some result, before, rfl, ?_⟩
  constructor
  · exact ⟨[], by simp⟩
  · exact Or.inl rfl
  · rintro reached ⟨⟩
    exact within
  · intro own
    rw [← viewed]
    rfl

theorem tracks_giveUp : Tracks search input place view start .giveUp .giveUp := by
  intro before
  refine ⟨none, before, rfl, ?_⟩
  constructor
  · exact ⟨[], by simp⟩
  · exact Or.inl rfl
  · simp
  · intro own
    rfl

theorem tracks_fail
    {offset : Nat}
    (within : Text.Within input start offset)
    (label : String) :
    Tracks search input place view start (.fail offset label) (.fail offset label) := by
  intro before
  refine ⟨none, before.fail offset label, rfl, ?_⟩
  constructor
  · exact ⟨[offset], rfl, by simpa using within⟩
  · rcases before.record.furthest_fail_eq_or offset label with kept | moved
    · exact Or.inl kept
    · exact Or.inr (moved.symm ▸ within)
  · simp
  · intro own
    rfl

end Steps

namespace Tracks

/-- The scan on cursors matters only for the parsers' own search. -/
theorem of_own
    {place : Result → Nat}
    {view : Result → Seen}
    {step : Slicing Result}
    {scan other : Scan Seen}
    (tracks : Tracks search input place view start step scan)
    (same : search = Pattern.range? → other = scan) :
    Tracks search input place view start step other := by
  intro before
  rcases tracks before with ⟨result, after, done, answers⟩
  refine ⟨result, after, done, answers.offsets, answers.furthest, answers.reached, ?_⟩
  intro own
  rw [same own]
  exact answers.mirrored own

theorem andThen
    {firstPlace : First → Nat}
    {firstView : First → FirstSeen}
    {place : Second → Nat}
    {view : Second → SecondSeen}
    {first : Slicing First}
    {scanFirst : Scan FirstSeen}
    {second : First → Slicing Second}
    {scanSecond : FirstSeen → Scan SecondSeen}
    (tracks : Tracks search input firstPlace firstView start first scanFirst)
    (onwards : ∀ result, Text.Within input start (firstPlace result) →
      Tracks search input place view (firstPlace result) (second result)
        (scanSecond (firstView result))) :
    Tracks search input place view start (first.andThen second)
      (scanFirst.andThen scanSecond) := by
  intro before
  rcases tracks before with ⟨result, middle, done, answers⟩
  cases result with
  | none =>
      refine ⟨none, middle, by rw [Slicing.andThen, done]; rfl, ?_⟩
      refine ⟨answers.offsets, answers.furthest, by simp, ?_⟩
      intro own
      rw [Scan.andThen, answers.mirrored own]
      rfl
  | some reached =>
      have within := answers.reached reached rfl
      rcases onwards reached within middle with ⟨result, after, doneThen, answersThen⟩
      refine ⟨result, after, by rw [Slicing.andThen, done]; exact doneThen, ?_⟩
      refine answers.followed within.ahead answersThen ?_
      intro own
      rw [Scan.andThen, answers.mirrored own]
      rfl

theorem orElse
    {place : Result → Nat}
    {view : Result → Seen}
    {first second : Slicing Result}
    {scanFirst scanSecond : Scan Seen}
    (tracks : Tracks search input place view start first scanFirst)
    (other : Tracks search input place view start second scanSecond) :
    Tracks search input place view start (first.orElse second)
      (scanFirst.orElse scanSecond) := by
  intro before
  rcases tracks before with ⟨result, middle, done, answers⟩
  cases result with
  | some reached =>
      refine ⟨some reached, middle, by rw [Slicing.orElse, done]; rfl, ?_⟩
      refine ⟨answers.offsets, answers.furthest, answers.reached, ?_⟩
      intro own
      rw [Scan.orElse, answers.mirrored own]
      rfl
  | none =>
      rcases other middle with ⟨result, after, doneThen, answersThen⟩
      refine ⟨result, after, by rw [Slicing.orElse, done]; exact doneThen, ?_⟩
      refine answers.followed (Nat.le_refl _) answersThen ?_
      intro own
      rw [Scan.orElse, answers.mirrored own]
      rfl

/-- A failed attempt is where it started. -/
theorem attempt
    {place : First → Nat}
    {view : First → FirstSeen}
    {step : Slicing First}
    {scan : Scan FirstSeen}
    (tracks : Tracks search input place view start step scan)
    (boundary : Text.IsBoundary input start) :
    Tracks search input (fun result => (result.map place).getD start) (Option.map view) start
      (.attempt step) (.attempt scan) := by
  intro before
  rcases tracks before with ⟨result, after, done, answers⟩
  refine ⟨some result, after, by rw [Slicing.attempt, done]; rfl, ?_⟩
  refine ⟨answers.offsets, answers.furthest, ?_, ?_⟩
  · rintro reached ⟨⟩
    cases result with
    | none => exact .refl boundary
    | some reached => exact answers.reached reached rfl
  · intro own
    rw [Scan.attempt, answers.mirrored own]
    rfl

/-- The record that a label gives its step starts where the step does. -/
theorem labelled
    {place : Result → Nat}
    {view : Result → Seen}
    {step : Slicing Result}
    {scan : Scan Seen}
    (tracks : Tracks search input place view start step scan)
    (boundary : Text.IsBoundary input start)
    (label : String) :
    Tracks search input place view start (step.labelled start label)
      (scan.labelled start label) := by
  intro before
  rcases tracks { before with record := .startingAt start } with ⟨result, inner, done, answers⟩
  rcases answers.offsets with ⟨later, listed, inside⟩
  have within : Text.Within input start inner.record.furthest := by
    rcases answers.furthest with kept | further
    · exact kept.symm ▸ .refl boundary
    · exact further
  cases result with
  | some reached =>
      refine ⟨some reached, _, by rw [Slicing.labelled, done]; rfl, ?_⟩
      constructor
      · refine ⟨later ++ List.replicate inner.record.expected.labels.length
          inner.record.furthest, ?_, ?_⟩
        · rw [Ledger.offsets_failAll, ← List.append_assoc, ← listed]
        · intro offset member
          rcases List.mem_append.1 member with member | member
          · exact inside offset member
          · exact (List.eq_of_mem_replicate member).symm ▸ within
      · rw [Ledger.record_failAll]
        rcases before.record.furthest_failAll_eq_or inner.record.furthest
          inner.record.expected.labels with kept | moved
        · exact Or.inl kept
        · exact Or.inr (moved.symm ▸ within)
      · exact answers.reached
      · intro own
        rw [Scan.labelled, answers.mirrored own, Ledger.record_failAll]
        rfl
  | none =>
      refine ⟨none, _, by rw [Slicing.labelled, done]; rfl, ?_⟩
      constructor
      · refine ⟨later ++ [inner.record.furthest], ?_, ?_⟩
        · rw [Ledger.fail, ← List.append_assoc, ← listed]
        · intro offset member
          rcases List.mem_append.1 member with member | member
          · exact inside offset member
          · exact (List.mem_singleton.1 member).symm ▸ within
      · rcases before.record.furthest_fail_eq_or inner.record.furthest label with kept | moved
        · exact Or.inl kept
        · exact Or.inr (moved.symm ▸ within)
      · simp
      · intro own
        rw [Scan.labelled, answers.mirrored own]
        rfl

end Tracks

end Slicing

end ParserGraph

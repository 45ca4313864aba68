import Mathlib.Data.List.Forall2
import ParserGraph.Proofs.Parser.FurthestFailure

/-!
# Agreement

Two traces agree if both give related results or both give none, and if their failures
compare.  Values are related by a relation that arrays keep, and failures by one that
further failures keep and that tells how far they reach.  Each way in which traces are
put together keeps agreement.
-/

namespace ParserGraph

/-! ## Values and failures -/

/-- A relation on values that arrays keep. -/
structure Value.Congruence (values : Value → Value → Prop) : Prop where
  refl : ∀ value, values value value
  array : ∀ {firsts seconds : List Value}, List.Forall₂ values firsts seconds →
    values (.array firsts) (.array seconds)

theorem Value.congruence_eq : Value.Congruence (· = ·) where
  refl _ := rfl
  array listed := congrArg Value.array (List.forall₂_eq_eq_eq ▸ listed)

theorem Value.congruence_true : Value.Congruence fun _ _ => True where
  refl _ := trivial
  array _ := trivial

/-- A relation on failures that further failures keep and that tells the furthest offset. -/
structure FailureEvent.Comparison (failures : List FailureEvent → List FailureEvent → Prop) :
    Prop where
  refl : ∀ events, failures events events
  append : ∀ {firsts seconds laters others}, failures firsts seconds → failures laters others →
    failures (firsts ++ laters) (seconds ++ others)
  furthestOf_eq : ∀ {firsts seconds}, failures firsts seconds →
    ∀ start, furthestOf start firsts = furthestOf start seconds

theorem FailureEvent.comparison_eq : FailureEvent.Comparison (· = ·) where
  refl _ := rfl
  append := by
    rintro _ _ _ _ rfl rfl
    rfl
  furthestOf_eq := by
    rintro _ _ rfl _
    rfl

/-- Something failed at an offset or further on. -/
def FailsFrom (events : List FailureEvent) (offset : Nat) : Prop :=
  ∃ event ∈ events, offset ≤ event.offset

/-- Something failed up to the furthest offset, and nothing beyond it. -/
theorem failsFrom_iff_le_furthestOf
    {events : List FailureEvent}
    (failed : events ≠ [])
    (start offset : Nat) :
    FailsFrom events offset ↔ offset ≤ furthestOf start events := by
  have nonempty : events.map FailureEvent.offset ≠ [] := by simpa using failed
  cases greatest : (events.map FailureEvent.offset).max? with
  | none => exact absurd (List.max?_eq_none_iff.1 greatest) nonempty
  | some furthest =>
      rcases List.max?_eq_some_iff.1 greatest with ⟨attained, bounded⟩
      rw [furthestOf, greatest, Option.getD_some]
      constructor
      · rintro ⟨event, member, reached⟩
        exact Nat.le_trans reached (bounded _ (List.mem_map_of_mem member))
      · intro reached
        rcases List.mem_map.1 attained with ⟨event, member, rfl⟩
        exact ⟨event, member, reached⟩

/-- The furthest offset is that of a failure. -/
theorem exists_offset_eq_furthestOf
    {events : List FailureEvent}
    (failed : events ≠ [])
    (start : Nat) :
    ∃ event ∈ events, event.offset = furthestOf start events := by
  have reached := fun offset => failsFrom_iff_le_furthestOf failed start offset
  rcases (reached _).2 (Nat.le_refl _) with ⟨event, member, further⟩
  have bounded := (reached event.offset).1 ⟨event, member, Nat.le_refl _⟩
  exact ⟨event, member, Nat.le_antisymm bounded further⟩

/-- Failures with the same furthest offset; what was expected may differ. -/
def EquallyFar (firsts seconds : List FailureEvent) : Prop :=
  ∀ offset, FailsFrom firsts offset ↔ FailsFrom seconds offset

theorem EquallyFar.ne_nil
    {firsts seconds : List FailureEvent}
    (level : EquallyFar firsts seconds)
    (failed : firsts ≠ []) :
    seconds ≠ [] := by
  rcases List.exists_mem_of_ne_nil firsts failed with ⟨event, member⟩
  rcases (level 0).1 ⟨event, member, Nat.zero_le _⟩ with ⟨other, listed, _⟩
  exact List.ne_nil_of_mem listed

theorem FailureEvent.comparison_equallyFar : FailureEvent.Comparison EquallyFar where
  refl _ _ := Iff.rfl
  append := by
    intro firsts seconds laters others level further offset
    have level := level offset
    have further := further offset
    simp only [FailsFrom, List.mem_append, or_and_right, exists_or] at level further ⊢
    rw [level, further]
  furthestOf_eq := by
    intro firsts seconds level start
    by_cases failed : firsts = []
    · subst failed
      have none : seconds = [] := by
        by_contra others
        exact EquallyFar.ne_nil (fun offset => (level offset).symm) others rfl
      rw [none]
    · have others := level.ne_nil failed
      have reached := fun offset => failsFrom_iff_le_furthestOf failed start offset
      have otherReached := fun offset => failsFrom_iff_le_furthestOf others start offset
      apply Nat.le_antisymm
      · exact (otherReached _).1 ((level _).1 ((reached _).2 (Nat.le_refl _)))
      · exact (reached _).1 ((level _).2 ((otherReached _).2 (Nat.le_refl _)))

/-! ## Traces -/

/-- Both traces give related results or none, and their failures compare. -/
structure Trace.Agrees {First Second : Type}
    (results : First → Second → Prop)
    (failures : List FailureEvent → List FailureEvent → Prop)
    (first : Trace First)
    (second : Trace Second) : Prop where
  result : Option.Rel results first.result second.result
  events : failures first.events second.events

/-- Related values at the same place. -/
structure Reading.Agrees (values : Value → Value → Prop) (first second : Reading) : Prop where
  value : values first.value second.value
  cursor : first.cursor = second.cursor

/-- As many values, related one by one, up to the same place. -/
structure Series.Agrees (values : Value → Value → Prop) (first second : Series) : Prop where
  values : List.Forall₂ values first.values second.values
  cursor : first.cursor = second.cursor
  failed : first.failed = second.failed

section Agreement

variable {values : Value → Value → Prop} {failures : List FailureEvent → List FailureEvent → Prop}
variable (congruence : Value.Congruence values) (comparison : FailureEvent.Comparison failures)

theorem Series.Agrees.precededBy
    {value other : Value}
    {series others : Series}
    (agrees : series.Agrees values others)
    (related : values value other) :
    (series.precededBy value).Agrees values (others.precededBy other) where
  values := .cons related agrees.values
  cursor := agrees.cursor
  failed := agrees.failed

namespace Trace

variable {First Result FirstOther Other : Type}
variable {results : Result → Other → Prop}

include comparison

theorem agrees_succeed
    {result : Result}
    {other : Other}
    (related : results result other) :
    (succeed result).Agrees results failures (succeed other) :=
  ⟨.some related, comparison.refl _⟩

theorem agrees_fail
    (offset : Nat)
    (label : String) :
    (fail offset label).Agrees results failures (fail offset label) :=
  ⟨.none, comparison.refl _⟩

theorem agrees_giveUp :
    giveUp.Agrees results failures giveUp :=
  ⟨.none, comparison.refl _⟩

include congruence in
theorem agrees_atLeast
    {series others : Series}
    (agrees : series.Agrees values others)
    (min : Nat)
    (noun : String) :
    (atLeast series min noun).Agrees (Reading.Agrees values) failures
      (atLeast others min noun) := by
  rw [atLeast, atLeast, agrees.values.length_eq, agrees.failed, agrees.cursor]
  split_ifs
  · exact agrees_succeed comparison ⟨congruence.array agrees.values, rfl⟩
  · exact agrees_giveUp comparison
  · exact agrees_fail comparison _ _

namespace Agrees

theorem andThen
    {firstResults : First → FirstOther → Prop}
    {first : Trace First}
    {other : Trace FirstOther}
    {second : First → Trace Result}
    {next : FirstOther → Trace Other}
    (start : first.Agrees firstResults failures other)
    (onwards : ∀ given found, firstResults given found →
      (second given).Agrees results failures (next found)) :
    (first.andThen second).Agrees results failures (other.andThen next) := by
  rcases first with ⟨given, events⟩
  rcases other with ⟨found, others⟩
  rcases start with ⟨related, compared⟩
  cases related with
  | none => exact ⟨.none, compared⟩
  | some related =>
      have further := onwards _ _ related
      exact ⟨further.result, comparison.append compared further.events⟩

theorem orElse
    {first second : Trace Result}
    {other next : Trace Other}
    (start : first.Agrees results failures other)
    (further : second.Agrees results failures next) :
    (first.orElse second).Agrees results failures (other.orElse next) := by
  rcases first with ⟨given, events⟩
  rcases other with ⟨found, others⟩
  rcases start with ⟨related, compared⟩
  cases related with
  | none => exact ⟨further.result, comparison.append compared further.events⟩
  | some related => exact ⟨.some related, compared⟩

omit comparison in
theorem attempt
    {step : Trace Result}
    {other : Trace Other}
    (agrees : step.Agrees results failures other) :
    step.attempt.Agrees (Option.Rel results) failures other.attempt :=
  ⟨.some agrees.result, agrees.events⟩

theorem labelled
    {step : Trace Result}
    {other : Trace Other}
    (agrees : step.Agrees results failures other)
    (start : Nat)
    (label : String) :
    (step.labelled start label).Agrees results failures (other.labelled start label) := by
  have level := comparison.furthestOf_eq agrees.events start
  rcases step with ⟨given, events⟩
  rcases other with ⟨found, others⟩
  rcases agrees with ⟨related, compared⟩
  cases related with
  | none =>
      simp only [Trace.labelled, level]
      exact agrees_fail comparison _ _
  | some related => exact ⟨.some related, compared⟩

section Steps

variable {step other : Cursor → Trace Reading}

theorem optional
    (agrees : ∀ cursor, (step cursor).Agrees (Reading.Agrees values) failures (other cursor))
    (cursor : Cursor) :
    (Trace.optional step cursor).Agrees (· = ·) failures (Trace.optional other cursor) := by
  refine (agrees cursor).attempt.andThen comparison fun given found related => ?_
  apply agrees_succeed comparison
  cases related with
  | none => rfl
  | some related => exact related.cursor

theorem separated
    {item otherItem separator otherSeparator : Cursor → Trace Reading}
    (items : ∀ cursor, (item cursor).Agrees (Reading.Agrees values) failures (otherItem cursor))
    (separators : ∀ cursor,
      (separator cursor).Agrees (Reading.Agrees values) failures (otherSeparator cursor))
    (cursor : Cursor) :
    (Trace.separated item separator cursor).Agrees (Reading.Agrees values) failures
      (Trace.separated otherItem otherSeparator cursor) := by
  refine (separators cursor).andThen comparison fun given found related => ?_
  rw [related.cursor]
  exact items found.cursor

/-- Repetitions stop together, as their steps reach the same places. -/
theorem again
    (agrees : ∀ cursor, (step cursor).Agrees (Reading.Agrees values) failures (other cursor))
    (limit : Option Nat)
    (cursor : Cursor) :
    (Trace.again step limit cursor).Agrees (Series.Agrees values) failures
      (Trace.again other limit cursor) := by
  induction left : cursor.rest.length using Nat.strongRecOn generalizing limit cursor with
  | ind length hypothesis =>
      rw [Trace.again, Trace.again]
      split_ifs with none_more
      · exact agrees_succeed comparison ⟨.nil, rfl, rfl⟩
      · refine (agrees cursor).attempt.andThen comparison fun given found related => ?_
        cases related with
        | none => exact agrees_succeed comparison ⟨.nil, rfl, rfl⟩
        | @some reading reached related =>
            simp only [related.cursor]
            split_ifs with shorter
            · have further := hypothesis _ (left ▸ shorter) (limit.map (· - 1)) reached.cursor rfl
              refine further.andThen comparison fun series others agreeing => ?_
              exact agrees_succeed comparison (agreeing.precededBy related.value)
            · exact agrees_succeed comparison ⟨.cons related.value .nil, rfl, rfl⟩

end Steps

end Agrees

end Trace

end Agreement

end ParserGraph

import ParserGraph.Proofs.Parser.Events

/-!
# Traces

A trace is what a step of a scan gives, together with the failures on its way, and
knows of no record.  For each way in which scans are put together there is one for
traces.  A scan follows a trace if, whatever its record is, it gives the same result
and takes in the events of the trace.
-/

namespace ParserGraph

/-- What a step gives, if anything, and the failures on its way, in order. -/
structure Trace (Result : Type) where
  result : Option Result
  events : List FailureEvent := []

namespace Trace

variable {First Second Result : Type}

/-- Succeeds without reading. -/
def succeed (result : Result) : Trace Result :=
  { result := some result }

/-- Fails, as a label was expected at an offset. -/
def fail (offset : Nat) (label : String) : Trace Result :=
  { result := none, events := [{ offset, label }] }

/-- Fails without an expectation. -/
def giveUp : Trace Result :=
  { result := none }

/-- One step and then another that goes on from its result. -/
def andThen (first : Trace First) (second : First → Trace Second) : Trace Second :=
  match first.result with
  | some result =>
      { result := (second result).result
        events := first.events ++ (second result).events }
  | none => { result := none, events := first.events }

/-- One step, or another if it fails. -/
def orElse (first second : Trace Result) : Trace Result :=
  match first.result with
  | some _ => first
  | none => { result := second.result, events := first.events ++ second.events }

/-- A step whose failure is a result, too. -/
def attempt (step : Trace First) : Trace (Option First) :=
  { result := some step.result, events := step.events }

/-- A step that, if it fails, expects only a label, at the furthest of its events or its start. -/
def labelled (start : Nat) (label : String) (step : Trace Result) : Trace Result :=
  match step.result with
  | some _ => step
  | none => .fail (furthestOf start step.events) label

/-- A step again and again, up to a number of times, until it fails or reads nothing. -/
def again
    (step : Cursor → Trace Reading)
    (limit : Option Nat)
    (cursor : Cursor) :
    Trace Series :=
  if limit = some 0 then
    .succeed { values := [], cursor, failed := false }
  else
    (step cursor).attempt.andThen fun result =>
      match result with
      | none => .succeed { values := [], cursor, failed := true }
      | some reading =>
          if _shorter : reading.cursor.rest.length < cursor.rest.length then
            (again step (limit.map (· - 1)) reading.cursor).andThen fun series =>
              .succeed (series.precededBy reading.value)
          else
            .succeed { values := [reading.value], cursor := reading.cursor, failed := false }
termination_by cursor.rest.length

/-- The array of a series' values, if there are enough; otherwise more were expected. -/
def atLeast (series : Series) (min : Nat) (noun : String) : Trace Reading :=
  if min ≤ series.values.length then
    .succeed { value := .array series.values, cursor := series.cursor }
  else if series.failed then
    .giveUp
  else
    .fail series.cursor.offset s!"at least {min} {noun}"

/-- Something that is read if it is there; the place behind it. -/
def optional (step : Cursor → Trace Reading) (cursor : Cursor) : Trace Cursor :=
  (step cursor).attempt.andThen fun result =>
    .succeed ((result.map Reading.cursor).getD cursor)

/-- A separator and an item behind it; the value is the item's. -/
def separated (item separator : Cursor → Trace Reading) (cursor : Cursor) : Trace Reading :=
  (separator cursor).andThen fun reading => item reading.cursor

theorem result_andThen (first : Trace First) (second : First → Trace Second) :
    (first.andThen second).result = first.result.bind fun result => (second result).result := by
  rw [andThen]
  cases first.result <;> rfl

theorem result_orElse (first second : Trace Result) :
    (first.orElse second).result = first.result.or second.result := by
  rw [orElse]
  cases given : first.result with
  | none => rfl
  | some result => exact given

theorem result_labelled (step : Trace Result) (start : Nat) (name : String) :
    (step.labelled start name).result = step.result := by
  rw [labelled]
  cases given : step.result with
  | none => rfl
  | some result => exact given

end Trace

/-! ## Traces that go onward -/

/-- No event and no result of a trace lies in front of an offset. -/
structure Trace.Onward {Result : Type} (place : Result → Nat) (start : Nat) (trace : Trace Result) :
    Prop where
  events : ∀ event ∈ trace.events, start ≤ event.offset
  result : ∀ result, trace.result = some result → start ≤ place result

/-- The offset that was reached. -/
def Reading.stop (reading : Reading) : Nat :=
  reading.cursor.offset

/-- The offset that was reached. -/
def Series.stop (series : Series) : Nat :=
  series.cursor.offset

namespace Trace

variable {First Second Result : Type} {start : Nat}

theorem onward_succeed
    {place : Result → Nat}
    {result : Result}
    (behind : start ≤ place result) :
    (succeed result).Onward place start where
  events := by simp [succeed]
  result := by
    rintro other ⟨⟩
    exact behind

theorem onward_fail
    {place : Result → Nat}
    {offset : Nat}
    (behind : start ≤ offset)
    (label : String) :
    (fail offset label).Onward place start where
  events := by simpa [fail] using behind
  result := by simp [fail]

theorem onward_giveUp {place : Result → Nat} : giveUp.Onward place start where
  events := by simp [giveUp]
  result := by simp [giveUp]

namespace Onward

/-- Each step may go on from the place that the one before it has reached. -/
theorem andThen
    {firstPlace : First → Nat}
    {place : Second → Nat}
    {first : Trace First}
    {second : First → Trace Second}
    (ahead : first.Onward firstPlace start)
    (onwards : ∀ result, first.result = some result →
      (second result).Onward place (firstPlace result)) :
    (first.andThen second).Onward place start := by
  rw [Trace.andThen]
  cases found : first.result with
  | none => exact ⟨ahead.events, by simp⟩
  | some result =>
      have reached := ahead.result result found
      have later := onwards result found
      constructor
      · intro event member
        rcases List.mem_append.1 member with member | member
        · exact ahead.events event member
        · exact Nat.le_trans reached (later.events event member)
      · intro other given
        exact Nat.le_trans reached (later.result other given)

theorem orElse
    {place : Result → Nat}
    {first second : Trace Result}
    (ahead : first.Onward place start)
    (other : second.Onward place start) :
    (first.orElse second).Onward place start := by
  rw [Trace.orElse]
  cases first.result with
  | some result => exact ahead
  | none =>
      refine ⟨?_, other.result⟩
      intro event member
      rcases List.mem_append.1 member with member | member
      · exact ahead.events event member
      · exact other.events event member

/-- A failed attempt is where it started. -/
theorem attempt
    {place : First → Nat}
    {step : Trace First}
    (ahead : step.Onward place start) :
    step.attempt.Onward (fun result => (result.map place).getD start) start where
  events := ahead.events
  result := by
    rintro result ⟨⟩
    cases found : step.result with
    | none => exact Nat.le_refl _
    | some first => exact ahead.result first found

theorem labelled
    {place : Result → Nat}
    {step : Trace Result}
    (ahead : step.Onward place start)
    (label : String) :
    (step.labelled start label).Onward place start := by
  rw [Trace.labelled]
  split
  · exact ahead
  · refine onward_fail ?_ label
    rw [← FailureRecord.furthest_absorb_startingAt ahead.events]
    exact FailureRecord.le_furthest_absorb (.startingAt start) step.events

/-- What is made of the values of two steps is read where the second one stops. -/
theorem both
    {first second : Cursor → Trace Reading}
    (firsts : ∀ cursor, (first cursor).Onward Reading.stop cursor.offset)
    (seconds : ∀ cursor, (second cursor).Onward Reading.stop cursor.offset)
    (make : Value → Value → Value)
    (cursor : Cursor) :
    ((first cursor).andThen fun left => (second left.cursor).andThen fun right =>
      .succeed { value := make left.value right.value, cursor := right.cursor }).Onward
        Reading.stop cursor.offset := by
  refine (firsts cursor).andThen fun left _ => ?_
  refine (seconds left.cursor).andThen fun right _ => ?_
  exact onward_succeed (Nat.le_refl _)

theorem optional
    {step : Cursor → Trace Reading}
    (ahead : ∀ cursor, (step cursor).Onward Reading.stop cursor.offset)
    (cursor : Cursor) :
    (Trace.optional step cursor).Onward Cursor.offset cursor.offset := by
  apply (ahead cursor).attempt.andThen
  intro result _
  apply onward_succeed
  cases result <;> exact Nat.le_refl _

theorem separated
    {item separator : Cursor → Trace Reading}
    (items : ∀ cursor, (item cursor).Onward Reading.stop cursor.offset)
    (separators : ∀ cursor, (separator cursor).Onward Reading.stop cursor.offset)
    (cursor : Cursor) :
    (Trace.separated item separator cursor).Onward Reading.stop cursor.offset :=
  (separators cursor).andThen fun reading _ => items reading.cursor

theorem again
    {step : Cursor → Trace Reading}
    (ahead : ∀ cursor, (step cursor).Onward Reading.stop cursor.offset)
    (limit : Option Nat)
    (cursor : Cursor) :
    (Trace.again step limit cursor).Onward Series.stop cursor.offset := by
  induction left : cursor.rest.length using Nat.strongRecOn generalizing limit cursor with
  | ind length hypothesis =>
      rw [Trace.again]
      split_ifs with none_more
      · exact onward_succeed (Nat.le_refl _)
      · apply (ahead cursor).attempt.andThen
        intro result _
        cases result with
        | none => exact onward_succeed (Nat.le_refl _)
        | some reading =>
            simp only
            split_ifs with shorter
            · apply (hypothesis _ (left ▸ shorter) _ reading.cursor rfl).andThen
              intro series _
              exact onward_succeed (Nat.le_refl _)
            · exact onward_succeed (Nat.le_refl _)

end Onward

theorem onward_atLeast (series : Series) (min : Nat) (noun : String) :
    (atLeast series min noun).Onward Reading.stop series.cursor.offset := by
  rw [atLeast]
  split_ifs with enough failed
  · exact onward_succeed (Nat.le_refl _)
  · exact onward_giveUp
  · exact onward_fail (Nat.le_refl _) _

end Trace

/-! ## Scans that follow traces -/

/-- Whatever the record is, the scan gives the result of the trace and takes in its events. -/
def Scan.Follows {Result : Type} (scan : Scan Result) (trace : Trace Result) : Prop :=
  ∀ record : FailureRecord, scan record = (trace.result, record.absorb trace.events)

namespace Scan

variable {First Second Result : Type}

theorem follows_succeed (result : Result) : (Scan.succeed result).Follows (.succeed result) := by
  intro record
  rfl

theorem follows_fail (offset : Nat) (label : String) :
    (Scan.fail offset label : Scan Result).Follows (.fail offset label) := by
  intro record
  rfl

theorem follows_giveUp : (Scan.giveUp : Scan Result).Follows .giveUp := by
  intro record
  rfl

namespace Follows

theorem andThen
    {first : Scan First}
    {firstTrace : Trace First}
    {second : First → Scan Second}
    {secondTrace : First → Trace Second}
    (start : first.Follows firstTrace)
    (onwards : ∀ result, (second result).Follows (secondTrace result)) :
    (first.andThen second).Follows (firstTrace.andThen secondTrace) := by
  intro record
  rw [Scan.andThen, Trace.andThen, start]
  cases firstTrace.result with
  | none => rfl
  | some result => simp [onwards result _, FailureRecord.absorb_append]

theorem orElse
    {first second : Scan Result}
    {firstTrace secondTrace : Trace Result}
    (start : first.Follows firstTrace)
    (other : second.Follows secondTrace) :
    (first.orElse second).Follows (firstTrace.orElse secondTrace) := by
  intro record
  rw [Scan.orElse, Trace.orElse, start]
  cases result : firstTrace.result with
  | none => simp [other _, FailureRecord.absorb_append]
  | some result => simp [*]

theorem attempt {step : Scan First} {trace : Trace First} (follows : step.Follows trace) :
    (Scan.attempt step).Follows trace.attempt := by
  intro record
  rw [Scan.attempt, follows]
  rfl

/-- The record of its own that a label gives a step starts in front of all events of the step. -/
theorem labelled
    {step : Scan Result}
    {trace : Trace Result}
    {start : Nat}
    (follows : step.Follows trace)
    (behind : ∀ event ∈ trace.events, start ≤ event.offset)
    (label : String) :
    (step.labelled start label).Follows (trace.labelled start label) := by
  intro record
  rw [Scan.labelled, Trace.labelled, follows]
  cases found : trace.result with
  | none =>
      simp only
      rw [FailureRecord.furthest_absorb_startingAt behind]
      rfl
  | some result =>
      simp only
      rw [FailureRecord.failAll_absorb behind, found]

/-- What is made of the values of two steps is made of those of their traces. -/
theorem both
    {first second : Cursor → Scan Reading}
    {firstTrace secondTrace : Cursor → Trace Reading}
    (firsts : ∀ cursor, (first cursor).Follows (firstTrace cursor))
    (seconds : ∀ cursor, (second cursor).Follows (secondTrace cursor))
    (make : Value → Value → Value)
    (cursor : Cursor) :
    ((first cursor).andThen fun left => (second left.cursor).andThen fun right =>
      .succeed { value := make left.value right.value, cursor := right.cursor } :
        Scan Reading).Follows
      ((firstTrace cursor).andThen fun left => (secondTrace left.cursor).andThen fun right =>
        .succeed { value := make left.value right.value, cursor := right.cursor }) := by
  refine (firsts cursor).andThen fun left => ?_
  refine (seconds left.cursor).andThen fun right => ?_
  exact follows_succeed _

theorem optional
    {step : Cursor → Scan Reading}
    {trace : Cursor → Trace Reading}
    (follows : ∀ cursor, (step cursor).Follows (trace cursor))
    (cursor : Cursor) :
    (Parser.scanOptional step cursor).Follows (Trace.optional trace cursor) :=
  (follows cursor).attempt.andThen fun _ => follows_succeed _

theorem separated
    {item separator : Cursor → Scan Reading}
    {itemTrace separatorTrace : Cursor → Trace Reading}
    (items : ∀ cursor, (item cursor).Follows (itemTrace cursor))
    (separators : ∀ cursor, (separator cursor).Follows (separatorTrace cursor))
    (cursor : Cursor) :
    (Scan.separated item separator cursor).Follows
      (Trace.separated itemTrace separatorTrace cursor) :=
  (separators cursor).andThen fun reading => items reading.cursor

/-- The steps of a repetition are followed one after the other. -/
theorem again
    {step : Cursor → Scan Reading}
    {trace : Cursor → Trace Reading}
    (follows : ∀ cursor, (step cursor).Follows (trace cursor))
    (limit : Option Nat)
    (cursor : Cursor) :
    (Scan.again step limit cursor).Follows (Trace.again trace limit cursor) := by
  induction left : cursor.rest.length using Nat.strongRecOn generalizing limit cursor with
  | ind length hypothesis =>
      rw [Scan.again, Trace.again]
      split_ifs with none_more
      · exact follows_succeed _
      · apply (follows cursor).attempt.andThen
        intro result
        cases result with
        | none => exact follows_succeed _
        | some reading =>
            simp only
            split_ifs with shorter
            · apply (hypothesis _ (left ▸ shorter) _ reading.cursor rfl).andThen
              intro series
              exact follows_succeed _
            · exact follows_succeed _

end Follows

theorem follows_atLeast (series : Series) (min : Nat) (noun : String) :
    (series.atLeast min noun).Follows (Trace.atLeast series min noun) := by
  rw [Series.atLeast, Trace.atLeast]
  split_ifs with enough failed
  · exact follows_succeed _
  · exact follows_giveUp
  · exact follows_fail _ _

end Scan

end ParserGraph

import Mathlib.Tactic.SplitIfs
import ParserGraph.Node.Compile
import ParserGraph.Proofs.Parser.Rounds
import ParserGraph.Proofs.Value.Signs

/-!
# Decorated constants

A constant reads nothing and always gives its value.  Its label says nothing then, its
repetition stops at the first value, and its transform converts what the repetition
gives.  So the outcome of a run tells constants under a decoration apart exactly if their
transform makes of them what is written differently, unless the repetition wants none of
them or more than one.  No transform that is known by name takes a difference away.
-/

namespace ParserGraph

/-- The outcome with its value as the text that it is written as. -/
def Outcome.written : Outcome → Except Failure (String × Nat)
  | .success value stop => .ok (value.compact, stop)
  | .failure reason => .error reason

namespace Bounds

/--
The repetition loses the value of a step that reads nothing: it does not make the step,
or it asks for more than the one time that such a step is made.
-/
def Loses (bounds : Bounds) : Prop :=
  bounds.max = some 0 ∨ 1 < bounds.min

instance (bounds : Bounds) : Decidable bounds.Loses :=
  inferInstanceAs (Decidable (_ ∨ _))

/-- What the repetition makes of a value that is given without reading. -/
def gathered (bounds : Bounds) (value : Value) : Value :=
  if bounds.isConfigured then .array [value] else value

theorem same_gathered_iff {bounds : Bounds} {first second : Value} :
    (bounds.gathered first).same (bounds.gathered second) = true ↔ first.same second = true := by
  unfold gathered
  split_ifs
  · simp [Value.same, Value.sameItems]
  · exact Iff.rfl

theorem gathered_inj {bounds : Bounds} {first second : Value} :
    bounds.gathered first = bounds.gathered second ↔ first = second := by
  unfold gathered
  split_ifs
  · simp
  · exact Iff.rfl

end Bounds

namespace Decoration

/-- What the decoration makes of a value that is given without reading. -/
def converted (decoration : Decoration) (value : Value) : Value :=
  match decoration.transform with
  | some transform => transform.apply (decoration.repetition.gathered value)
  | none => decoration.repetition.gathered value

/-- Runs tell the values apart: neither is lost, and they are converted to different texts. -/
def TellsApart (decoration : Decoration) (first second : Value) : Prop :=
  ¬ decoration.repetition.Loses ∧
    (decoration.converted first).compact ≠ (decoration.converted second).compact

/-- No transform of the decoration is one that is not known by name. -/
def IsBuiltin (decoration : Decoration) : Prop :=
  ∀ transform ∈ decoration.transform, transform.conversion ∈ Conversion.builtins

/-- Of values that are the same, different ones are converted to what is written differently. -/
theorem compact_converted_inj
    {decoration : Decoration}
    (builtin : decoration.IsBuiltin)
    {first second : Value}
    (alike : first.same second = true) :
    (decoration.converted first).compact = (decoration.converted second).compact ↔
      first = second := by
  constructor
  · intro written
    have gathered : (decoration.repetition.gathered first).same
        (decoration.repetition.gathered second) = true := Bounds.same_gathered_iff.2 alike
    unfold converted at written
    cases converts : decoration.transform with
    | none =>
        rw [converts] at written
        rcases Value.eq_or_partAtSign_compact _ _ gathered with equal | parts
        · exact Bounds.gathered_inj.1 equal
        · exact absurd written parts.ne
    | some transform =>
        rw [converts] at written
        rcases Conversion.eq_or_partAtSign_apply (builtin transform converts) gathered
          with equal | parts
        · exact Bounds.gathered_inj.1 equal
        · exact absurd written parts.ne
  · rintro rfl
    rfl

/-- Under a transform that is known by name, values that are the same are told apart unless lost. -/
theorem tellsApart_iff
    {decoration : Decoration}
    (builtin : decoration.IsBuiltin)
    {first second : Value}
    (alike : first.same second = true) :
    decoration.TellsApart first second ↔ first ≠ second ∧ ¬ decoration.repetition.Loses := by
  rw [TellsApart, Ne, compact_converted_inj builtin alike, and_comm]

end Decoration

namespace Parser

variable [Pattern.Engine]

/-- The parser reads nothing and gives a value, wherever it is run. -/
def Gives (parser : Parser) (value : Value) : Prop :=
  ∀ cursor, scan parser cursor = .succeed { value, cursor }

theorem gives_constant (value : Value) : (constant value).Gives value := by
  intro cursor
  rw [scan]

namespace Gives

variable {parser other : Parser} {value otherValue : Value}

/-- Without failures a label has nothing to replace. -/
theorem label (gives : parser.Gives value) (name : String) : (label parser name).Gives value := by
  intro cursor
  rw [scan, gives]
  rfl

theorem map (gives : parser.Gives value) (transform : Transform) :
    (map parser transform).Gives (transform.apply value) := by
  intro cursor
  rw [scan, gives]
  rfl

/-- A step that reads nothing is made once, if it is made. -/
theorem scan_repetition (gives : parser.Gives value) (bounds : Bounds) (cursor : Cursor) :
    scan (.repetition parser bounds) cursor =
      ({ values := if bounds.max = some 0 then [] else [value]
         cursor
         failed := false } : Series).atLeast bounds.min "repetitions" := by
  rw [scan_repetition_eq, Scan.again]
  split_ifs
  · rfl
  · rw [gives]
    funext record
    simp [Scan.andThen, Scan.attempt, Scan.succeed]

theorem repetition (gives : parser.Gives value) {bounds : Bounds} (kept : ¬ bounds.Loses) :
    (Parser.repetition parser bounds).Gives (.array [value]) := by
  intro cursor
  rcases not_or.1 kept with ⟨wanted, enough⟩
  rw [gives.scan_repetition, if_neg wanted]
  exact if_pos (Nat.not_lt.1 enough)

/-- Without the value, the outcome of a repetition does not depend on it. -/
theorem scan_repetition_congr
    (gives : parser.Gives value)
    (otherGives : other.Gives otherValue)
    {bounds : Bounds}
    (loses : bounds.Loses)
    (cursor : Cursor) :
    scan (.repetition parser bounds) cursor = scan (.repetition other bounds) cursor := by
  rw [gives.scan_repetition, otherGives.scan_repetition]
  split_ifs with unwanted
  · rfl
  · have short : ¬ bounds.min ≤ 1 := Nat.not_le.2 (loses.resolve_left unwanted)
    simp only [Series.atLeast, List.length_singleton, if_neg short]

theorem run_eq (gives : parser.Gives value) (input : String) :
    run parser input = .success value 0 := by
  rw [run, outcomeOf, gives]
  rfl

end Gives

/-- A parser with or without a label gives what it gives. -/
theorem gives_labelled (label : Option String) (value : Value) :
    (match label with
      | some name => Parser.label (constant value) name
      | none => constant value).Gives value := by
  cases label with
  | none => exact gives_constant value
  | some name => exact (gives_constant value).label name

theorem gives_apply_constant
    {decoration : Decoration}
    (kept : ¬ decoration.repetition.Loses)
    (value : Value) :
    (decoration.apply (constant value)).Gives (decoration.converted value) := by
  rcases decoration with ⟨label, transform, bounds⟩
  have labelled := gives_labelled label value
  have repeated := labelled.repetition kept
  unfold Decoration.apply Decoration.converted Bounds.gathered
  by_cases configured : bounds.isConfigured = true
  · simp only [if_pos configured]
    cases transform with
    | none => exact repeated
    | some transform => exact repeated.map transform
  · simp only [if_neg configured]
    cases transform with
    | none => exact labelled
    | some transform => exact labelled.map transform

theorem scan_map_congr
    {first second : Parser}
    {cursor : Cursor}
    (alike : scan first cursor = scan second cursor)
    (transform : Transform) :
    scan (.map first transform) cursor = scan (.map second transform) cursor := by
  rw [scan, scan, alike]

/-- A decoration that loses the value of a constant runs alike on all of them. -/
theorem run_apply_constant_congr
    {decoration : Decoration}
    (loses : decoration.repetition.Loses)
    (first second : Value)
    (input : String) :
    run (decoration.apply (constant first)) input =
      run (decoration.apply (constant second)) input := by
  rcases decoration with ⟨label, transform, bounds⟩
  have configured : bounds.isConfigured = true := by
    rcases loses with unwanted | needed
    · simp_all [Bounds.isConfigured]
    · simp only [Bounds.isConfigured, Bool.or_eq_true, bne_iff_ne]
      exact Or.inl (Nat.ne_of_gt (Nat.lt_trans Nat.zero_lt_one needed))
  have repeated := (gives_labelled label first).scan_repetition_congr
    (gives_labelled label second) loses (.start input)
  unfold Decoration.apply
  simp only [if_pos configured]
  cases transform with
  | none => exact congrArg (outcomeOf input) repeated
  | some transform => exact congrArg (outcomeOf input) (scan_map_congr repeated transform)

/-- Runs of constants under a decoration differ exactly if the decoration tells them apart. -/
theorem written_run_apply_constant_iff
    (decoration : Decoration)
    (first second : Value) :
    (∀ input, (run (decoration.apply (constant first)) input).written =
        (run (decoration.apply (constant second)) input).written) ↔
      ¬ decoration.TellsApart first second := by
  constructor
  · rintro written ⟨kept, different⟩
    have empty := written ""
    rw [(gives_apply_constant kept first).run_eq, (gives_apply_constant kept second).run_eq]
      at empty
    exact different (by simpa [Outcome.written] using empty)
  · intro alike input
    by_cases loses : decoration.repetition.Loses
    · rw [run_apply_constant_congr loses first second input]
    · have texts : (decoration.converted first).compact = (decoration.converted second).compact :=
        Decidable.byContradiction fun different => alike ⟨loses, different⟩
      rw [(gives_apply_constant loses first).run_eq, (gives_apply_constant loses second).run_eq]
      simp [Outcome.written, texts]

end Parser

end ParserGraph

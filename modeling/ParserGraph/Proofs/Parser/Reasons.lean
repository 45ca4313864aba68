import ParserGraph.Proofs.Parser.Agreement
import ParserGraph.Proofs.Parser.Boundaries

/-!
# Failures have reasons

A trace is explained if it gives something or if there is a failure on its way.  Only a
choice from nothing fails without one.  A parser in which each choice has something to
choose from therefore explains its failures: a run that does not match expects something,
at an offset between two characters of the input.
-/

namespace ParserGraph

/-! ## Explained traces -/

/-- If nothing is given, something failed on the way. -/
def Trace.Explained {Result : Type} (trace : Trace Result) : Prop :=
  trace.result = none → trace.events ≠ []

namespace Trace

variable {First Second Result : Type}

theorem explained_succeed (result : Result) : (succeed result).Explained := by
  simp [Explained, succeed]

theorem explained_fail (offset : Nat) (label : String) :
    (fail offset label : Trace Result).Explained := by
  simp [Explained, fail]

theorem explained_attempt (step : Trace First) : step.attempt.Explained := by
  simp [Explained, attempt]

/-- A label stands for the failures of a step that fails without any, too. -/
theorem explained_labelled (start : Nat) (label : String) (step : Trace Result) :
    (step.labelled start label).Explained := by
  rw [labelled]
  split
  · rename_i result given
    simp [Explained, given]
  · exact explained_fail _ _

namespace Explained

/-- A step has to explain its own failure only if nothing failed in front of it. -/
theorem andThen
    {first : Trace First}
    {second : First → Trace Second}
    (start : first.Explained)
    (onwards : ∀ result, first.result = some result → first.events = [] →
      (second result).Explained) :
    (first.andThen second).Explained := by
  rw [Trace.andThen]
  cases given : first.result with
  | none => exact fun _ => start given
  | some result =>
      intro failed
      by_cases silent : first.events = []
      · simpa [silent] using onwards result given silent failed
      · simp [silent]

theorem orElse
    {first : Trace Result}
    (start : first.Explained)
    (second : Trace Result) :
    (first.orElse second).Explained := by
  rw [Trace.orElse]
  cases given : first.result with
  | none =>
      intro _
      simp [start given]
  | some result => simp [Explained, given]

theorem both
    {first second : Cursor → Trace Reading}
    (firsts : ∀ cursor, (first cursor).Explained)
    (seconds : ∀ cursor, (second cursor).Explained)
    (make : Reading → Reading → Reading)
    (cursor : Cursor) :
    ((first cursor).andThen fun left => (second left.cursor).andThen fun right =>
      .succeed (make left right)).Explained := by
  refine (firsts cursor).andThen fun left _ _ => ?_
  refine (seconds left.cursor).andThen fun right _ _ => ?_
  exact explained_succeed _

theorem optional (step : Cursor → Trace Reading) (cursor : Cursor) :
    (Trace.optional step cursor).Explained :=
  (explained_attempt _).andThen fun _ _ _ => explained_succeed _

theorem separated
    {item separator : Cursor → Trace Reading}
    (items : ∀ cursor, (item cursor).Explained)
    (separators : ∀ cursor, (separator cursor).Explained)
    (cursor : Cursor) :
    (Trace.separated item separator cursor).Explained :=
  (separators cursor).andThen fun reading _ _ => items reading.cursor

/-- A repetition always gives a series, and it has failures if it ended with a failed step. -/
theorem exists_result_again
    {step : Cursor → Trace Reading}
    (explained : ∀ cursor, (step cursor).Explained)
    (limit : Option Nat)
    (cursor : Cursor) :
    ∃ series, (Trace.again step limit cursor).result = some series ∧
      (series.failed = true → (Trace.again step limit cursor).events ≠ []) := by
  induction left : cursor.rest.length using Nat.strongRecOn generalizing limit cursor with
  | ind length hypothesis =>
      rw [Trace.again]
      split_ifs with none_more
      · exact ⟨_, rfl, by simp⟩
      · cases given : (step cursor).result with
        | none =>
            refine ⟨_, by simp [Trace.andThen, Trace.attempt, given, Trace.succeed]; rfl, ?_⟩
            simp [Trace.andThen, Trace.attempt, given, Trace.succeed, explained cursor given]
        | some reading =>
            simp only [Trace.andThen, Trace.attempt, given]
            split_ifs with shorter
            · rcases hypothesis _ (left ▸ shorter) (limit.map (· - 1)) reading.cursor rfl with
                ⟨series, further, reason⟩
              rw [further]
              refine ⟨series.precededBy reading.value, rfl, fun failed => ?_⟩
              simp [reason failed]
            · exact ⟨_, rfl, by simp⟩

/-- What becomes of a series has to explain only what the repetition has not explained. -/
theorem again_andThen
    {step : Cursor → Trace Reading}
    (explained : ∀ cursor, (step cursor).Explained)
    {limit : Option Nat}
    {cursor : Cursor}
    {second : Series → Trace Result}
    (onwards : ∀ series, series.failed = false → (second series).Explained) :
    ((Trace.again step limit cursor).andThen second).Explained := by
  rcases exists_result_again explained limit cursor with ⟨series, given, reason⟩
  refine andThen (by simp [Explained, given]) fun other found silent => onwards other ?_
  cases given.symm.trans found
  exact Bool.eq_false_iff.2 fun failed => reason failed silent

end Explained

theorem explained_atLeast
    {series : Series}
    (unfailed : series.failed = false)
    (min : Nat)
    (noun : String) :
    (atLeast series min noun).Explained := by
  rw [atLeast]
  split_ifs with enough failed
  · exact explained_succeed _
  · rw [unfailed] at failed
    cases failed
  · exact explained_fail _ _

end Trace

/-! ## Parsers that explain their failures -/

namespace Parser

/-- Each choice inside has something to choose from. -/
def Offers (parser : Parser) : Prop :=
  ∀ parsers, (choice parsers).PartOf parser → parsers ≠ []

theorem Offers.component
    {component parser : Parser}
    (offers : parser.Offers)
    (member : component ∈ parser.components) :
    component.Offers := by
  intro parsers inside
  exact offers parsers (.inside member inside)

/-- A parser that is no choice offers what its components offer. -/
theorem offers_of_components
    {parser : Parser}
    (nonempty : ∀ parsers, parser = choice parsers → parsers ≠ [])
    (inside : ∀ component ∈ parser.components, component.Offers) :
    parser.Offers := by
  intro parsers part
  cases part with
  | whole => exact nonempty parsers rfl
  | inside member within => exact inside _ member parsers within

section Evaluation

variable {idle : Bounds → Cursor → Trace Reading}

theorem explained_evaluateSepBy
    (idleExplained : ∀ bounds cursor, (idle bounds cursor).Explained)
    {item separator : Cursor → Trace Reading}
    (items : ∀ cursor, (item cursor).Explained)
    (separators : ∀ cursor, (separator cursor).Explained)
    (bounds : Bounds)
    (cursor : Cursor) :
    (evaluateSepBy idle item separator bounds cursor).Explained := by
  rw [evaluateSepBy]
  by_cases no_item : bounds.max = some 0
  · rw [if_pos no_item]
    exact idleExplained bounds cursor
  · rw [if_neg no_item]
    refine (Trace.explained_attempt _).andThen fun result given silent => ?_
    cases result with
    | none =>
        have failed : (item cursor).result = none := Option.some.inj given
        exact absurd silent (items cursor failed)
    | some first =>
        have further := Trace.Explained.separated items separators
        refine Trace.Explained.again_andThen further fun series unfailed => ?_
        have still : (series.precededBy first.value).failed = false := unfailed
        exact Trace.explained_atLeast still _ _

variable [Pattern.Engine]

/-- From every place on, the evaluation of the parser explains its failures. -/
def Explains (idle : Bounds → Cursor → Trace Reading) (parser : Parser) : Prop :=
  ∀ cursor, (evaluateWith idle parser cursor).Explained

variable {first second : Parser}

/-- Only the first attempt of two is needed, and of a trimmed parser only its content. -/
theorem explains_combinePair
    (firsts : first.Explains idle)
    (seconds : second.Explains idle)
    (operator : PairOperator) :
    (operator.combine first second).Explains idle := by
  intro cursor
  cases operator with
  | and | skip =>
      exact Trace.Explained.both firsts seconds _ cursor
  | or =>
      exact (firsts cursor).orElse _
  | next =>
      exact (firsts cursor).andThen fun left _ _ => seconds left.cursor
  | trim =>
      refine (Trace.Explained.optional _ cursor).andThen fun start _ _ => ?_
      refine (firsts start).andThen fun reading _ _ => ?_
      refine (Trace.Explained.optional _ reading.cursor).andThen fun stop _ _ => ?_
      exact Trace.explained_succeed _

theorem explains_wrap
    {after : Option Parser}
    (befores : first.Explains idle)
    (contents : second.Explains idle)
    (afters : ∀ closing ∈ after, closing.Explains idle) :
    (wrap first second after).Explains idle := by
  intro cursor
  cases after with
  | none =>
      exact (befores cursor).andThen fun opening _ _ => contents opening.cursor
  | some after =>
      refine (befores cursor).andThen fun opening _ _ => ?_
      exact Trace.Explained.both contents (afters after rfl) _ opening.cursor

theorem explained_evaluateAll
    {parsers : List Parser}
    (all : ∀ parser ∈ parsers, parser.Explains idle)
    (cursor : Cursor) :
    (evaluateAll idle parsers cursor).Explained := by
  induction parsers generalizing cursor with
  | nil =>
      exact Trace.explained_succeed _
  | cons parser rest hypothesis =>
      rcases List.forall_mem_cons.1 all with ⟨heads, rests⟩
      refine (heads cursor).andThen fun reading _ _ => ?_
      refine (hypothesis rests reading.cursor).andThen fun series _ _ => ?_
      exact Trace.explained_succeed _

/-- The first attempt of a choice explains that it fails. -/
theorem explains_choice
    {parser : Parser}
    (heads : parser.Explains idle)
    (rest : List Parser) :
    (choice (parser :: rest)).Explains idle := by
  intro cursor
  exact (heads cursor).orElse _

theorem explains_combineSeries
    {parsers : List Parser}
    (all : ∀ parser ∈ parsers, parser.Explains idle)
    (operator : SeriesOperator)
    (offers : (operator.combine parsers).Offers) :
    (operator.combine parsers).Explains idle := by
  cases operator with
  | all =>
      intro cursor
      refine (explained_evaluateAll all cursor).andThen fun series _ _ => ?_
      exact Trace.explained_succeed _
  | choice =>
      cases parsers with
      | nil => exact absurd rfl (offers [] (.whole _))
      | cons parser rest => exact explains_choice (all parser List.mem_cons_self) rest

/-- A parser in which each choice has something to choose from explains its failures. -/
theorem explained_evaluateWith
    (idleExplained : ∀ bounds cursor, (idle bounds cursor).Explained)
    (parser : Parser)
    (offers : parser.Offers) :
    parser.Explains idle := by
  induction parser using induction_on_operations with
  | text literal =>
      intro cursor
      rw [evaluateWith, evaluateText]
      split_ifs
      · exact Trace.explained_succeed _
      · exact Trace.explained_fail _ _
  | pattern matcher =>
      intro cursor
      rw [evaluateWith, evaluatePattern]
      split
      · exact Trace.explained_succeed _
      · exact Trace.explained_fail _ _
  | constant value =>
      intro cursor
      exact Trace.explained_succeed _
  | pair operator first second firsts seconds =>
      have firstExplains := firsts (offers.component (by simp))
      have secondExplains := seconds (offers.component (by simp))
      exact explains_combinePair firstExplains secondExplains operator
  | sepBy item separator bounds items separators =>
      have itemExplains := items (offers.component (by simp [components]))
      have separatorExplains := separators (offers.component (by simp [components]))
      intro cursor
      exact explained_evaluateSepBy idleExplained itemExplains separatorExplains bounds cursor
  | wrap before content after befores contents afters =>
      have beforeExplains := befores (offers.component (by simp [components]))
      have contentExplains := contents (offers.component (by simp [components]))
      refine explains_wrap beforeExplains contentExplains fun closing closes => ?_
      exact afters closing closes
        (offers.component (by simp [components, Option.mem_def.1 closes]))
  | series operator parsers all =>
      refine explains_combineSeries (fun parser member => ?_) operator offers
      exact all parser member (offers.component (by simpa using member))
  | repetition inner bounds inners =>
      have steps := inners (offers.component (by simp [components]))
      intro cursor
      refine Trace.Explained.again_andThen steps fun series unfailed => ?_
      exact Trace.explained_atLeast unfailed _ _
  | map inner transform inners =>
      have innerExplains := inners (offers.component (by simp [components]))
      intro cursor
      refine (innerExplains cursor).andThen fun reading _ _ => ?_
      exact Trace.explained_succeed _
  | label inner name =>
      intro cursor
      exact Trace.explained_labelled _ _ _

end Evaluation

theorem Offers.explained
    [Pattern.Engine]
    {parser : Parser}
    (offers : parser.Offers)
    (cursor : Cursor) :
    (evaluateLeniently parser cursor).Explained :=
  explained_evaluateWith (fun _ _ => Trace.explained_succeed _) parser offers cursor

end Parser

/-! ## Outcomes -/

/-- Only where nothing is expected, the input as such is what is reported. -/
theorem Expectations.describe_eq_unexpected_iff {expectations : Expectations} :
    expectations.describe = "unexpected input" ↔ ∀ label, label ∉ expectations := by
  rcases expectations with ⟨labels, increasing⟩
  have listed : ∀ label, label ∈ (⟨labels, increasing⟩ : Expectations) ↔ label ∈ labels :=
    fun _ => Iff.rfl
  simp only [listed]
  match labels with
  | [] => simp [describe]
  | [first] =>
      constructor
      · intro described
        have started := congrArg (fun text => text.toList.head?) described
        simp [describe] at started
      · intro nothing
        simpa using nothing first
  | first :: second :: rest =>
      constructor
      · intro described
        have started := congrArg (fun text => text.toList.head?) described
        simp [describe] at started
      · intro nothing
        simpa using nothing first

/-- A failure at a place between characters of the input, where something is expected. -/
structure Failure.Explained (input : String) (failure : Failure) : Prop where
  expects : ∃ label, label ∈ failure.expected
  reported : failure.expected.describe ≠ "unexpected input"
  placed : Text.Within input.toList 0 failure.position.offset
  located : failure.position = .locate input failure.position.offset

namespace Parser

/-- An explained trace expects something at the furthest offset. -/
theorem exists_mem_expected
    {trace : Trace Reading}
    (explained : trace.Explained)
    {input : String}
    {failure : Failure}
    (failed : outcomeOfTrace input trace = .failure failure) :
    ∃ label, label ∈ failure.expected := by
  rw [outcomeOfTrace] at failed
  cases given : trace.result with
  | some reading => simp [given] at failed
  | none =>
      rcases exists_offset_eq_furthestOf (explained given) 0 with ⟨event, member, furthest⟩
      simp only [given, Outcome.failure.injEq] at failed
      subst failed
      exact ⟨event.label, Expectations.mem_ofList.2 (mem_labelsAt.2 ⟨event, member, furthest, rfl⟩)⟩

variable [Pattern.Engine]

/-- If a run fails, something is expected at a place of the input. -/
def ExplainsFailures (parser : Parser) : Prop :=
  ∀ input failure, run parser input = .failure failure ∨ parse parser input = .failure failure →
    failure.Explained input

open Slicing in
/-- A scan that stays between characters fails between characters. -/
theorem within_of_tracks
    {input : String}
    {step : Slicing Stop}
    {scan : Scan Reading}
    (tracks : Tracks Pattern.range? input.toList Stop.offset (Stop.reading input.toList) 0
      step scan)
    {failure : Failure}
    (failed : outcomeOf input scan = .failure failure) :
    Text.Within input.toList 0 failure.position.offset ∧
      failure.position = .locate input failure.position.offset := by
  rcases tracks { record := .startingAt 0 } with ⟨result, after, _, answers⟩
  rw [outcomeOf, answers.mirrored rfl] at failed
  cases result with
  | some stop => cases failed
  | none =>
      have within : Text.Within input.toList 0 after.record.furthest := by
        rcases answers.furthest with kept | moved
        · exact kept.symm ▸ .refl (Text.isBoundary_zero _)
        · exact moved
      have offset : (Position.locate input after.record.furthest).offset =
          after.record.furthest := within.boundary
      cases failed
      rw [offset]
      exact ⟨within, rfl⟩

/-- What a run or a parse of the whole input fails at lies between two characters. -/
theorem placed_of_failed
    {parser : Parser}
    {input : String}
    {failure : Failure}
    (failed : run parser input = .failure failure ∨ parse parser input = .failure failure) :
    Text.Within input.toList 0 failure.position.offset ∧
      failure.position = .locate input failure.position.offset := by
  rcases failed with failed | failed
  · exact within_of_tracks (tracks_scanAt_start Pattern.sound_range? parser input) failed
  · exact within_of_tracks (tracks_scanAt_whole Pattern.sound_range? parser input) failed

/-- If each choice inside has something to choose from, each failure expects something. -/
theorem Offers.explainsFailures {parser : Parser} (offers : parser.Offers) :
    parser.ExplainsFailures := by
  have runs := RunsAs.of_follows (follows_evaluateLeniently parser)
  intro input failure failed
  have expects : ∃ label, label ∈ failure.expected := by
    rcases failed with failed | failed
    · rw [runs.run] at failed
      exact exists_mem_expected (offers.explained _) failed
    · rw [runs.parse] at failed
      refine exists_mem_expected ?_ failed
      refine (offers.explained _).andThen fun reading _ _ => ?_
      rw [evaluateToEnd]
      split_ifs
      · exact Trace.explained_succeed _
      · exact Trace.explained_fail _ _
  have place := placed_of_failed failed
  refine ⟨expects, fun described => ?_, place.1, place.2⟩
  rcases expects with ⟨label, member⟩
  exact Expectations.describe_eq_unexpected_iff.1 described label member

end Parser

end ParserGraph

import ParserGraph.Proofs.Parser.Evaluation

/-!
# The furthest failure

A scan follows the evaluation of its parser: it gives the same result, and whatever
its record holds, it merges into it the failures of the evaluation.  So the record
that a scan starts from changes nothing but what is in front of the failures, and a
run that fails reports the greatest offset of a failure and the labels there.

Lists that may take no item are the exception.  They succeed without one, so a scan
follows the evaluation exactly if no such list should have items.
-/

namespace ParserGraph.Parser

/-! ## Scans and evaluations -/

theorem follows_evaluateText (literal : String) (cursor : Cursor) :
    (scanText literal cursor).Follows (evaluateText literal cursor) := by
  unfold scanText evaluateText
  simp only
  split_ifs with matched
  · exact Scan.follows_succeed _
  · exact Scan.follows_fail _ _

theorem follows_evaluatePattern [Pattern.Engine] (matcher : Pattern) (cursor : Cursor) :
    (scanPattern matcher cursor).Follows (evaluatePattern matcher cursor) := by
  rw [scanPattern, evaluatePattern]
  cases Pattern.Engine.search? matcher cursor.rest with
  | none => exact Scan.follows_fail _ _
  | some found => exact Scan.follows_succeed _

/-- With these bounds a list that may take no item is evaluated to an empty one. -/
def GivesEmpty (idle : Bounds → Cursor → Trace Reading) (bounds : Bounds) : Prop :=
  ∀ cursor, idle bounds cursor = .succeed { value := .array [], cursor }

section Following

variable {idle : Bounds → Cursor → Trace Reading}

theorem follows_evaluateSepBy
    {item separator : Cursor → Scan Reading}
    {itemTrace separatorTrace : Cursor → Trace Reading}
    {bounds : Bounds}
    (items : ∀ cursor, (item cursor).Follows (itemTrace cursor))
    (separators : ∀ cursor, (separator cursor).Follows (separatorTrace cursor))
    (empty : bounds.max = some 0 → GivesEmpty idle bounds)
    (cursor : Cursor) :
    (scanSepBy item separator bounds cursor).Follows
      (evaluateSepBy idle itemTrace separatorTrace bounds cursor) := by
  rw [scanSepBy_eq, evaluateSepBy]
  by_cases no_item : bounds.max = some 0
  · rw [if_pos no_item, if_pos no_item, empty no_item]
    exact Scan.follows_succeed _
  · rw [if_neg no_item, if_neg no_item]
    apply (items cursor).attempt.andThen
    intro result
    cases result with
    | none =>
        simp only
        split_ifs with none_needed
        · exact Scan.follows_succeed _
        · exact Scan.follows_giveUp
    | some first =>
        have further := Scan.Follows.separated items separators
        apply (Scan.Follows.again further _ first.cursor).andThen
        intro series
        exact Scan.follows_atLeast (series.precededBy first.value) bounds.min "items"

variable [Pattern.Engine]

/-- From every place on, scans of the parser follow its evaluation. -/
def Followed (idle : Bounds → Cursor → Trace Reading) (parser : Parser) : Prop :=
  ∀ cursor, (scan parser cursor).Follows (evaluateWith idle parser cursor)

variable {first second : Parser}

theorem followed_combinePair
    (firsts : first.Followed idle)
    (seconds : second.Followed idle)
    (operator : PairOperator) :
    (operator.combine first second).Followed idle := by
  intro cursor
  cases operator with
  | and =>
      exact Scan.Follows.both firsts seconds (fun left right => .array [left, right]) cursor
  | or =>
      exact (firsts cursor).orElse (seconds cursor)
  | next =>
      exact (firsts cursor).andThen fun left => seconds left.cursor
  | skip =>
      exact Scan.Follows.both firsts seconds (fun left _ => left) cursor
  | trim =>
      have trimmed := Scan.Follows.optional seconds
      refine (trimmed cursor).andThen fun start => ?_
      refine (firsts start).andThen fun reading => ?_
      refine (trimmed reading.cursor).andThen fun stop => ?_
      exact Scan.follows_succeed _

theorem followed_wrap
    {after : Option Parser}
    (befores : first.Followed idle)
    (contents : second.Followed idle)
    (afters : ∀ closing ∈ after, closing.Followed idle) :
    (wrap first second after).Followed idle := by
  intro cursor
  cases after with
  | none =>
      exact (befores cursor).andThen fun opening => contents opening.cursor
  | some after =>
      refine (befores cursor).andThen fun opening => ?_
      exact Scan.Follows.both contents (afters after rfl) (fun value _ => value) opening.cursor

theorem follows_evaluateAll
    {parsers : List Parser}
    (all : ∀ parser ∈ parsers, parser.Followed idle)
    (cursor : Cursor) :
    (scanAll parsers cursor).Follows (evaluateAll idle parsers cursor) := by
  induction parsers generalizing cursor with
  | nil =>
      exact Scan.follows_succeed _
  | cons parser rest hypothesis =>
      rcases List.forall_mem_cons.1 all with ⟨heads, rests⟩
      refine (heads cursor).andThen fun reading => ?_
      refine (hypothesis rests reading.cursor).andThen fun series => ?_
      exact Scan.follows_succeed _

theorem follows_evaluateChoice
    {parsers : List Parser}
    (all : ∀ parser ∈ parsers, parser.Followed idle)
    (cursor : Cursor) :
    (scanChoice parsers cursor).Follows (evaluateChoice idle parsers cursor) := by
  induction parsers with
  | nil =>
      exact Scan.follows_giveUp
  | cons parser rest hypothesis =>
      rcases List.forall_mem_cons.1 all with ⟨heads, rests⟩
      exact (heads cursor).orElse (hypothesis rests)

theorem followed_combineSeries
    {parsers : List Parser}
    (all : ∀ parser ∈ parsers, parser.Followed idle)
    (operator : SeriesOperator) :
    (operator.combine parsers).Followed idle := by
  intro cursor
  cases operator with
  | all =>
      refine (follows_evaluateAll all cursor).andThen fun series => ?_
      exact Scan.follows_succeed _
  | choice =>
      exact follows_evaluateChoice all cursor

/-- A scan follows each evaluation that takes lists that may take no item to be empty. -/
theorem follows_evaluateWith
    (idleOnward : ∀ bounds cursor, (idle bounds cursor).Onward Reading.stop cursor.offset)
    (parser : Parser)
    (empty : parser.IdleLists (GivesEmpty idle)) :
    parser.Followed idle := by
  induction parser using induction_on_operations with
  | text literal =>
      intro cursor
      exact follows_evaluateText literal cursor
  | pattern matcher =>
      intro cursor
      exact follows_evaluatePattern matcher cursor
  | constant value =>
      intro cursor
      exact Scan.follows_succeed _
  | pair operator first second firsts seconds =>
      have inFirst := firsts (empty.component (by simp))
      have inSecond := seconds (empty.component (by simp))
      exact followed_combinePair inFirst inSecond operator
  | sepBy item separator bounds items separators =>
      have inItem := items (empty.component (by simp [components]))
      have inSeparator := separators (empty.component (by simp [components]))
      intro cursor
      exact follows_evaluateSepBy inItem inSeparator (empty item separator bounds (.whole _)) cursor
  | wrap before content after befores contents afters =>
      have inBefore := befores (empty.component (by simp [components]))
      have inContent := contents (empty.component (by simp [components]))
      refine followed_wrap inBefore inContent fun closing closes => ?_
      exact afters closing closes (empty.component (by simp [components, Option.mem_def.1 closes]))
  | series operator parsers all =>
      refine followed_combineSeries (fun parser member => ?_) operator
      exact all parser member (empty.component (by simpa using member))
  | repetition inner bounds inners =>
      have steps := Scan.Follows.again (inners (empty.component (by simp [components])))
      intro cursor
      rw [scan_repetition_eq]
      refine (steps bounds.max cursor).andThen fun series => ?_
      exact Scan.follows_atLeast series bounds.min "repetitions"
  | map inner transform inners =>
      have inInner := inners (empty.component (by simp [components]))
      intro cursor
      refine (inInner cursor).andThen fun reading => ?_
      exact Scan.follows_succeed _
  | label inner name inners =>
      have inInner := inners (empty.component (by simp [components]))
      intro cursor
      exact (inInner cursor).labelled (onward_evaluateWith idleOnward inner cursor).events name

end Following

section Evaluated

variable [Pattern.Engine]

/-- Every scan follows the evaluation for which lists that may take no item are empty. -/
theorem follows_evaluateLeniently (parser : Parser) (cursor : Cursor) :
    (scan parser cursor).Follows (evaluateLeniently parser cursor) := by
  refine follows_evaluateWith ?_ parser ?_ cursor
  · intro bounds cursor
    exact Trace.onward_succeed (Nat.le_refl _)
  · intro item separator bounds _ _ cursor
    rfl

/-- A scan follows the evaluation if each list inside that may take no item need not have any. -/
theorem follows_evaluate {parser : Parser} (attainable : parser.Attainable) (cursor : Cursor) :
    (scan parser cursor).Follows (evaluate parser cursor) := by
  refine follows_evaluateWith ?_ parser ?_ cursor
  · intro bounds cursor
    exact Trace.onward_atLeast { values := [], cursor, failed := false } bounds.min "items"
  · intro item separator bounds inside no_item cursor
    have none_needed : bounds.min = 0 := attainable item separator bounds inside no_item
    simp [Trace.atLeast, none_needed]

/-- A list that takes no item succeeds, so the evaluation is followed only if that is enough. -/
theorem min_eq_zero_of_follows
    {item separator : Parser}
    {bounds : Bounds}
    (no_item : bounds.max = some 0)
    {cursor : Cursor}
    (follows : (scan (.sepBy item separator bounds) cursor).Follows
      (evaluate (.sepBy item separator bounds) cursor)) :
    bounds.min = 0 := by
  have result := congrArg Prod.fst (follows (.startingAt 0))
  by_contra needed
  simp [scan, scanSepBy, evaluate, evaluateWith, evaluateSepBy, no_item, needed, Scan.succeed,
    Trace.atLeast, Trace.fail] at result

end Evaluated

-- The label is expected where its parser failed, and not where it started.
example : (evaluate (.label (.next (.text "a") (.text "b")) "pair") (.start "ac")).events =
    [{ offset := 1, label := "pair" }] := by decide

/-! ## Outcomes -/

/--
The outcome of a trace from the start of an input.  A failure lies where the furthest
event lies, and expects the labels of all events there.
-/
def outcomeOfTrace (input : String) (trace : Trace Reading) : Outcome :=
  match trace.result with
  | some reading => .success reading.value reading.cursor.offset
  | none =>
      .failure
        { expected := .ofList (labelsAt (furthestOf 0 trace.events) trace.events)
          position := .locate input (furthestOf 0 trace.events) }

/-- The whole input must be read. -/
def evaluateToEnd (reading : Reading) : Trace Reading :=
  if reading.cursor.rest.isEmpty then
    .succeed reading
  else
    .fail reading.cursor.offset endOfInput

theorem follows_evaluateToEnd (reading : Reading) :
    (scanToEnd reading).Follows (evaluateToEnd reading) := by
  rw [scanToEnd, evaluateToEnd]
  split_ifs with finished
  · exact Scan.follows_succeed _
  · exact Scan.follows_fail _ _

/-- A scan that follows a trace has the outcome of the trace. -/
theorem outcomeOf_eq
    {step : Scan Reading}
    {trace : Trace Reading}
    (follows : step.Follows trace)
    (input : String) :
    outcomeOf input step = outcomeOfTrace input trace := by
  rw [outcomeOf, outcomeOfTrace, follows]
  cases trace.result with
  | some reading => rfl
  | none =>
      have behind : ∀ event ∈ trace.events, 0 ≤ event.offset := fun event _ => Nat.zero_le _
      have furthest := FailureRecord.furthest_absorb_startingAt behind
      have expected : ((FailureRecord.startingAt 0).absorb trace.events).expected =
          .ofList (labelsAt (furthestOf 0 trace.events) trace.events) := by
        apply Expectations.ext_of_mem
        intro label
        rw [FailureRecord.mem_expected_absorb_startingAt behind, Expectations.mem_ofList]
      simp only [furthest, expected]

section Runs

variable [Pattern.Engine]

/-- Scans of a parser follow an evaluation, and runs have its outcome. -/
structure RunsAs (parser : Parser) (evaluation : Cursor → Trace Reading) : Prop where
  scans : ∀ cursor, (scan parser cursor).Follows (evaluation cursor)
  run : ∀ input, run parser input = outcomeOfTrace input (evaluation (.start input))
  parse : ∀ input,
    parse parser input = outcomeOfTrace input ((evaluation (.start input)).andThen evaluateToEnd)

/-- Runs need nothing but that scans follow. -/
theorem RunsAs.of_follows
    {parser : Parser}
    {evaluation : Cursor → Trace Reading}
    (scans : ∀ cursor, (scan parser cursor).Follows (evaluation cursor)) :
    parser.RunsAs evaluation where
  scans := scans
  run input := outcomeOf_eq (scans (.start input)) input
  parse input := outcomeOf_eq ((scans (.start input)).andThen follows_evaluateToEnd) input

/--
A parser and all its parts run as they are evaluated exactly if each list inside that
may take no item need not have any.  Every parser runs as it is evaluated leniently.
-/
theorem runsAs_evaluate (parser : Parser) :
    ((∀ part : Parser, part.PartOf parser → part.RunsAs part.evaluate) ↔ parser.Attainable) ∧
      parser.RunsAs parser.evaluateLeniently := by
  refine ⟨⟨?_, ?_⟩, RunsAs.of_follows (follows_evaluateLeniently parser)⟩
  · intro runs item separator bounds inside no_item
    exact min_eq_zero_of_follows no_item ((runs _ inside).scans (.start ""))
  · intro attainable part inside
    exact RunsAs.of_follows (follows_evaluate (attainable.part inside))

end Runs

/-- A list that may take no item but should have one matches instead of failing. -/
theorem not_runsAs_evaluate :
    ¬ (sepBy (.text "a") (.text ",") { min := 1, max := some 0 }).RunsAs
      (evaluate (.sepBy (.text "a") (.text ",") { min := 1, max := some 0 })) := by
  intro runs
  have none_needed : (1 : Nat) = 0 := min_eq_zero_of_follows rfl (runs.scans (.start ""))
  exact absurd none_needed (by decide)

end ParserGraph.Parser

import ParserGraph.Proofs.Parser.Agreement
import ParserGraph.Proofs.Parser.Components

/-!
# Congruence

Parsers agree if their evaluations do, from every place on.  Parsers that are put
together alike agree if what they are put together from does.  Scans of parsers that
agree give related readings, and the outcomes of their runs agree as far as their
failures tell.
-/

namespace ParserGraph

section Agreement

variable {values : Value → Value → Prop} {failures : List FailureEvent → List FailureEvent → Prop}
variable (congruence : Value.Congruence values) (comparison : FailureEvent.Comparison failures)

/-! ## Parsers put together alike -/

namespace Parser

/-- From every place on the parsers' evaluations agree. -/
def Agrees
    [Pattern.Engine]
    (values : Value → Value → Prop)
    (failures : List FailureEvent → List FailureEvent → Prop)
    (first second : Parser) : Prop :=
  ∀ cursor, (evaluateLeniently first cursor).Agrees (Reading.Agrees values) failures
    (evaluateLeniently second cursor)

namespace Agrees

variable [Pattern.Engine]
variable {first second other another : Parser}

include comparison

include congruence in
theorem refl
    (parser : Parser) :
    parser.Agrees values failures parser := by
  intro cursor
  refine ⟨?_, comparison.refl _⟩
  cases (evaluateLeniently parser cursor).result with
  | none => exact .none
  | some reading => exact .some ⟨congruence.refl _, rfl⟩

theorem constant
    {value otherValue : Value}
    (related : values value otherValue) :
    (Parser.constant value).Agrees values failures (.constant otherValue) := by
  intro cursor
  rw [evaluateLeniently, evaluateWith, evaluateWith]
  exact Trace.agrees_succeed comparison ⟨related, rfl⟩

include congruence in
theorem and
    (firsts : first.Agrees values failures other)
    (seconds : second.Agrees values failures another) :
    (Parser.and first second).Agrees values failures (.and other another) := by
  intro cursor
  rw [evaluateLeniently, evaluateWith, evaluateWith]
  refine (firsts cursor).andThen comparison fun left left' lefts => ?_
  rw [lefts.cursor]
  refine (seconds left'.cursor).andThen comparison fun right right' rights => ?_
  exact Trace.agrees_succeed comparison
    ⟨congruence.array (.cons lefts.value (.cons rights.value .nil)), rights.cursor⟩

theorem or
    (firsts : first.Agrees values failures other)
    (seconds : second.Agrees values failures another) :
    (Parser.or first second).Agrees values failures (.or other another) := by
  intro cursor
  rw [evaluateLeniently, evaluateWith, evaluateWith]
  exact (firsts cursor).orElse comparison (seconds cursor)

theorem next
    (firsts : first.Agrees values failures other)
    (seconds : second.Agrees values failures another) :
    (Parser.next first second).Agrees values failures (.next other another) := by
  intro cursor
  rw [evaluateLeniently, evaluateWith, evaluateWith]
  refine (firsts cursor).andThen comparison fun left left' lefts => ?_
  rw [lefts.cursor]
  exact seconds left'.cursor

theorem skip
    (firsts : first.Agrees values failures other)
    (seconds : second.Agrees values failures another) :
    (Parser.skip first second).Agrees values failures (.skip other another) := by
  intro cursor
  rw [evaluateLeniently, evaluateWith, evaluateWith]
  refine (firsts cursor).andThen comparison fun left left' lefts => ?_
  rw [lefts.cursor]
  refine (seconds left'.cursor).andThen comparison fun right right' rights => ?_
  exact Trace.agrees_succeed comparison ⟨lefts.value, rights.cursor⟩

theorem trim
    (contents : first.Agrees values failures other)
    (trimmers : second.Agrees values failures another) :
    (Parser.trim first second).Agrees values failures (.trim other another) := by
  intro cursor
  have trimmed := Trace.Agrees.optional comparison trimmers
  rw [evaluateLeniently, evaluateWith, evaluateWith]
  refine (trimmed cursor).andThen comparison fun start start' starts => ?_
  rw [starts]
  refine (contents start').andThen comparison fun reading reading' readings => ?_
  rw [readings.cursor]
  refine (trimmed reading'.cursor).andThen comparison fun stop stop' stops => ?_
  exact Trace.agrees_succeed comparison ⟨readings.value, stops⟩

include congruence in
theorem sepBy
    (items : first.Agrees values failures other)
    (separators : second.Agrees values failures another)
    (bounds : Bounds) :
    (Parser.sepBy first second bounds).Agrees values failures (.sepBy other another bounds) := by
  intro cursor
  rw [evaluateLeniently, evaluateWith, evaluateWith, evaluateSepBy, evaluateSepBy]
  by_cases no_item : bounds.max = some 0
  · rw [if_pos no_item, if_pos no_item]
    exact Trace.agrees_succeed comparison ⟨congruence.refl _, rfl⟩
  · rw [if_neg no_item, if_neg no_item]
    refine (items cursor).attempt.andThen comparison fun given found related => ?_
    cases related with
    | none =>
        simp only
        split_ifs
        · exact Trace.agrees_succeed comparison ⟨congruence.refl _, rfl⟩
        · exact Trace.agrees_giveUp comparison
    | @some reading reached related =>
        have further := Trace.Agrees.again comparison
          (Trace.Agrees.separated comparison items separators) (bounds.max.map (· - 1))
          reached.cursor
        simp only [related.cursor]
        refine further.andThen comparison fun series others agreeing => ?_
        exact Trace.agrees_atLeast congruence comparison (agreeing.precededBy related.value)
          bounds.min "items"

theorem wrap
    (befores : first.Agrees values failures other)
    (contents : second.Agrees values failures another) :
    (Parser.wrap first second none).Agrees values failures (.wrap other another none) := by
  intro cursor
  rw [evaluateLeniently, evaluateWith, evaluateWith]
  refine (befores cursor).andThen comparison fun opening opening' openings => ?_
  rw [openings.cursor]
  exact contents opening'.cursor

theorem wrapAfter
    {after otherAfter : Parser}
    (befores : first.Agrees values failures other)
    (contents : second.Agrees values failures another)
    (afters : after.Agrees values failures otherAfter) :
    (Parser.wrap first second (some after)).Agrees values failures
      (.wrap other another (some otherAfter)) := by
  intro cursor
  rw [evaluateLeniently, evaluateWith, evaluateWith]
  refine (befores cursor).andThen comparison fun opening opening' openings => ?_
  rw [openings.cursor]
  refine (contents opening'.cursor).andThen comparison fun reading reading' readings => ?_
  rw [readings.cursor]
  refine (afters reading'.cursor).andThen comparison fun closing closing' closings => ?_
  exact Trace.agrees_succeed comparison ⟨readings.value, closings.cursor⟩

section Lists

variable {parsers others : List Parser}

theorem evaluateAll
    (agrees : List.Forall₂ (Parser.Agrees values failures) parsers others)
    (cursor : Cursor) :
    (Parser.evaluateAll (fun _ cursor => .succeed { value := .array [], cursor }) parsers
      cursor).Agrees (Series.Agrees values) failures
        (Parser.evaluateAll (fun _ cursor => .succeed { value := .array [], cursor }) others
          cursor) := by
  induction agrees generalizing cursor with
  | nil =>
      rw [Parser.evaluateAll]
      exact Trace.agrees_succeed comparison ⟨.nil, rfl, rfl⟩
  | cons head _ hypothesis =>
      rw [Parser.evaluateAll, Parser.evaluateAll]
      refine (head cursor).andThen comparison fun reading reading' readings => ?_
      rw [readings.cursor]
      refine (hypothesis reading'.cursor).andThen comparison fun series series' further => ?_
      exact Trace.agrees_succeed comparison (further.precededBy readings.value)

include congruence in
theorem all
    (agrees : List.Forall₂ (Parser.Agrees values failures) parsers others) :
    (Parser.all parsers).Agrees values failures (.all others) := by
  intro cursor
  rw [evaluateLeniently, evaluateWith, evaluateWith]
  refine (evaluateAll comparison agrees cursor).andThen comparison fun series series' further => ?_
  exact Trace.agrees_succeed comparison ⟨congruence.array further.values, further.cursor⟩

theorem choice
    (agrees : List.Forall₂ (Parser.Agrees values failures) parsers others) :
    (Parser.choice parsers).Agrees values failures (.choice others) := by
  intro cursor
  rw [evaluateLeniently, evaluateWith, evaluateWith]
  induction agrees with
  | nil =>
      rw [evaluateChoice]
      exact Trace.agrees_giveUp comparison
  | cons head _ hypothesis =>
      rw [evaluateChoice, evaluateChoice]
      exact (head cursor).orElse comparison hypothesis

end Lists

include congruence in
theorem repetition
    (inners : first.Agrees values failures other)
    (bounds : Bounds) :
    (Parser.repetition first bounds).Agrees values failures (.repetition other bounds) := by
  intro cursor
  have steps := Trace.Agrees.again comparison inners bounds.max cursor
  rw [evaluateLeniently, evaluateWith, evaluateWith]
  refine steps.andThen comparison fun series others agreeing => ?_
  exact Trace.agrees_atLeast congruence comparison agreeing bounds.min "repetitions"

/-- Transforms of related values agree if they relate what they make of them. -/
theorem map
    {given : Value → Value → Prop}
    (inners : first.Agrees given failures other)
    {transform otherTransform : Transform}
    (converts : ∀ value otherValue, given value otherValue →
      values (transform.apply value) (otherTransform.apply otherValue)) :
    (Parser.map first transform).Agrees values failures (.map other otherTransform) := by
  intro cursor
  rw [evaluateLeniently, evaluateWith, evaluateWith]
  refine (inners cursor).andThen comparison fun reading reading' readings => ?_
  exact Trace.agrees_succeed comparison ⟨converts _ _ readings.value, readings.cursor⟩

theorem label
    (inners : first.Agrees values failures other)
    (name : String) :
    (Parser.label first name).Agrees values failures (.label other name) := by
  intro cursor
  rw [evaluateLeniently, evaluateWith, evaluateWith]
  exact (inners cursor).labelled comparison cursor.offset name

include congruence in
theorem combinePair
    (firsts : first.Agrees values failures other)
    (seconds : second.Agrees values failures another)
    (operator : PairOperator) :
    (operator.combine first second).Agrees values failures (operator.combine other another) := by
  cases operator with
  | and => exact .and congruence comparison firsts seconds
  | or => exact .or comparison firsts seconds
  | next => exact .next comparison firsts seconds
  | skip => exact .skip comparison firsts seconds
  | trim => exact .trim comparison firsts seconds

include congruence in
theorem combineSeries
    {parsers others : List Parser}
    (agrees : List.Forall₂ (Parser.Agrees values failures) parsers others)
    (operator : SeriesOperator) :
    (operator.combine parsers).Agrees values failures (operator.combine others) := by
  cases operator with
  | all => exact .all congruence comparison agrees
  | choice => exact .choice comparison agrees

include congruence in
/-- An operation agrees with itself on other components if each component does with its other. -/
theorem mapComponents
    (converts : ∀ (transform : Transform) value otherValue, values value otherValue →
      values (transform.apply value) (transform.apply otherValue))
    {change : Parser → Parser}
    (parser : Parser)
    (agrees : ∀ component ∈ parser.components,
      component.Agrees values failures (change component)) :
    parser.Agrees values failures (parser.mapComponents change) := by
  induction parser using induction_on_operations with
  | text | pattern | constant => exact refl congruence comparison _
  | pair operator first second =>
      have firsts := agrees first (by simp)
      have seconds := agrees second (by simp)
      rw [mapComponents_combinePair]
      exact firsts.combinePair congruence comparison seconds operator
  | sepBy item separator bounds =>
      have items := agrees item (by simp [components])
      have separators := agrees separator (by simp [components])
      exact items.sepBy congruence comparison separators bounds
  | wrap before content after =>
      have befores := agrees before (by simp [components])
      have contents := agrees content (by simp [components])
      cases after with
      | none => exact befores.wrap comparison contents
      | some after =>
          exact befores.wrapAfter comparison contents (agrees after (by simp [components]))
  | series operator parsers =>
      rw [mapComponents_combineSeries]
      refine combineSeries congruence comparison ?_ operator
      exact List.forall₂_map_right_iff.2 (List.forall₂_same.2 (by simpa using agrees))
  | repetition inner bounds =>
      have inners := agrees inner (by simp [components])
      exact inners.repetition congruence comparison bounds
  | map inner transform =>
      have inners := agrees inner (by simp [components])
      exact inners.map comparison (converts transform)
  | label inner name =>
      have inners := agrees inner (by simp [components])
      exact inners.label comparison name

end Agrees

/-! ## Scans and outcomes -/

/-- With the same failures, scans leave the same record and give related readings. -/
theorem Agrees.scan
    [Pattern.Engine]
    {first second : Parser}
    (agrees : first.Agrees values (· = ·) second)
    (cursor : Cursor)
    (record : FailureRecord) :
    Option.Rel (Reading.Agrees values) (scan first cursor record).1 (scan second cursor record).1 ∧
      (scan first cursor record).2 = (scan second cursor record).2 := by
  rw [follows_evaluateLeniently first cursor record, follows_evaluateLeniently second cursor record]
  exact ⟨(agrees cursor).result, congrArg record.absorb (agrees cursor).events⟩

end Parser

/-- Both runs match, up to the same offset and with related values, or both fail, related. -/
inductive Outcome.Agrees
    (values : Value → Value → Prop)
    (reasons : Failure → Failure → Prop) : Outcome → Outcome → Prop where
  | success {first second : Value} (stop : Nat) (related : values first second) :
      Agrees values reasons (.success first stop) (.success second stop)
  | failure {first second : Failure} (related : reasons first second) :
      Agrees values reasons (.failure first) (.failure second)

theorem Outcome.Agrees.eq
    {first second : Outcome}
    (agrees : first.Agrees (· = ·) (· = ·) second) :
    first = second := by
  cases agrees with
  | success stop related => rw [related]
  | failure related => rw [related]

namespace Parser

/-- The failure that events amount to. -/
def failureOf (input : String) (events : List FailureEvent) : Failure :=
  { expected := .ofList (labelsAt (furthestOf 0 events) events)
    position := .locate input (furthestOf 0 events) }

theorem agrees_outcomeOfTrace
    {reasons : Failure → Failure → Prop}
    {first second : Trace Reading}
    (agrees : first.Agrees (Reading.Agrees values) failures second)
    {input : String}
    (told : failures first.events second.events →
      reasons (failureOf input first.events) (failureOf input second.events)) :
    (outcomeOfTrace input first).Agrees values reasons (outcomeOfTrace input second) := by
  rcases first with ⟨given, events⟩
  rcases second with ⟨found, others⟩
  rcases agrees with ⟨related, compared⟩
  cases related with
  | none => exact .failure (told compared)
  | @some reading reached related =>
      simp only [outcomeOfTrace, related.cursor]
      exact .success _ related.value

include comparison in
theorem agrees_evaluateToEnd
    {first second : Reading}
    (agrees : first.Agrees values second) :
    (evaluateToEnd first).Agrees (Reading.Agrees values) failures (evaluateToEnd second) := by
  rw [evaluateToEnd, evaluateToEnd, agrees.cursor]
  split_ifs
  · exact Trace.agrees_succeed comparison agrees
  · exact Trace.agrees_fail comparison _ _

include comparison in
/-- The outcomes of runs agree as far as their failures tell. -/
theorem Agrees.outcomes
    [Pattern.Engine]
    {reasons : Failure → Failure → Prop}
    {first second : Parser}
    (agrees : first.Agrees values failures second)
    (told : ∀ input firsts seconds, failures firsts seconds →
      reasons (failureOf input firsts) (failureOf input seconds))
    (input : String) :
    (run first input).Agrees values reasons (run second input) ∧
      (parse first input).Agrees values reasons (parse second input) := by
  have runs := fun parser => RunsAs.of_follows (follows_evaluateLeniently parser)
  constructor
  · rw [(runs first).run, (runs second).run]
    exact agrees_outcomeOfTrace (agrees (.start input)) (told input _ _)
  · rw [(runs first).parse, (runs second).parse]
    refine agrees_outcomeOfTrace ?_ (told input _ _)
    exact (agrees (.start input)).andThen comparison fun reading reached related =>
      agrees_evaluateToEnd comparison related

end Parser

end Agreement

end ParserGraph

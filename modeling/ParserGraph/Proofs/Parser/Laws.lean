import ParserGraph.Proofs.Parser.Surroundings

/-!
# Laws of combination

Operations for two, three or any number of parsers do what simpler operations do, put
together.  Parsers that are equal by such a law may be exchanged for each other in every
surrounding: they read the same values up to the same places, and their failures lie at the
same places and expect the same.

A series of parsers in two parts is the one exception.  It matches, stops and fails as the
two parts in order do, but gives one array where they give a pair of arrays.
-/

namespace ParserGraph

/-! ## Traces put together -/

namespace Trace

variable {First Second Third : Type}

@[simp]
theorem succeed_andThen (result : First) (next : First → Trace Second) :
    (succeed result).andThen next = next result := by
  simp [succeed, andThen]

@[simp]
theorem andThen_succeed (step : Trace First) : step.andThen succeed = step := by
  rcases step with ⟨_ | result, events⟩ <;> simp [succeed, andThen]

@[simp]
theorem andThen_assoc
    (first : Trace First)
    (second : First → Trace Second)
    (third : Second → Trace Third) :
    (first.andThen second).andThen third =
      first.andThen fun result => (second result).andThen third := by
  rcases first with ⟨_ | result, events⟩
  · rfl
  · simp only [andThen]
    rcases second result with ⟨_ | further, later⟩ <;> simp

theorem orElse_assoc (first second third : Trace First) :
    (first.orElse second).orElse third = first.orElse (second.orElse third) := by
  rcases first with ⟨_ | result, events⟩
  · rcases second with ⟨_ | other, others⟩ <;> simp [orElse]
  · rfl

@[simp]
theorem orElse_giveUp (step : Trace First) : step.orElse giveUp = step := by
  rcases step with ⟨_ | result, events⟩ <;> simp [orElse, giveUp]

@[simp]
theorem giveUp_orElse (step : Trace First) : giveUp.orElse step = step := by
  simp [orElse, giveUp]

/-- Something optional is itself or a null that is read from nothing. -/
theorem optional_andThen
    (step : Cursor → Trace Reading)
    (cursor : Cursor)
    (next : Cursor → Trace Second) :
    (optional step cursor).andThen next =
      ((step cursor).orElse (.succeed { value := .null, cursor })).andThen fun reading =>
        next reading.cursor := by
  rw [optional, andThen_assoc]
  rcases step cursor with ⟨_ | reading, events⟩ <;> simp [attempt, succeed, orElse, andThen]

end Trace

namespace Parser

/-! ## Evaluations put together -/

/-- What stands for a trimmer that may be missing: the trimmer, or null. -/
def orNull (parser : Parser) : Parser :=
  .or parser (.constant .null)

/-- One array holds what the two arrays of a pair hold, in order. -/
def Concatenates (whole pair : Value) : Prop :=
  ∃ front back, pair = .array [.array front, .array back] ∧ whole = .array (front ++ back)

variable [Pattern.Engine]

section Evaluation

variable {idle : Bounds → Cursor → Trace Reading}

theorem evaluateChoice_append (front back : List Parser) (cursor : Cursor) :
    evaluateChoice idle (front ++ back) cursor =
      (evaluateChoice idle front cursor).orElse (evaluateChoice idle back cursor) := by
  induction front with
  | nil => simp [evaluateChoice]
  | cons parser rest hypothesis =>
      simp only [List.cons_append, evaluateChoice]
      rw [hypothesis, Trace.orElse_assoc]

/-- The values of a series in two parts are those of the first part and of the second. -/
theorem evaluateAll_append (front back : List Parser) (cursor : Cursor) :
    evaluateAll idle (front ++ back) cursor =
      (evaluateAll idle front cursor).andThen fun series =>
        (evaluateAll idle back series.cursor).andThen fun further =>
          .succeed { further with values := series.values ++ further.values } := by
  induction front generalizing cursor with
  | nil =>
      simp only [List.nil_append, evaluateAll, Trace.succeed_andThen]
      rcases evaluateAll idle back cursor with ⟨_ | further, events⟩ <;>
        simp [Trace.andThen, Trace.succeed]
  | cons parser rest hypothesis =>
      simp only [List.cons_append, evaluateAll, Trace.andThen_assoc]
      congr 1
      funext reading
      simp [hypothesis, Series.precededBy]

end Evaluation

/-! ## Exchanging parsers -/

/-- Scans of both are the same, and in every surrounding the outcomes of runs are. -/
structure Exchangeable (first second : Parser) : Prop where
  scans : ∀ cursor record, scan first cursor record = scan second cursor record
  run : ∀ (surrounding : Surrounding) (input : String),
    run (surrounding.fill first) input = run (surrounding.fill second) input
  parse : ∀ (surrounding : Surrounding) (input : String),
    parse (surrounding.fill first) input = parse (surrounding.fill second) input

/--
Scans of both match together, up to the same place and with related values, and leave the
same record.  In every surrounding runs match together, up to the same place, or fail with
the same failure.
-/
structure MatchesAlike (values : Value → Value → Prop) (first second : Parser) : Prop where
  scans : ∀ cursor record,
    Option.Rel (Reading.Agrees values) (scan first cursor record).1 (scan second cursor record).1 ∧
      (scan first cursor record).2 = (scan second cursor record).2
  run : ∀ (surrounding : Surrounding) (input : String),
    (run (surrounding.fill first) input).Agrees (fun _ _ => True) (· = ·)
      (run (surrounding.fill second) input)
  parse : ∀ (surrounding : Surrounding) (input : String),
    (parse (surrounding.fill first) input).Agrees (fun _ _ => True) (· = ·)
      (parse (surrounding.fill second) input)

theorem exchangeable_of_evaluate_eq
    {first second : Parser}
    (equal : ∀ cursor, evaluateLeniently first cursor = evaluateLeniently second cursor) :
    Exchangeable first second := by
  have agrees : first.Agrees (· = ·) (· = ·) second := by
    intro cursor
    rw [equal]
    exact Agrees.refl Value.congruence_eq FailureEvent.comparison_eq second cursor
  have outcomes := fun surrounding : Surrounding =>
    (agrees.fill FailureEvent.comparison_eq surrounding).outcomes FailureEvent.comparison_eq
      fun input _ _ => congrArg (failureOf input)
  constructor
  · intro cursor record
    rw [follows_evaluateLeniently, follows_evaluateLeniently, equal]
  · exact fun surrounding input => (outcomes surrounding input).1.eq
  · exact fun surrounding input => (outcomes surrounding input).2.eq

theorem Agrees.mono
    {values others : Value → Value → Prop}
    {failures : List FailureEvent → List FailureEvent → Prop}
    {first second : Parser}
    (agrees : first.Agrees values failures second)
    (related : ∀ value otherValue, values value otherValue → others value otherValue) :
    first.Agrees others failures second := by
  intro cursor
  rcases agrees cursor with ⟨result, events⟩
  refine ⟨?_, events⟩
  generalize (evaluateLeniently first cursor).result = given at result ⊢
  generalize (evaluateLeniently second cursor).result = found at result ⊢
  cases result with
  | none => exact .none
  | some readings => exact .some ⟨related _ _ readings.value, readings.cursor⟩

/-- Whatever becomes of the values in a surrounding, it does not matter to what matches. -/
theorem Agrees.matchesAlike
    {values : Value → Value → Prop}
    {first second : Parser}
    (agrees : first.Agrees values (· = ·) second) :
    MatchesAlike values first second := by
  have aside : first.Agrees (fun _ _ => True) (· = ·) second :=
    agrees.mono fun _ _ _ => trivial
  have outcomes := fun surrounding : Surrounding =>
    (aside.fillRelated Value.congruence_true FailureEvent.comparison_eq (fun _ _ _ _ => trivial)
      surrounding).outcomes FailureEvent.comparison_eq fun input _ _ => congrArg (failureOf input)
  constructor
  · exact agrees.scan
  · exact fun surrounding input => (outcomes surrounding input).1
  · exact fun surrounding input => (outcomes surrounding input).2

theorem agrees_all_append (front back : List Parser) :
    (all (front ++ back)).Agrees Concatenates (· = ·) (and (.all front) (.all back)) := by
  intro cursor
  simp only [evaluateLeniently, evaluateWith, evaluateAll_append, Trace.andThen_assoc,
    Trace.succeed_andThen]
  generalize (evaluateAll _ front cursor : Trace Series) = first
  rcases first with ⟨_ | series, events⟩
  · exact ⟨.none, rfl⟩
  · simp only [Trace.andThen]
    generalize (evaluateAll _ back series.cursor : Trace Series) = second
    rcases second with ⟨_ | further, later⟩
    · exact ⟨.none, rfl⟩
    · exact ⟨.some ⟨⟨series.values, further.values, rfl, rfl⟩, rfl⟩, rfl⟩

/-! ## The laws -/

/-- What operations for two, three or any number of parsers can be put together from. -/
structure CombinationLaws : Prop where
  wrap_after : ∀ content before after,
    Exchangeable (.wrap before content (some after)) (.next before (.skip content after))
  wrap : ∀ content before, Exchangeable (.wrap before content none) (.next before content)
  all_pair : ∀ first second, Exchangeable (.all [first, second]) (.and first second)
  choice_pair : ∀ first second, Exchangeable (.choice [first, second]) (.or first second)
  choice_append : ∀ front back,
    Exchangeable (.choice (front ++ back)) (.or (.choice front) (.choice back))
  next_assoc : ∀ first second third,
    Exchangeable (.next (.next first second) third) (.next first (.next second third))
  or_assoc : ∀ first second third,
    Exchangeable (.or (.or first second) third) (.or first (.or second third))
  trim : ∀ content trimmer,
    Exchangeable (.trim content trimmer)
      (.wrap trimmer.orNull content (some trimmer.orNull))
  all_append : ∀ front back,
    MatchesAlike Concatenates (.all (front ++ back)) (.and (.all front) (.all back))

/-- The laws hold for all parsers, in every surrounding and for every input. -/
theorem combinationLaws : CombinationLaws where
  wrap_after content before after := by
    apply exchangeable_of_evaluate_eq
    intro cursor
    simp only [evaluateLeniently, evaluateWith]
  wrap content before := by
    apply exchangeable_of_evaluate_eq
    intro cursor
    simp only [evaluateLeniently, evaluateWith]
  all_pair first second := by
    apply exchangeable_of_evaluate_eq
    intro cursor
    simp [evaluateLeniently, evaluateWith, evaluateAll, Series.precededBy]
  choice_pair first second := by
    apply exchangeable_of_evaluate_eq
    intro cursor
    simp [evaluateLeniently, evaluateWith, evaluateChoice]
  choice_append front back := by
    apply exchangeable_of_evaluate_eq
    intro cursor
    simp only [evaluateLeniently, evaluateWith]
    exact evaluateChoice_append front back cursor
  next_assoc first second third := by
    apply exchangeable_of_evaluate_eq
    intro cursor
    simp only [evaluateLeniently, evaluateWith]
    exact Trace.andThen_assoc _ _ _
  or_assoc first second third := by
    apply exchangeable_of_evaluate_eq
    intro cursor
    simp only [evaluateLeniently, evaluateWith]
    exact Trace.orElse_assoc _ _ _
  trim content trimmer := by
    apply exchangeable_of_evaluate_eq
    intro cursor
    simp only [evaluateLeniently, evaluateWith, orNull, Trace.optional_andThen]
  all_append front back := (agrees_all_append front back).matchesAlike

end Parser

end ParserGraph

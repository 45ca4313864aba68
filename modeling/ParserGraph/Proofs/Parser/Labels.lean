import ParserGraph.Proofs.Parser.Reasons
import ParserGraph.Proofs.Parser.Surroundings

/-!
# Labels

A label changes what a failure expects, and neither what is read nor where the failure
lies.  Without its labels a parser therefore matches the same, and it fails at the same
places, as long as each choice inside has something to choose from: the failure of an empty
choice has no place until it is labelled.  Of two labels around the same parser only the
outer one is ever seen.
-/

namespace ParserGraph.Parser

/-! ## Parsers without labels -/

mutual

/-- The parser without labels. -/
def unlabelled : Parser → Parser
  | .text literal => .text literal
  | .pattern matcher => .pattern matcher
  | .constant value => .constant value
  | .and first second => .and (unlabelled first) (unlabelled second)
  | .or first second => .or (unlabelled first) (unlabelled second)
  | .next first second => .next (unlabelled first) (unlabelled second)
  | .skip first second => .skip (unlabelled first) (unlabelled second)
  | .trim content trimmer => .trim (unlabelled content) (unlabelled trimmer)
  | .sepBy item separator bounds => .sepBy (unlabelled item) (unlabelled separator) bounds
  | .wrap before content none => .wrap (unlabelled before) (unlabelled content) none
  | .wrap before content (some after) =>
      .wrap (unlabelled before) (unlabelled content) (some (unlabelled after))
  | .all parsers => .all (unlabelledList parsers)
  | .choice parsers => .choice (unlabelledList parsers)
  | .repetition inner bounds => .repetition (unlabelled inner) bounds
  | .map inner transform => .map (unlabelled inner) transform
  | .label inner _ => unlabelled inner

def unlabelledList : List Parser → List Parser
  | [] => []
  | parser :: rest => unlabelled parser :: unlabelledList rest

end

/-- A label moves no failure, if there is one. -/
theorem equallyFar_labelled
    {Result : Type}
    {step : Trace Result}
    (explained : step.Explained)
    (start : Nat)
    (name : String) :
    EquallyFar (step.labelled start name).events step.events := by
  rw [Trace.labelled]
  cases given : step.result with
  | some result => exact fun _ => Iff.rfl
  | none =>
      -- Without any failure the label would stand at the start, where nothing failed.
      intro offset
      rw [failsFrom_iff_le_furthestOf (explained given) start offset]
      simp [FailsFrom, Trace.fail]

/-- A label can be left out where failures are compared by their places only. -/
theorem agrees_without_label
    [Pattern.Engine]
    {inner other : Parser}
    (offers : inner.Offers)
    (agrees : inner.Agrees (· = ·) EquallyFar other)
    (name : String) :
    (Parser.label inner name).Agrees (· = ·) EquallyFar other := by
  intro cursor
  rw [evaluateLeniently, evaluateWith, ← evaluateLeniently]
  constructor
  · rw [Trace.result_labelled]
    exact (agrees cursor).result
  · intro offset
    rw [equallyFar_labelled (offers.explained cursor) cursor.offset name offset]
    exact (agrees cursor).events offset

theorem unlabelledList_eq_map (parsers : List Parser) :
    unlabelledList parsers = parsers.map unlabelled := by
  induction parsers with
  | nil => rfl
  | cons parser rest hypothesis => rw [unlabelledList, hypothesis, List.map_cons]

/-- Labels are taken away from the components of an operation that is no label itself. -/
theorem unlabelled_eq_mapComponents
    {parser : Parser}
    (other : ∀ inner name, parser ≠ .label inner name) :
    parser.unlabelled = parser.mapComponents unlabelled := by
  cases parser with
  | label inner name => exact absurd rfl (other inner name)
  | wrap before content after => cases after <;> rfl
  | all parsers => exact congrArg Parser.all (unlabelledList_eq_map parsers)
  | choice parsers => exact congrArg Parser.choice (unlabelledList_eq_map parsers)
  | _ => rfl

/-- Labels inside do not matter to what is read and where it fails. -/
theorem agrees_unlabelled
    [Pattern.Engine]
    (parser : Parser)
    (offers : parser.Offers) :
    parser.Agrees (· = ·) EquallyFar parser.unlabelled := by
  induction parser using induction_on_components with
  | put_together parser hypothesis =>
      have inside : ∀ component ∈ parser.components,
          component.Agrees (· = ·) EquallyFar component.unlabelled := by
        intro component member
        exact hypothesis component member (offers.component member)
      cases parser with
      | label inner name =>
          have member : inner ∈ (Parser.label inner name).components := by simp [components]
          rw [unlabelled]
          exact agrees_without_label (offers.component member) (inside inner member) name
      | _ =>
          rw [unlabelled_eq_mapComponents (by simp)]
          exact .mapComponents Value.congruence_eq FailureEvent.comparison_equallyFar
            (fun transform _ _ => congrArg transform.apply) _ inside

/-! ## Labels around labels -/

/-- The furthest place under a label is the furthest place under the label around it. -/
theorem labelled_labelled
    {Result : Type}
    (step : Trace Result)
    (start : Nat)
    (first second : String) :
    (step.labelled start first).labelled start second = step.labelled start second := by
  cases given : step.result with
  | some result => simp [Trace.labelled, given]
  | none => simp [Trace.labelled, given, Trace.fail, furthestOf]

/-- Failures never expect a label that stands inside another one. -/
theorem agrees_label_label [Pattern.Engine] (parser : Parser) (first second : String) :
    (label (label parser first) second).Agrees (· = ·) (· = ·) (label parser second) := by
  intro cursor
  have equal : evaluateLeniently (label (label parser first) second) cursor =
      evaluateLeniently (label parser second) cursor := by
    simp only [evaluateLeniently, evaluateWith]
    exact labelled_labelled _ _ _ _
  rw [equal]
  exact Agrees.refl Value.congruence_eq FailureEvent.comparison_eq _ cursor

/-! ## Outcomes -/

/--
If each choice inside has something to choose from, runs without the labels match up to the
same offset with the same value, or fail at the same position.  In every surrounding, a
label inside another one makes no difference to what runs give, expectations included.
-/
theorem labels_transparent [Pattern.Engine] :
    (∀ parser : Parser, parser.Offers → ∀ input,
      (run parser input).Agrees (· = ·) (fun failure other => failure.position = other.position)
          (run parser.unlabelled input) ∧
        (parse parser input).Agrees (· = ·)
          (fun failure other => failure.position = other.position)
          (parse parser.unlabelled input)) ∧
      ∀ (parser : Parser) (first second : String) (surrounding : Surrounding) (input : String),
        let twice := surrounding.fill (.label (.label parser first) second)
        let once := surrounding.fill (.label parser second)
        run twice input = run once input ∧ parse twice input = parse once input := by
  constructor
  · intro parser offers input
    refine (agrees_unlabelled parser offers).outcomes FailureEvent.comparison_equallyFar ?_ input
    intro input firsts seconds level
    exact congrArg (Position.locate input)
      (FailureEvent.comparison_equallyFar.furthestOf_eq level 0)
  · intro parser first second surrounding input twice once
    have agrees := (agrees_label_label parser first second).fill FailureEvent.comparison_eq
      surrounding
    have outcomes := agrees.outcomes FailureEvent.comparison_eq
      (fun input _ _ => congrArg (failureOf input)) input
    exact ⟨outcomes.1.eq, outcomes.2.eq⟩

/-- A label hides what two texts expect, and the place stays behind the first of them. -/
theorem labels_transparent_around_texts :
    let parser : Parser := .label (.and (.text "é") (.text "n")) "pair"
    parser.Offers ∧
      ∃ failure other,
        parser.run "éé" = .failure failure ∧ parser.unlabelled.run "éé" = .failure other ∧
          failure.position = other.position ∧ failure.expected ≠ other.expected := by
  intro parser
  have text : ∀ literal, (Parser.text literal).Offers := fun literal =>
    offers_of_components (by simp) (by simp [components])
  have pair : (Parser.and (.text "é") (.text "n")).Offers :=
    offers_of_components (by simp) (by simp [components, text])
  have offers : parser.Offers := offers_of_components (by simp [parser]) (by
    simpa [parser, components] using pair)
  have failed : ∃ failure, parser.run "éé" = .failure failure := ⟨_, rfl⟩
  have failedAlike : ∃ other, parser.unlabelled.run "éé" = .failure other := ⟨_, rfl⟩
  rcases failed with ⟨failure, failed⟩
  rcases failedAlike with ⟨other, failedAlike⟩
  have agrees := (labels_transparent.1 parser offers "éé").1
  rw [failed, failedAlike] at agrees
  refine ⟨offers, failure, other, failed, failedAlike, ?_, ?_⟩
  · cases agrees with
    | failure level => exact level
  · cases failed
    cases failedAlike
    decide

end ParserGraph.Parser

import ParserGraph.Proofs.Parser.Laws

/-!
# Values and matching

The values of constants and what transforms make of values decide neither how far a parser
reads nor how it fails.  A parser keeps its matching if all its constants become null and its
transforms are left out, and so two parsers match alike that are the same but for these.
-/

namespace ParserGraph.Parser

/-! ## Parsers without values -/

mutual

/-- The parser with null for each constant and without transforms. -/
def withoutValues : Parser → Parser
  | .text literal => .text literal
  | .pattern matcher => .pattern matcher
  | .constant _ => .constant .null
  | .and first second => .and (withoutValues first) (withoutValues second)
  | .or first second => .or (withoutValues first) (withoutValues second)
  | .next first second => .next (withoutValues first) (withoutValues second)
  | .skip first second => .skip (withoutValues first) (withoutValues second)
  | .trim content trimmer => .trim (withoutValues content) (withoutValues trimmer)
  | .sepBy item separator bounds =>
      .sepBy (withoutValues item) (withoutValues separator) bounds
  | .wrap before content none => .wrap (withoutValues before) (withoutValues content) none
  | .wrap before content (some after) =>
      .wrap (withoutValues before) (withoutValues content) (some (withoutValues after))
  | .all parsers => .all (withoutValuesList parsers)
  | .choice parsers => .choice (withoutValuesList parsers)
  | .repetition inner bounds => .repetition (withoutValues inner) bounds
  | .map inner _ => withoutValues inner
  | .label inner name => .label (withoutValues inner) name

def withoutValuesList : List Parser → List Parser
  | [] => []
  | parser :: rest => withoutValues parser :: withoutValuesList rest

end

theorem withoutValuesList_eq_map (parsers : List Parser) :
    withoutValuesList parsers = parsers.map withoutValues := by
  induction parsers with
  | nil => rfl
  | cons parser rest hypothesis => rw [withoutValuesList, hypothesis, List.map_cons]

/-- Values are taken away from the components of an operation that does not make its own. -/
theorem changesInside_withoutValues : ChangesInside withoutValues := by
  intro parser unfixed untransformed
  cases parser with
  | constant value => exact absurd rfl (unfixed value)
  | map inner transform => exact absurd rfl (untransformed inner transform)
  | wrap before content after => cases after <;> rfl
  | all parsers => exact congrArg Parser.all (withoutValuesList_eq_map parsers)
  | choice parsers => exact congrArg Parser.choice (withoutValuesList_eq_map parsers)
  | _ => rfl

/-! ## Matching without values -/

section Matching

variable [Pattern.Engine]

/-- A transform can be left out where values are not compared. -/
theorem agrees_without_map
    {inner other : Parser}
    (agrees : inner.Agrees (fun _ _ => True) (· = ·) other)
    (transform : Transform) :
    (map inner transform).Agrees (fun _ _ => True) (· = ·) other := by
  intro cursor
  have onwards : ∀ reading found : Reading, reading.Agrees (fun _ _ => True) found →
      (Trace.succeed { reading with value := transform.apply reading.value }).Agrees
        (Reading.Agrees fun _ _ => True) (· = ·) (.succeed found) := by
    intro reading found related
    exact Trace.agrees_succeed FailureEvent.comparison_eq ⟨trivial, related.cursor⟩
  have converted := (agrees cursor).andThen FailureEvent.comparison_eq onwards
  rw [Trace.andThen_succeed] at converted
  rw [evaluateLeniently, evaluateWith]
  exact converted

/-- Without its values a parser reads as far and fails alike. -/
theorem agrees_withoutValues (parser : Parser) :
    parser.Agrees (fun _ _ => True) (· = ·) parser.withoutValues := by
  induction parser using induction_on_components with
  | put_together parser inside =>
      cases parser with
      | constant value =>
          rw [withoutValues]
          exact .constant FailureEvent.comparison_eq trivial
      | map inner transform =>
          rw [withoutValues]
          exact agrees_without_map (inside inner (by simp [components])) transform
      | _ =>
          rw [changesInside_withoutValues _ (by simp) (by simp)]
          exact .mapComponents Value.congruence_true FailureEvent.comparison_eq
            (fun _ _ _ _ => trivial) _ inside

/-- Parsers agree, up to values, that agree with the same one. -/
theorem Agrees.of_common
    {first second common : Parser}
    (firsts : first.Agrees (fun _ _ => True) (· = ·) common)
    (seconds : second.Agrees (fun _ _ => True) (· = ·) common) :
    first.Agrees (fun _ _ => True) (· = ·) second := by
  intro cursor
  rcases firsts cursor with ⟨result, events⟩
  rcases seconds cursor with ⟨otherResult, otherEvents⟩
  refine ⟨?_, events.trans otherEvents.symm⟩
  generalize (evaluateLeniently first cursor).result = given at result ⊢
  generalize (evaluateLeniently second cursor).result = found at otherResult ⊢
  generalize (evaluateLeniently common cursor).result = shared at result otherResult
  cases result with
  | none =>
      cases otherResult with
      | none => exact .none
  | some related =>
      cases otherResult with
      | some others => exact .some ⟨trivial, related.cursor.trans others.cursor.symm⟩

/--
Values never steer.  Parsers that differ in the values of constants and in transforms only,
be it that there are more or fewer of these, match together, up to the same place, or fail
with the same expectations at the same position.
-/
theorem matchesAlike_of_withoutValues
    {first second : Parser}
    (alike : first.withoutValues = second.withoutValues) :
    MatchesAlike (fun _ _ => True) first second := by
  have seconds := agrees_withoutValues second
  rw [← alike] at seconds
  exact ((agrees_withoutValues first).of_common seconds).matchesAlike

end Matching

/-- A repetition of constants, behind which transforms are exchanged and left out. -/
theorem matchesAlike_of_other_constants :
    let number : Transform := { conversion := .number, identity := 1 }
    let join : Transform := { conversion := .join, identity := 2 }
    let first : Parser :=
      .and (.repetition (.constant (.text "1")) { min := 1 }) (.map (.text "é") join)
    let second : Parser :=
      .map (.and (.repetition (.map (.constant .null) number) { min := 1 }) (.text "é")) join
    first.withoutValues = second.withoutValues ∧ first ≠ second ∧
      MatchesAlike (fun _ _ => True) first second := by
  intro number join first second
  exact ⟨rfl, by simp [first, second], matchesAlike_of_withoutValues rfl⟩

end ParserGraph.Parser

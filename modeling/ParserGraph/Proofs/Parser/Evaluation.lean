import ParserGraph.Proofs.Parser.Components
import ParserGraph.Proofs.Parser.Trace

/-!
# Evaluating parsers

A parser is evaluated without a record: it gives a trace.  Texts, patterns and
series that are too short fail with their labels, a label replaces the failures of
what it labels, and all other operations put the failures of their attempts one
behind the other.

A list that may take no item at all is a case of its own, which a parameter decides.
By the rule for other lists it is too short if it should have items.
-/

namespace ParserGraph.Parser

/-! ## Evaluation -/

/-- A literal is read, or its label fails at the place. -/
def evaluateText (literal : String) (cursor : Cursor) : Trace Reading :=
  if literal.toList.isPrefixOf cursor.rest then
    .succeed
      { value := .text literal
        cursor := cursor.behind literal.toList (cursor.rest.drop literal.toList.length) }
  else
    .fail cursor.offset (Text.quoted literal)

/-- The first match of a pattern is read, or its label fails at the place. -/
def evaluatePattern [Pattern.Engine] (pattern : Pattern) (cursor : Cursor) : Trace Reading :=
  match Pattern.Engine.search? pattern cursor.rest with
  | some found =>
      .succeed
        { value := .text (String.ofList found.matched)
          cursor := cursor.behind (found.skipped ++ found.matched) found.rest }
  | none => .fail cursor.offset pattern.label

section Evaluation

variable (idle : Bounds → Cursor → Trace Reading)

def evaluateSepBy
    (item separator : Cursor → Trace Reading)
    (bounds : Bounds)
    (cursor : Cursor) :
    Trace Reading :=
  if bounds.max = some 0 then
    idle bounds cursor
  else
    (item cursor).attempt.andThen fun result =>
      match result with
      | none =>
          if bounds.min = 0 then .succeed { value := .array [], cursor } else .giveUp
      | some first =>
          (Trace.again (Trace.separated item separator) (bounds.max.map (· - 1))
            first.cursor).andThen fun series =>
              Trace.atLeast (series.precededBy first.value) bounds.min "items"

variable [Pattern.Engine]

mutual

/-- The trace of a parser from a place on. -/
def evaluateWith : Parser → Cursor → Trace Reading
  | .text literal, cursor => evaluateText literal cursor
  | .pattern matcher, cursor => evaluatePattern matcher cursor
  | .constant value, cursor => .succeed { value, cursor }
  | .and first second, cursor =>
      (evaluateWith first cursor).andThen fun left =>
        (evaluateWith second left.cursor).andThen fun right =>
          .succeed { value := .array [left.value, right.value], cursor := right.cursor }
  | .or first second, cursor => (evaluateWith first cursor).orElse (evaluateWith second cursor)
  | .next first second, cursor =>
      (evaluateWith first cursor).andThen fun left => evaluateWith second left.cursor
  | .skip first second, cursor =>
      (evaluateWith first cursor).andThen fun left =>
        (evaluateWith second left.cursor).andThen fun right =>
          .succeed { value := left.value, cursor := right.cursor }
  | .trim content trimmer, cursor =>
      (Trace.optional (evaluateWith trimmer) cursor).andThen fun start =>
        (evaluateWith content start).andThen fun reading =>
          (Trace.optional (evaluateWith trimmer) reading.cursor).andThen fun stop =>
            .succeed { value := reading.value, cursor := stop }
  | .sepBy item separator bounds, cursor =>
      evaluateSepBy idle (evaluateWith item) (evaluateWith separator) bounds cursor
  | .wrap before content none, cursor =>
      (evaluateWith before cursor).andThen fun opening => evaluateWith content opening.cursor
  | .wrap before content (some after), cursor =>
      (evaluateWith before cursor).andThen fun opening =>
        (evaluateWith content opening.cursor).andThen fun reading =>
          (evaluateWith after reading.cursor).andThen fun closing =>
            .succeed { value := reading.value, cursor := closing.cursor }
  | .all parsers, cursor =>
      (evaluateAll parsers cursor).andThen fun series =>
        .succeed { value := .array series.values, cursor := series.cursor }
  | .choice parsers, cursor => evaluateChoice parsers cursor
  | .repetition inner bounds, cursor =>
      (Trace.again (evaluateWith inner) bounds.max cursor).andThen fun series =>
        Trace.atLeast series bounds.min "repetitions"
  | .map inner transform, cursor =>
      (evaluateWith inner cursor).andThen fun reading =>
        .succeed { reading with value := transform.apply reading.value }
  | .label inner name, cursor => (evaluateWith inner cursor).labelled cursor.offset name

def evaluateAll : List Parser → Cursor → Trace Series
  | [], cursor => .succeed { values := [], cursor, failed := false }
  | parser :: rest, cursor =>
      (evaluateWith parser cursor).andThen fun reading =>
        (evaluateAll rest reading.cursor).andThen fun series =>
          .succeed (series.precededBy reading.value)

/-- The trace of parsers that are tried from the same place until one matches. -/
def evaluateChoice : List Parser → Cursor → Trace Reading
  | [], _ => .giveUp
  | parser :: rest, cursor => (evaluateWith parser cursor).orElse (evaluateChoice rest cursor)

end

end Evaluation

/-- A list that may take no item is too short if it should have items, as any other list. -/
def evaluate [Pattern.Engine] : Parser → Cursor → Trace Reading :=
  evaluateWith fun bounds cursor =>
    .atLeast { values := [], cursor, failed := false } bounds.min "items"

/-- A list that may take no item is empty, even if it should have items. -/
def evaluateLeniently [Pattern.Engine] : Parser → Cursor → Trace Reading :=
  evaluateWith fun _ cursor => .succeed { value := .array [], cursor }

/-! ## Lists that may take no item -/

/-- Each list inside that may take no item has bounds that suit. -/
def IdleLists (Suits : Bounds → Prop) (parser : Parser) : Prop :=
  ∀ item separator bounds, (sepBy item separator bounds).PartOf parser →
    bounds.max = some 0 → Suits bounds

theorem IdleLists.part
    {Suits : Bounds → Prop}
    {part parser : Parser}
    (lists : parser.IdleLists Suits)
    (inside : part.PartOf parser) :
    part.IdleLists Suits := by
  intro item separator bounds within
  exact lists item separator bounds (within.trans inside)

theorem IdleLists.component
    {Suits : Bounds → Prop}
    {component parser : Parser}
    (lists : parser.IdleLists Suits)
    (member : component ∈ parser.components) :
    component.IdleLists Suits :=
  lists.part (.inside member (.whole component))

/-- Each list inside that may take no item need not have any. -/
def Attainable (parser : Parser) : Prop :=
  parser.IdleLists fun bounds => bounds.min = 0

/-! ## Evaluations go onward -/

theorem onward_evaluateText (literal : String) (cursor : Cursor) :
    (evaluateText literal cursor).Onward Reading.stop cursor.offset := by
  rw [evaluateText]
  split_ifs with matched
  · exact Trace.onward_succeed (Nat.le_add_right _ _)
  · exact Trace.onward_fail (Nat.le_refl _) _

theorem onward_evaluatePattern [Pattern.Engine] (matcher : Pattern) (cursor : Cursor) :
    (evaluatePattern matcher cursor).Onward Reading.stop cursor.offset := by
  rw [evaluatePattern]
  split
  · exact Trace.onward_succeed (Nat.le_add_right _ _)
  · exact Trace.onward_fail (Nat.le_refl _) _

section Onward

variable {idle : Bounds → Cursor → Trace Reading}

theorem onward_evaluateSepBy
    (idleOnward : ∀ bounds cursor, (idle bounds cursor).Onward Reading.stop cursor.offset)
    {item separator : Cursor → Trace Reading}
    (items : ∀ cursor, (item cursor).Onward Reading.stop cursor.offset)
    (separators : ∀ cursor, (separator cursor).Onward Reading.stop cursor.offset)
    (bounds : Bounds)
    (cursor : Cursor) :
    (evaluateSepBy idle item separator bounds cursor).Onward Reading.stop cursor.offset := by
  rw [evaluateSepBy]
  by_cases no_item : bounds.max = some 0
  · rw [if_pos no_item]
    exact idleOnward bounds cursor
  · rw [if_neg no_item]
    apply (items cursor).attempt.andThen
    intro result _
    cases result with
    | none =>
        simp only
        split_ifs with none_needed
        · exact Trace.onward_succeed (Nat.le_refl _)
        · exact Trace.onward_giveUp
    | some first =>
        have further := Trace.Onward.separated items separators
        apply (Trace.Onward.again further _ first.cursor).andThen
        intro series _
        exact Trace.onward_atLeast (series.precededBy first.value) bounds.min "items"

variable [Pattern.Engine]

/-- From every place on, the parser fails and stops there or further on. -/
def GoesOnward (idle : Bounds → Cursor → Trace Reading) (parser : Parser) : Prop :=
  ∀ cursor, (evaluateWith idle parser cursor).Onward Reading.stop cursor.offset

variable {first second : Parser}

theorem goesOnward_combinePair
    (firsts : first.GoesOnward idle)
    (seconds : second.GoesOnward idle)
    (operator : PairOperator) :
    (operator.combine first second).GoesOnward idle := by
  intro cursor
  cases operator with
  | and =>
      exact Trace.Onward.both firsts seconds (fun left right => .array [left, right]) cursor
  | or =>
      exact (firsts cursor).orElse (seconds cursor)
  | next =>
      exact (firsts cursor).andThen fun left _ => seconds left.cursor
  | skip =>
      exact Trace.Onward.both firsts seconds (fun left _ => left) cursor
  | trim =>
      have trimmed := Trace.Onward.optional seconds
      refine (trimmed cursor).andThen fun start _ => ?_
      refine (firsts start).andThen fun reading _ => ?_
      refine (trimmed reading.cursor).andThen fun stop _ => ?_
      exact Trace.onward_succeed (Nat.le_refl _)

theorem goesOnward_wrap
    {after : Option Parser}
    (befores : first.GoesOnward idle)
    (contents : second.GoesOnward idle)
    (afters : ∀ closing ∈ after, closing.GoesOnward idle) :
    (wrap first second after).GoesOnward idle := by
  intro cursor
  cases after with
  | none =>
      exact (befores cursor).andThen fun opening _ => contents opening.cursor
  | some after =>
      refine (befores cursor).andThen fun opening _ => ?_
      exact Trace.Onward.both contents (afters after rfl) (fun value _ => value) opening.cursor

theorem onward_evaluateAll
    {parsers : List Parser}
    (all : ∀ parser ∈ parsers, parser.GoesOnward idle)
    (cursor : Cursor) :
    (evaluateAll idle parsers cursor).Onward Series.stop cursor.offset := by
  induction parsers generalizing cursor with
  | nil =>
      exact Trace.onward_succeed (Nat.le_refl _)
  | cons parser rest hypothesis =>
      rcases List.forall_mem_cons.1 all with ⟨heads, rests⟩
      refine (heads cursor).andThen fun reading _ => ?_
      refine (hypothesis rests reading.cursor).andThen fun series _ => ?_
      exact Trace.onward_succeed (Nat.le_refl _)

theorem onward_evaluateChoice
    {parsers : List Parser}
    (all : ∀ parser ∈ parsers, parser.GoesOnward idle)
    (cursor : Cursor) :
    (evaluateChoice idle parsers cursor).Onward Reading.stop cursor.offset := by
  induction parsers with
  | nil =>
      exact Trace.onward_giveUp
  | cons parser rest hypothesis =>
      rcases List.forall_mem_cons.1 all with ⟨heads, rests⟩
      exact (heads cursor).orElse (hypothesis rests)

theorem goesOnward_combineSeries
    {parsers : List Parser}
    (all : ∀ parser ∈ parsers, parser.GoesOnward idle)
    (operator : SeriesOperator) :
    (operator.combine parsers).GoesOnward idle := by
  intro cursor
  cases operator with
  | all =>
      refine (onward_evaluateAll all cursor).andThen fun series _ => ?_
      exact Trace.onward_succeed (Nat.le_refl _)
  | choice =>
      exact onward_evaluateChoice all cursor

/-- A parser fails and stops at the place where it starts or further on. -/
theorem onward_evaluateWith
    (idleOnward : ∀ bounds cursor, (idle bounds cursor).Onward Reading.stop cursor.offset)
    (parser : Parser) :
    parser.GoesOnward idle := by
  induction parser using induction_on_operations with
  | text literal =>
      intro cursor
      exact onward_evaluateText literal cursor
  | pattern matcher =>
      intro cursor
      exact onward_evaluatePattern matcher cursor
  | constant value =>
      intro cursor
      exact Trace.onward_succeed (Nat.le_refl _)
  | pair operator _ _ firsts seconds => exact goesOnward_combinePair firsts seconds operator
  | sepBy item separator bounds items separators =>
      intro cursor
      exact onward_evaluateSepBy idleOnward items separators bounds cursor
  | wrap _ _ _ befores contents afters => exact goesOnward_wrap befores contents afters
  | series operator _ all => exact goesOnward_combineSeries all operator
  | repetition inner bounds inners =>
      intro cursor
      refine (Trace.Onward.again inners bounds.max cursor).andThen fun series _ => ?_
      exact Trace.onward_atLeast series bounds.min "repetitions"
  | map inner transform inners =>
      intro cursor
      refine (inners cursor).andThen fun reading _ => ?_
      exact Trace.onward_succeed (Nat.le_refl _)
  | label inner name inners =>
      intro cursor
      exact (inners cursor).labelled name

end Onward

end ParserGraph.Parser

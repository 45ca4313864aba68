import ParserGraph.Node.Compile

/-!
# Components of parsers

A parser is put together from its components, and those and their components in turn
are its parts.  What each operation passes on from its components holds of every parser.
The operations on two parsers are one case here, and so are those on any number.

A change of parsers that goes on to the components may be made before nodes are combined
and decorated or behind.
-/

namespace ParserGraph.Parser

/-- The parsers that a parser is put together from. -/
def components : Parser → List Parser
  | .text _ => []
  | .pattern _ => []
  | .constant _ => []
  | .and first second => [first, second]
  | .or first second => [first, second]
  | .next first second => [first, second]
  | .skip first second => [first, second]
  | .trim content trimmer => [content, trimmer]
  | .sepBy item separator _ => [item, separator]
  | .wrap before content after => [before, content] ++ after.toList
  | .all parsers => parsers
  | .choice parsers => parsers
  | .repetition inner _ => [inner]
  | .map inner _ => [inner]
  | .label inner _ => [inner]

theorem sizeOf_lt_of_mem_components
    {component parser : Parser}
    (member : component ∈ parser.components) :
    sizeOf component < sizeOf parser := by
  cases parser with
  | text | pattern | constant => simp [components] at member
  | all parsers | choice parsers =>
      have smaller := List.sizeOf_lt_of_mem member
      simp only [components] at smaller
      simp only [all.sizeOf_spec, choice.sizeOf_spec]
      omega
  | wrap before content after =>
      simp only [components, List.mem_append, List.mem_cons, List.not_mem_nil, or_false,
        Option.mem_toList] at member
      rcases member with (rfl | rfl) | rfl <;>
        simp only [wrap.sizeOf_spec, Option.some.sizeOf_spec] <;> omega
  | and | or | next | skip | trim | sepBy =>
      simp only [components, List.mem_cons, List.not_mem_nil, or_false] at member
      rcases member with rfl | rfl <;> simp +arith
  | repetition | map | label =>
      simp only [components, List.mem_singleton] at member
      subst member
      simp +arith

/-- What holds of a parser if it holds of its components holds of every parser. -/
@[elab_as_elim]
theorem induction_on_components
    {motive : Parser → Prop}
    (put_together : ∀ parser : Parser,
      (∀ component ∈ parser.components, motive component) → motive parser)
    (parser : Parser) :
    motive parser :=
  put_together parser fun component _ => induction_on_components put_together component
termination_by sizeOf parser
decreasing_by
  rename_i member
  exact sizeOf_lt_of_mem_components member

@[simp]
theorem components_combinePair (operator : PairOperator) (first second : Parser) :
    (operator.combine first second).components = [first, second] := by
  cases operator <;> rfl

@[simp]
theorem components_combineSeries (operator : SeriesOperator) (parsers : List Parser) :
    (operator.combine parsers).components = parsers := by
  cases operator <;> rfl

/-- What each operation passes on from its components holds of every parser. -/
@[elab_as_elim]
theorem induction_on_operations
    {motive : Parser → Prop}
    (text : ∀ literal, motive (.text literal))
    (pattern : ∀ matcher, motive (.pattern matcher))
    (constant : ∀ value, motive (.constant value))
    (pair : ∀ (operator : PairOperator) first second,
      motive first → motive second → motive (operator.combine first second))
    (sepBy : ∀ item separator bounds,
      motive item → motive separator → motive (.sepBy item separator bounds))
    (wrap : ∀ before content after, motive before → motive content →
      (∀ closing ∈ after, motive closing) → motive (.wrap before content after))
    (series : ∀ (operator : SeriesOperator) parsers,
      (∀ parser ∈ parsers, motive parser) → motive (operator.combine parsers))
    (repetition : ∀ inner bounds, motive inner → motive (.repetition inner bounds))
    (map : ∀ inner transform, motive inner → motive (.map inner transform))
    (label : ∀ inner name, motive inner → motive (.label inner name))
    (parser : Parser) :
    motive parser := by
  induction parser using induction_on_components with
  | put_together parser inside =>
      have pairs : ∀ (operator : PairOperator) first second,
          parser = operator.combine first second → motive parser := by
        rintro operator first second rfl
        exact pair operator first second (inside first (by simp)) (inside second (by simp))
      cases parser with
      | text literal => exact text literal
      | pattern matcher => exact pattern matcher
      | constant value => exact constant value
      | and first second => exact pairs .and first second rfl
      | or first second => exact pairs .or first second rfl
      | next first second => exact pairs .next first second rfl
      | skip first second => exact pairs .skip first second rfl
      | trim content trimmer => exact pairs .trim content trimmer rfl
      | sepBy item separator bounds =>
          exact sepBy item separator bounds (inside item (by simp [components]))
            (inside separator (by simp [components]))
      | wrap before content after =>
          refine wrap before content after (inside before (by simp [components]))
            (inside content (by simp [components])) fun closing closes => ?_
          exact inside closing (by simp [components, Option.mem_def.1 closes])
      | all parsers => exact series .all parsers inside
      | choice parsers => exact series .choice parsers inside
      | repetition inner bounds =>
          exact repetition inner bounds (inside inner (by simp [components]))
      | map inner transform => exact map inner transform (inside inner (by simp [components]))
      | label inner name => exact label inner name (inside inner (by simp [components]))

/-! ## Changes of components -/

/-- The same operation, put together from other components. -/
def mapComponents (change : Parser → Parser) : Parser → Parser
  | .text literal => .text literal
  | .pattern matcher => .pattern matcher
  | .constant value => .constant value
  | .and first second => .and (change first) (change second)
  | .or first second => .or (change first) (change second)
  | .next first second => .next (change first) (change second)
  | .skip first second => .skip (change first) (change second)
  | .trim content trimmer => .trim (change content) (change trimmer)
  | .sepBy item separator bounds => .sepBy (change item) (change separator) bounds
  | .wrap before content after => .wrap (change before) (change content) (after.map change)
  | .all parsers => .all (parsers.map change)
  | .choice parsers => .choice (parsers.map change)
  | .repetition inner bounds => .repetition (change inner) bounds
  | .map inner transform => .map (change inner) transform
  | .label inner name => .label (change inner) name

theorem mapComponents_combinePair
    (change : Parser → Parser)
    (operator : PairOperator)
    (first second : Parser) :
    (operator.combine first second).mapComponents change =
      operator.combine (change first) (change second) := by
  cases operator <;> rfl

theorem mapComponents_combineSeries
    (change : Parser → Parser)
    (operator : SeriesOperator)
    (parsers : List Parser) :
    (operator.combine parsers).mapComponents change = operator.combine (parsers.map change) := by
  cases operator <;> rfl

/-- A change of parsers changes the components, but may do as it likes to values. -/
def ChangesInside (change : Parser → Parser) : Prop :=
  ∀ parser : Parser, (∀ value, parser ≠ .constant value) →
    (∀ inner transform, parser ≠ .map inner transform) →
      change parser = parser.mapComponents change

namespace ChangesInside

variable {change : Parser → Parser}

theorem combinePair
    (inside : ChangesInside change)
    (operator : PairOperator)
    (first second : Parser) :
    change (operator.combine first second) = operator.combine (change first) (change second) := by
  rw [← mapComponents_combinePair]
  cases operator <;>
    exact inside _ (by simp [PairOperator.combine]) (by simp [PairOperator.combine])

theorem combineSeries
    (inside : ChangesInside change)
    (operator : SeriesOperator)
    (parsers : List Parser) :
    change (operator.combine parsers) = operator.combine (parsers.map change) := by
  rw [← mapComponents_combineSeries]
  cases operator <;>
    exact inside _ (by simp [SeriesOperator.combine]) (by simp [SeriesOperator.combine])

/-- To combine changed parsers is to change what is combined, unless that is a constant. -/
theorem combine
    (inside : ChangesInside change)
    {kind : Kind}
    (other : ∀ value, kind ≠ .constant value)
    (children : List Parser) :
    kind.combine (children.map change) = (kind.combine children).map change := by
  cases kind with
  | text literal => exact congrArg Except.ok (inside (.text literal) (by simp) (by simp)).symm
  | constant value => exact absurd rfl (other value)
  | pattern source expected =>
      simp only [Kind.combine, Kind.combinePattern]
      cases Pattern.ofSource? source expected with
      | none => rfl
      | some matcher =>
          exact congrArg Except.ok (inside (.pattern matcher) (by simp) (by simp)).symm
  | pair operator =>
      rcases children with _ | ⟨first, _ | ⟨second, rest⟩⟩
      · rfl
      · rfl
      · exact congrArg Except.ok (inside.combinePair operator first second).symm
  | sepBy bounds =>
      rcases children with _ | ⟨item, _ | ⟨separator, rest⟩⟩
      · rfl
      · rfl
      · exact congrArg Except.ok (inside (.sepBy item separator bounds) (by simp) (by simp)).symm
  | wrap =>
      rcases children with _ | ⟨content, _ | ⟨before, _ | ⟨after, rest⟩⟩⟩
      · rfl
      · rfl
      · exact congrArg Except.ok (inside (.wrap before content none) (by simp) (by simp)).symm
      · have changed := inside (.wrap before content (some after)) (by simp) (by simp)
        exact congrArg Except.ok changed.symm
  | series operator =>
      cases children with
      | nil => rfl
      | cons first rest =>
          exact congrArg Except.ok (inside.combineSeries operator (first :: rest)).symm

/-- A decorated parser is changed in its base and in the transform that decorates it. -/
theorem apply
    (inside : ChangesInside change)
    {convert : Transform → Transform}
    (transforms : ∀ inner transform,
      change (.map inner transform) = .map (change inner) (convert transform))
    (decoration : Decoration)
    (base : Parser) :
    change (decoration.apply base) =
      Decoration.apply { decoration with transform := decoration.transform.map convert }
        (change base) := by
  have labelled : ∀ name, change (.label base name) = .label (change base) name :=
    fun name => inside (.label base name) (by simp) (by simp)
  have repeated : ∀ inner bounds,
      change (.repetition inner bounds) = .repetition (change inner) bounds :=
    fun inner bounds => inside (.repetition inner bounds) (by simp) (by simp)
  rcases decoration with ⟨_ | name, _ | transform, repetition⟩ <;>
    by_cases configured : repetition.isConfigured = true <;>
      simp [Decoration.apply, configured, labelled, repeated, transforms]

end ChangesInside

/-! ## Parts -/

/-- A parser is part of itself, and its components have their parts in it. -/
inductive PartOf : Parser → Parser → Prop where
  | whole (parser : Parser) : PartOf parser parser
  | inside {part component parser : Parser} :
      component ∈ parser.components → PartOf part component → PartOf part parser

theorem PartOf.trans {part inner parser : Parser} (within : part.PartOf inner)
    (inside : inner.PartOf parser) : part.PartOf parser := by
  induction inside with
  | whole => exact within
  | inside member _ hypothesis => exact .inside member hypothesis

end ParserGraph.Parser

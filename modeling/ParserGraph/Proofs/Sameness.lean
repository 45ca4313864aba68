import ParserGraph.Proofs.Parser.Components

/-!
# Sameness

The program compares numbers, values, parsers and kinds by a test of its own, which
takes both zeros of the doubles as equal and knows transforms by their identities only.
Here every value, parser and kind gets a canonical form, in which no zero has a sign
and all transforms do the same.  Two of them are the same for the program exactly if
their canonical forms are equal, so sameness is an equivalence.

Combining and decorating commute with canonical forms.  Nodes that are combined
from the same parsers therefore have the same parser.
-/

namespace ParserGraph

/-! ## Numbers and values -/

namespace Decimal.Binary64

/-- The number itself, but a zero without its sign. -/
def canonical (number : Binary64) : Binary64 :=
  if number.rank = 0 then zero else number

theorem sameNumber_iff {first second : Binary64} :
    first.sameNumber second = true ↔ first.canonical = second.canonical := by
  rcases first with ⟨firstNegative, firstRank, firstFinite⟩
  rcases second with ⟨secondNegative, secondRank, secondFinite⟩
  by_cases firstZero : firstRank = 0 <;> by_cases secondZero : secondRank = 0 <;>
    simp only [sameNumber, canonical, zero, firstZero, secondZero, if_true, if_false] <;> grind

end Decimal.Binary64

namespace Number

/-- The number itself, but a zero of the doubles without its sign. -/
def canonical : Number → Number
  | .integer value inRange => .integer value inRange
  | .float value => .float value.canonical

theorem same_iff {first second : Number} :
    first.same second = true ↔ first.canonical = second.canonical := by
  cases first <;> cases second <;>
    simp [same, canonical, Decimal.Binary64.sameNumber_iff]

end Number

namespace Value

mutual

/-- The value with all its numbers in canonical form. -/
def canonical : Value → Value
  | .number content => .number content.canonical
  | .array items => .array (canonicalItems items)
  | .object fields => .object (canonicalFields fields)
  | value => value

def canonicalItems : List Value → List Value
  | [] => []
  | item :: rest => canonical item :: canonicalItems rest

def canonicalFields : List (String × Value) → List (String × Value)
  | [] => []
  | (key, value) :: rest => (key, canonical value) :: canonicalFields rest

end

mutual

/-- Values are the same exactly if their canonical forms are equal. -/
theorem same_iff : (first second : Value) →
    (first.same second = true ↔ first.canonical = second.canonical)
  | first, second => by
    cases first with
    | array items =>
        cases second with
        | array others => simpa [same, canonical] using sameItems_iff items others
        | _ => simp [same, canonical]
    | object fields =>
        cases second with
        | object others => simpa [same, canonical] using sameFields_iff fields others
        | _ => simp [same, canonical]
    | number content => cases second <;> simp [same, canonical, Number.same_iff]
    | _ => cases second <;> simp [same, canonical]

theorem sameItems_iff : (first second : List Value) →
    (sameItems first second = true ↔ canonicalItems first = canonicalItems second)
  | [], [] => by simp [sameItems, canonicalItems]
  | [], _ :: _ => by simp [sameItems, canonicalItems]
  | _ :: _, [] => by simp [sameItems, canonicalItems]
  | first :: firstRest, second :: secondRest => by
      simp [sameItems, canonicalItems, same_iff first second,
        sameItems_iff firstRest secondRest]

theorem sameFields_iff : (first second : List (String × Value)) →
    (sameFields first second = true ↔ canonicalFields first = canonicalFields second)
  | [], [] => by simp [sameFields, canonicalFields]
  | [], _ :: _ => by simp [sameFields, canonicalFields]
  | _ :: _, [] => by simp [sameFields, canonicalFields]
  | (firstKey, first) :: firstRest, (secondKey, second) :: secondRest => by
      simp [sameFields, canonicalFields, same_iff first second,
        sameFields_iff firstRest secondRest, and_assoc]

end

end Value

/-! ## Parsers -/

namespace Transform

/-- A transform that does nothing, with the identity of the given one. -/
def canonical (transform : Transform) : Transform :=
  { transform with conversion := { name := "", apply := id } }

theorem same_iff {first second : Transform} :
    first.same second = true ↔ first.canonical = second.canonical := by
  simp [same, canonical]

end Transform

namespace Parser

mutual

/-- The parser with all its values and transforms in canonical form. -/
def canonical : Parser → Parser
  | .text literal => .text literal
  | .pattern matcher => .pattern matcher
  | .constant value => .constant value.canonical
  | .and first second => .and (canonical first) (canonical second)
  | .or first second => .or (canonical first) (canonical second)
  | .next first second => .next (canonical first) (canonical second)
  | .skip first second => .skip (canonical first) (canonical second)
  | .trim content trimmer => .trim (canonical content) (canonical trimmer)
  | .sepBy item separator bounds => .sepBy (canonical item) (canonical separator) bounds
  | .wrap before content none => .wrap (canonical before) (canonical content) none
  | .wrap before content (some after) =>
      .wrap (canonical before) (canonical content) (some (canonical after))
  | .all parsers => .all (canonicalList parsers)
  | .choice parsers => .choice (canonicalList parsers)
  | .repetition inner bounds => .repetition (canonical inner) bounds
  | .map inner transform => .map (canonical inner) transform.canonical
  | .label inner name => .label (canonical inner) name

def canonicalList : List Parser → List Parser
  | [] => []
  | parser :: rest => canonical parser :: canonicalList rest

end

@[simp]
theorem canonicalList_eq_map (parsers : List Parser) :
    canonicalList parsers = parsers.map canonical := by
  induction parsers with
  | nil => rfl
  | cons parser rest hypothesis => simp [canonicalList, hypothesis]

theorem canonical_wrap (before content : Parser) (after : Option Parser) :
    (Parser.wrap before content after).canonical =
      .wrap before.canonical content.canonical (after.map canonical) := by
  cases after <;> rfl

/-- Values and transforms have canonical forms of their own, and all else is changed inside. -/
theorem changesInside_canonical : ChangesInside canonical := by
  intro parser unfixed untransformed
  cases parser with
  | constant value => exact absurd rfl (unfixed value)
  | map inner transform => exact absurd rfl (untransformed inner transform)
  | wrap before content after => exact canonical_wrap before content after
  | all parsers => exact congrArg Parser.all (canonicalList_eq_map parsers)
  | choice parsers => exact congrArg Parser.choice (canonicalList_eq_map parsers)
  | _ => rfl

/-! ### What is the same as an operation, or has its canonical form -/

theorem same_combinePair_iff
    {operator : PairOperator}
    {first second whole : Parser} :
    (operator.combine first second).same whole = true ↔
      ∃ other another, whole = operator.combine other another ∧
        first.same other = true ∧ second.same another = true := by
  cases operator <;> cases whole <;> simp [PairOperator.combine, same, and_assoc]

theorem combinePair_eq_canonical_iff
    {operator : PairOperator}
    {first second whole : Parser} :
    operator.combine first second = whole.canonical ↔
      ∃ other another, whole = operator.combine other another ∧
        first = other.canonical ∧ second = another.canonical := by
  cases operator <;> cases whole <;>
    simp [PairOperator.combine, canonical, canonical_wrap, and_assoc]

theorem same_combineSeries_iff
    {operator : SeriesOperator}
    {parsers : List Parser}
    {whole : Parser} :
    (operator.combine parsers).same whole = true ↔
      ∃ others, whole = operator.combine others ∧ sameList parsers others = true := by
  cases operator <;> cases whole <;> simp [SeriesOperator.combine, same]

theorem combineSeries_eq_canonical_iff
    {operator : SeriesOperator}
    {parsers : List Parser}
    {whole : Parser} :
    operator.combine parsers = whole.canonical ↔
      ∃ others, whole = operator.combine others ∧ parsers = others.map canonical := by
  cases operator <;> cases whole <;> simp [SeriesOperator.combine, canonical, canonical_wrap]

theorem sameList_iff
    {parsers : List Parser}
    (all : ∀ parser ∈ parsers, ∀ other : Parser,
      parser.same other = true ↔ parser.canonical = other.canonical)
    (others : List Parser) :
    sameList parsers others = true ↔ parsers.map canonical = others.map canonical := by
  induction parsers generalizing others with
  | nil => cases others <;> simp [sameList]
  | cons parser rest hypothesis =>
      rcases List.forall_mem_cons.1 all with ⟨heads, rests⟩
      cases others <;> simp [sameList, heads, hypothesis rests]

/-- Parsers are the same exactly if their canonical forms are equal. -/
theorem same_iff (first second : Parser) :
    first.same second = true ↔ first.canonical = second.canonical := by
  induction first using induction_on_operations generalizing second with
  | text | pattern =>
      cases second <;> simp [same, canonical, canonical_wrap]
  | constant =>
      cases second <;> simp [same, canonical, canonical_wrap, Value.same_iff]
  | pair operator _ _ firsts seconds =>
      rw [same_combinePair_iff, changesInside_canonical.combinePair, combinePair_eq_canonical_iff]
      simp only [firsts, seconds]
  | sepBy _ _ _ items separators =>
      cases second <;>
        simp [same, canonical, canonical_wrap, items, separators, and_assoc]
  | wrap _ _ after befores contents afters =>
      cases second with
      | wrap before content closing =>
          cases after <;> cases closing <;>
            simp_all [same, canonical_wrap, and_assoc]
      | _ => cases after <;> simp [same, canonical]
  | series operator _ all =>
      rw [same_combineSeries_iff, changesInside_canonical.combineSeries,
        combineSeries_eq_canonical_iff]
      simp only [sameList_iff all]
  | repetition _ _ inners =>
      cases second <;> simp [same, canonical, canonical_wrap, inners]
  | map _ _ inners =>
      cases second <;> simp [same, canonical, canonical_wrap, inners, Transform.same_iff]
  | label _ _ inners =>
      cases second <;> simp [same, canonical, canonical_wrap, inners]

@[simp]
theorem same_self (parser : Parser) : parser.same parser = true :=
  (same_iff parser parser).2 rfl

end Parser

/-! ## Decorating and combining -/

/-- The decoration with its transform in canonical form. -/
def Decoration.canonical (decoration : Decoration) : Decoration :=
  { decoration with transform := decoration.transform.map Transform.canonical }

/-- A decorated parser in canonical form is the canonical form with the canonical decoration. -/
theorem Decoration.canonical_apply (decoration : Decoration) (base : Parser) :
    (decoration.apply base).canonical = decoration.canonical.apply base.canonical :=
  Parser.changesInside_canonical.apply (fun _ _ => rfl) decoration base

namespace Kind

/-- The kind with the value that it holds in canonical form. -/
def canonical : Kind → Kind
  | .constant value => .constant value.canonical
  | kind => kind

/-- Kinds are the same exactly if their canonical forms are equal. -/
theorem same_iff {first second : Kind} :
    first.same second = true ↔ first.canonical = second.canonical := by
  cases first <;> cases second <;> simp [same, canonical, Value.same_iff]

/-- Without a value inside, kinds are the same only if they are equal. -/
theorem eq_of_same
    {first second : Kind}
    (combinator : second.isLeaf = false)
    (alike : first.same second = true) :
    first = second := by
  have equal := same_iff.1 alike
  cases second <;> simp [isLeaf] at combinator <;>
    cases first <;> simp_all [canonical]

/-- Combining commutes with canonical forms. -/
theorem combine_canonical (kind : Kind) (children : List Parser) :
    kind.canonical.combine (children.map Parser.canonical) =
      (kind.combine children).map Parser.canonical := by
  cases kind with
  | constant value => rfl
  | _ => exact Parser.changesInside_canonical.combine (by simp [canonical]) children

/-- A leaf does not look at children. -/
theorem combine_of_isLeaf
    {kind : Kind}
    (leaf : kind.isLeaf = true)
    (children : List Parser) :
    kind.combine children = kind.combine [] := by
  cases kind <;> simp [isLeaf] at leaf <;> rfl

/-- A combinator has nothing to combine without children. -/
theorem combine_nil
    {kind : Kind}
    (combinator : kind.isLeaf = false) :
    kind.combine [] = .error (.incompleteCombinator kind.tag) := by
  cases kind <;> simp [isLeaf] at combinator <;> rfl

/-- A combinator combines any children there are. -/
theorem combine_cons
    {kind : Kind}
    (combinator : kind.isLeaf = false)
    (first : Parser)
    (rest : List Parser) :
    ∃ base, kind.combine (first :: rest) = .ok base := by
  cases kind <;> simp [isLeaf] at combinator
  case pair operator => cases rest <;> exact ⟨_, rfl⟩
  case sepBy bounds => cases rest <;> exact ⟨_, rfl⟩
  case wrap => rcases rest with _ | ⟨second, _ | ⟨third, rest⟩⟩ <;> exact ⟨_, rfl⟩
  case series operator => exact ⟨_, rfl⟩

/-- A leaf fails to combine only as a pattern with a source that is none. -/
theorem combine_nil_of_isLeaf
    {kind : Kind}
    (leaf : kind.isLeaf = true) :
    (∃ base, kind.combine [] = .ok base) ∨
      ∃ source expected, kind = .pattern source expected ∧
        Pattern.ofSource? source expected = none ∧
        kind.combine [] = .error (.invalidPattern source) := by
  cases kind <;> simp [isLeaf] at leaf
  case text literal => exact Or.inl ⟨_, rfl⟩
  case constant value => exact Or.inl ⟨_, rfl⟩
  case pattern source expected =>
    simp only [combine, combinePattern]
    cases found : Pattern.ofSource? source expected with
    | some matcher => exact Or.inl ⟨_, rfl⟩
    | none => exact Or.inr ⟨source, expected, rfl, found, rfl⟩

end Kind

end ParserGraph

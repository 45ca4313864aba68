import ParserGraph.Node.Compile
import ParserGraph.Proofs.Parser.Congruence

/-!
# Surroundings

A surrounding is a parser with a place left open, given by the operations around that
place.  In every surrounding, parsers that agree are put together to parsers that agree,
so parsers whose evaluations are equal can be exchanged for each other anywhere.
-/

namespace ParserGraph.Parser

/-- An operation around a place, with all that it is put together from besides. -/
inductive Layer where
  | inFirst (operator : PairOperator) (second : Parser)
  | inSecond (operator : PairOperator) (first : Parser)
  | inItem (separator : Parser) (bounds : Bounds)
  | inSeparator (item : Parser) (bounds : Bounds)
  | inBefore (content : Parser) (after : Option Parser)
  | inContent (before : Parser) (after : Option Parser)
  | inAfter (before content : Parser)
  /-- The place lies between some parsers in front of it and some behind it. -/
  | inSeries (operator : SeriesOperator) (front back : List Parser)
  | inRepetition (bounds : Bounds)
  | inMap (transform : Transform)
  | inLabel (name : String)

/-- The operation with a parser at its place. -/
def Layer.fill (parser : Parser) : Layer → Parser
  | inFirst operator second => operator.combine parser second
  | inSecond operator first => operator.combine first parser
  | inItem separator bounds => .sepBy parser separator bounds
  | inSeparator item bounds => .sepBy item parser bounds
  | inBefore content after => .wrap parser content after
  | inContent before after => .wrap before parser after
  | inAfter before content => .wrap before content (some parser)
  | inSeries operator front back => operator.combine (front ++ parser :: back)
  | inRepetition bounds => .repetition parser bounds
  | inMap transform => .map parser transform
  | inLabel name => .label parser name

/-- The operations around a place, the outermost one first. -/
abbrev Surrounding := List Layer

def Surrounding.fill (parser : Parser) (surrounding : Surrounding) : Parser :=
  surrounding.foldr (fun layer inner => layer.fill inner) parser

section Agreement

variable [Pattern.Engine]
variable {values : Value → Value → Prop} {failures : List FailureEvent → List FailureEvent → Prop}
variable (congruence : Value.Congruence values) (comparison : FailureEvent.Comparison failures)
variable {first second other another : Parser}

include congruence comparison

theorem Agrees.fillLayer
    (converts : ∀ (transform : Transform) value otherValue, values value otherValue →
      values (transform.apply value) (transform.apply otherValue))
    (agrees : first.Agrees values failures second)
    (layer : Layer) :
    (layer.fill first).Agrees values failures (layer.fill second) := by
  have stays : ∀ parser : Parser, parser.Agrees values failures parser :=
    .refl congruence comparison
  have all_stay : ∀ parsers : List Parser,
      List.Forall₂ (Parser.Agrees values failures) parsers parsers :=
    fun parsers => List.forall₂_same.2 fun parser _ => stays parser
  cases layer with
  | inFirst operator beside =>
      exact agrees.combinePair congruence comparison (stays beside) operator
  | inSecond operator beside =>
      exact (stays beside).combinePair congruence comparison agrees operator
  | inItem separator bounds =>
      exact .sepBy congruence comparison agrees (stays separator) bounds
  | inSeparator item bounds =>
      exact .sepBy congruence comparison (stays item) agrees bounds
  | inBefore content after =>
      cases after with
      | none => exact .wrap comparison agrees (stays content)
      | some after => exact .wrapAfter comparison agrees (stays content) (stays after)
  | inContent before after =>
      cases after with
      | none => exact .wrap comparison (stays before) agrees
      | some after => exact .wrapAfter comparison (stays before) agrees (stays after)
  | inAfter before content => exact .wrapAfter comparison (stays before) (stays content) agrees
  | inSeries operator front back =>
      exact .combineSeries congruence comparison (List.rel_append (all_stay front)
        (.cons agrees (all_stay back))) operator
  | inRepetition bounds => exact .repetition congruence comparison agrees bounds
  | inMap transform => exact .map comparison agrees (converts transform)
  | inLabel name => exact .label comparison agrees name

/-- In every surrounding, parsers agree by a relation on values that transforms keep. -/
theorem Agrees.fillRelated
    (converts : ∀ (transform : Transform) value otherValue, values value otherValue →
      values (transform.apply value) (transform.apply otherValue))
    (agrees : first.Agrees values failures second)
    (surrounding : Surrounding) :
    (surrounding.fill first).Agrees values failures (surrounding.fill second) := by
  induction surrounding with
  | nil => exact agrees
  | cons layer rest hypothesis =>
      exact hypothesis.fillLayer congruence comparison converts layer

omit congruence in
/-- Parsers that agree may be exchanged for each other in every surrounding. -/
theorem Agrees.fill
    (agrees : first.Agrees (· = ·) failures second)
    (surrounding : Surrounding) :
    (surrounding.fill first).Agrees (· = ·) failures (surrounding.fill second) :=
  agrees.fillRelated Value.congruence_eq comparison
    (fun transform _ _ => congrArg transform.apply) surrounding

end Agreement

end ParserGraph.Parser

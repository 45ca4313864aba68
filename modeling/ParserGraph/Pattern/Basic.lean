import ParserGraph.Pattern.Automaton
import ParserGraph.Pattern.Footprint
import ParserGraph.Pattern.Meaning
import ParserGraph.Pattern.Reader

/-!
# Patterns

A pattern matches text at the start of what is left of an input.  Its source is
put behind a start anchor and into a group as text, so that a source which closes
that group early has branches without the anchor.  Parsers run with any way to search
for patterns; the automata that patterns are compiled to are one.
-/

namespace ParserGraph

namespace Pattern

def anchoredText (source : String) : String :=
  "^(?:" ++ source ++ ")"

/-- The expression of a source, if it is a pattern that is not too large. -/
def expressionOf? (source : String) : Option Expression := do
  let phrase ← Phrase.read? (anchoredText source).toList
  let (expression, _) ← phrase.expression? {}
  if expression.fits then some expression else none

/-- The automaton of a source, if it is a pattern. -/
def automatonOf? (source : String) : Option Automaton :=
  (expressionOf? source).map Automaton.ofExpression

end Pattern

/-- A pattern, ready to match. -/
structure Pattern where
  /-- The text of the pattern. -/
  source : String
  /-- What a failure to match names instead of the source. -/
  expected : Option String
  /-- What the source is compiled to. -/
  automaton : Pattern.Automaton
  compiled : Pattern.automatonOf? source = some automaton

namespace Pattern

/-- The pattern of a source, if it is one. -/
def ofSource? (source : String) (expected : Option String) : Option Pattern :=
  match compiled : automatonOf? source with
  | some automaton => some { source, expected, automaton, compiled }
  | none => none

/-- Patterns are the same if they have the same source and name the same in failures. -/
theorem ext_source
    {first second : Pattern}
    (sources : first.source = second.source)
    (expectations : first.expected = second.expected) :
    first = second := by
  obtain ⟨source, expected, automaton, compiled⟩ := first
  obtain ⟨_, _, other, otherCompiled⟩ := second
  cases sources
  cases expectations
  have same : some automaton = some other := compiled.symm.trans otherCompiled
  cases same
  rfl

instance : DecidableEq Pattern := fun first second =>
  if same : first.source = second.source ∧ first.expected = second.expected then
    isTrue (ext_source same.1 same.2)
  else
    isFalse fun equality => same (by rw [equality]; exact ⟨rfl, rfl⟩)

/-- What a failure to match names: the given name, or the source between slashes. -/
def label (pattern : Pattern) : String :=
  pattern.expected.getD ("/" ++ pattern.source ++ "/")

/-- A match in text: what stands in front of it, its own text, and what stands behind it. -/
structure Match where
  skipped : List Char
  matched : List Char
  rest : List Char
deriving DecidableEq, Repr

/-- The first match that the automaton of the pattern finds. -/
def find? (pattern : Pattern) (characters : List Char) : Option Match :=
  (pattern.automaton.search none 0 characters).map fun (skipped, length) =>
    { skipped := characters.take skipped
      matched := (characters.drop skipped).take length
      rest := (characters.drop skipped).drop length }

/-- A match and what stands around it are the whole text. -/
theorem find?_append
    {pattern : Pattern}
    {characters : List Char}
    {found : Match}
    (matched : pattern.find? characters = some found) :
    found.skipped ++ (found.matched ++ found.rest) = characters := by
  unfold find? at matched
  obtain ⟨place, _, equality⟩ := Option.map_eq_some_iff.1 matched
  subst equality
  simp only [List.take_append_drop]

/--
A way to search texts for patterns.  It may find whatever it takes for the first match:
all that parsers need is that a match and what stands around it are the whole text.
-/
class Engine where
  search? : Pattern → List Char → Option Match
  search?_append : ∀ {pattern : Pattern} {characters : List Char} {found : Match},
    search? pattern characters = some found →
      found.skipped ++ (found.matched ++ found.rest) = characters

/-- Texts are searched by the automata that patterns are compiled to. -/
instance automata : Engine where
  search? := find?
  search?_append := find?_append

end Pattern

end ParserGraph

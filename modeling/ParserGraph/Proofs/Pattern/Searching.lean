import Mathlib.Tactic.SplitIfs
import ParserGraph.Pattern.Basic

/-!
# Where a search finds a match

A search tries one place of a text after the other and takes the first one from which its
automaton matches.  So it finds matches at the start alone exactly if, wherever a text is
matched, it is matched from its start as well.  An automaton whose first instruction asks
for the start of text has no other matches anyway.
-/

namespace ParserGraph.Pattern

namespace Automaton

/-- From a place on, with a character in front of it or none, there is a match. -/
def MatchesFrom (automaton : Automaton) (before : Option Char) (rest : List Char) : Prop :=
  (automaton.matchFrom [0] before 0 none rest).isSome

/-- The character in front of a place, behind some characters with one in front of them. -/
def before (first : Option Char) (front : List Char) : Option Char :=
  front.getLast?.or first

theorem before_cons (first : Option Char) (character : Char) (front : List Char) :
    before first (character :: front) = before (some character) front := by
  cases front with
  | nil => rfl
  | cons other rest => simp [before, List.getLast?_cons]

section Search

variable {automaton : Automaton} {first : Option Char}

/-- At the place that a search finds there is a match. -/
theorem exists_matchesFrom_of_search
    {skipped place length : Nat}
    {text : List Char}
    (found : automaton.search first skipped text = some (place, length)) :
    ∃ front rest, front ++ rest = text ∧ place = skipped + front.length ∧
      automaton.MatchesFrom (before first front) rest := by
  induction text generalizing first skipped with
  | nil =>
      rw [search] at found
      rcases Option.map_eq_some_iff.1 found with ⟨_, matched, places⟩
      cases places
      exact ⟨[], [], rfl, rfl, Option.isSome_of_eq_some matched⟩
  | cons character rest hypothesis =>
      rw [search] at found
      cases matched : automaton.matchFrom [0] first 0 none (character :: rest) with
      | some longest =>
          rw [matched] at found
          cases found
          exact ⟨[], _, rfl, rfl, Option.isSome_of_eq_some matched⟩
      | none =>
          rw [matched] at found
          rcases hypothesis found with ⟨front, back, rfl, rfl, matches_further⟩
          refine ⟨character :: front, back, rfl, ?_, before_cons first character front ▸
            matches_further⟩
          rw [List.length_cons]
          omega

/-- Where there is a match from some place on, a search finds one. -/
theorem isSome_search_of_matchesFrom
    {front rest : List Char}
    (there : automaton.MatchesFrom (before first front) rest)
    (skipped : Nat) :
    (automaton.search first skipped (front ++ rest)).isSome := by
  induction front generalizing first skipped with
  | nil =>
      cases rest with
      | nil =>
          rw [List.nil_append, search, Option.isSome_map]
          exact there
      | cons character rest =>
          rcases Option.isSome_iff_exists.1 there with ⟨length, matched⟩
          rw [List.nil_append, search, show automaton.matchFrom [0] first 0 none _ = _ from matched]
          rfl
  | cons character front hypothesis =>
      rw [before_cons] at there
      rw [List.cons_append, search]
      split
      · rfl
      · exact hypothesis there (skipped + 1)

/-- A match from the start on is the one that a search finds. -/
theorem search_of_matchesFrom
    {text : List Char}
    (there : automaton.MatchesFrom first text)
    (skipped : Nat) :
    ∃ length, automaton.search first skipped text = some (skipped, length) := by
  rcases Option.isSome_iff_exists.1 there with ⟨length, matched⟩
  refine ⟨length, ?_⟩
  cases text with
  | nil => rw [search, matched, Option.map_some]
  | cons character rest => rw [search, matched]

end Search

/-- The first instruction asks for the start of text. -/
def AsksForStart (automaton : Automaton) : Prop :=
  automaton.instructions[0]? = some (.check .textStart)

/-- Behind a character nothing waits, as the first instruction does not let anything through. -/
theorem AsksForStart.waitingAt_eq_nil
    {automaton : Automaton}
    (asks : automaton.AsksForStart)
    (character : Char)
    (after : Option Char) :
    automaton.waitingAt (some character) after [0] = [] := by
  rw [AsksForStart] at asks
  simp [waitingAt, reach, asks, Look.holds]

theorem AsksForStart.not_matchesFrom
    {automaton : Automaton}
    (asks : automaton.AsksForStart)
    (character : Char)
    (rest : List Char) :
    ¬ automaton.MatchesFrom (some character) rest := by
  cases rest with
  | nil => simp [MatchesFrom, matchFrom, asks.waitingAt_eq_nil, turn]
  | cons next rest => simp [MatchesFrom, matchFrom, asks.waitingAt_eq_nil, turn]

end Automaton

/-- The pattern matches what is left of a text behind some of its characters. -/
def MatchesBehind (matcher : Pattern) (front rest : List Char) : Prop :=
  matcher.automaton.MatchesFrom front.getLast? rest

/-- All matches of the pattern start where the text starts. -/
def IsAnchored (matcher : Pattern) : Prop :=
  ∀ text found, matcher.find? text = some found → found.skipped = []

/-- What stands in front of a match that is found is where the pattern does match. -/
theorem matchesBehind_of_find?
    {matcher : Pattern}
    {text : List Char}
    {found : Match}
    (matched : matcher.find? text = some found) :
    matcher.MatchesBehind found.skipped (found.matched ++ found.rest) := by
  rcases Option.map_eq_some_iff.1 matched with ⟨⟨place, length⟩, searched, rfl⟩
  rcases Automaton.exists_matchesFrom_of_search searched with
    ⟨front, rest, rfl, reached, there⟩
  simp only [reached, Nat.zero_add, List.take_left, List.drop_left, List.take_append_drop]
  rw [MatchesBehind, ← Option.or_none (o := front.getLast?)]
  exact there

/-- A pattern is anchored exactly if each text that it matches somewhere is matched at its start. -/
theorem isAnchored_iff_matchesBehind (matcher : Pattern) :
    matcher.IsAnchored ↔
      ∀ front rest, matcher.MatchesBehind front rest →
        matcher.MatchesBehind [] (front ++ rest) := by
  constructor
  · intro anchored front rest there
    rw [MatchesBehind, ← Option.or_none (o := front.getLast?)] at there
    have searched := Automaton.isSome_search_of_matchesFrom there 0
    have isFound : (matcher.find? (front ++ rest)).isSome := by rwa [find?, Option.isSome_map]
    rcases Option.isSome_iff_exists.1 isFound with ⟨found, matched⟩
    have behind := matchesBehind_of_find? matched
    have whole := find?_append matched
    rw [anchored _ found matched] at behind whole
    rwa [← whole]
  · intro at_start text found matched
    have there : matcher.automaton.MatchesFrom none text := by
      rw [← find?_append matched]
      exact at_start _ _ (matchesBehind_of_find? matched)
    rcases Automaton.search_of_matchesFrom there 0 with ⟨length, searched⟩
    have place : matcher.find? text = some
        { skipped := []
          matched := text.take length
          rest := text.drop length } := by
      rw [find?, searched]
      rfl
    rw [place] at matched
    cases matched
    rfl

end ParserGraph.Pattern

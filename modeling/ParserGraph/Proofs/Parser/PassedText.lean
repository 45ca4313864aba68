import ParserGraph.Proofs.Parser.Lossless

/-!
# Patterns and the text that they pass over

A pattern that is read passes over all text up to the end of its match, and gives the match
alone.  The two are the same as long as matches start where the pattern is read, which a
source can prevent by closing the group around it and going on with a further branch.
-/

namespace ParserGraph

/-- Wherever the pattern is read, its value is the text that it passes over. -/
def Pattern.GivesPassedText (matcher : Pattern) : Prop :=
  ∀ (input : String) (start : Nat) (before after : FailureRecord) (reading : Reading),
    Text.IsBoundary input.toList start →
      Parser.scan (.pattern matcher) (.ofOffset input.toList start) before =
        (some reading, after) →
        ∃ text, Text.slice? input.toList start reading.cursor.offset = some text ∧
          reading.value = .text (String.ofList text)

namespace Parser

variable {matcher : Pattern}

theorem givesPassedText_iff_isAnchored : matcher.GivesPassedText ↔ matcher.IsAnchored := by
  constructor
  · intro gives text found matched
    have rest : (Cursor.ofOffset (String.ofList text).toList 0).rest = text := by
      rw [String.toList_ofList]
      exact congrArg Cursor.rest (Cursor.ofOffset_append [] text)
    have isRead : ((pattern matcher).reads? (.ofOffset (String.ofList text).toList 0)).isSome := by
      rw [reads?_pattern, rest, show Pattern.Engine.search? matcher text = _ from matched]
      rfl
    rcases Option.isSome_iff_exists.1 isRead with ⟨reading, reads⟩
    have boundary := Text.isBoundary_zero (String.ofList text).toList
    rcases gives (String.ofList text) 0 (.startingAt 0) _ reading boundary
      (Prod.ext ((fst_scan _ _ _).trans reads) rfl) with ⟨passed, slice, value⟩
    rcases passes_of_reads?_pattern reads with ⟨_, found_there, given, passes⟩
    cases (rest ▸ found_there).symm.trans matched
    cases (passes.slice?_eq boundary).symm.trans slice
    have shown := String.ofList_injective (Value.text.inj (given.symm.trans value))
    exact List.self_eq_append_left.1 shown
  · intro anchored input start before after reading boundary scanned
    have reads : (pattern matcher).reads? (.ofOffset input.toList start) = some reading := by
      rw [← fst_scan _ _ before, scanned]
    rcases passes_of_reads?_pattern reads with ⟨found, matched, value, passes⟩
    rw [anchored _ found matched, List.nil_append] at passes
    exact ⟨found.matched, passes.slice?_eq boundary, value⟩

/--
A pattern gives all that it passes over exactly if the texts that it matches somewhere are
matched at their start as well.  So it is if its text is no choice, in particular if its
source is a pattern by itself.
-/
theorem pattern_gives_passed_text (matcher : Pattern) :
    (matcher.GivesPassedText ↔
      ∀ front rest, matcher.MatchesBehind front rest →
        matcher.MatchesBehind [] (front ++ rest)) ∧
    (¬ matcher.IsChoice → matcher.GivesPassedText) ∧
    ((Pattern.Phrase.read? matcher.source.toList).isSome → matcher.GivesPassedText) := by
  refine ⟨?_, fun no_choice => ?_, fun alone => ?_⟩
  · exact givesPassedText_iff_isAnchored.trans matcher.isAnchored_iff_matchesBehind
  · exact givesPassedText_iff_isAnchored.2 (Pattern.isAnchored_of_not_isChoice no_choice)
  · exact givesPassedText_iff_isAnchored.2
      (Pattern.isAnchored_of_not_isChoice (Pattern.not_isChoice_of_alone alone))

/-- A choice of the source itself stands in the group around it. -/
theorem branches_give_passed_text :
    ∃ matcher, Pattern.ofSource? "a|b" none = some matcher ∧ matcher.GivesPassedText := by
  have compiles : (Pattern.ofSource? "a|b" none).isSome := by decide +kernel
  rcases Option.isSome_iff_exists.1 compiles with ⟨matcher, compiled⟩
  refine ⟨matcher, compiled, (pattern_gives_passed_text matcher).2.2 ?_⟩
  rw [Pattern.source_of_ofSource? compiled]
  decide +kernel

/--
A source that closes the group around it goes on with a branch that the sign for the start
does not stand in front of.  Its match is found further on, and what it skips is passed over.
-/
theorem not_givesPassedText_of_closed_group :
    ∃ matcher reading,
      Pattern.ofSource? "a)|(?:b" none = some matcher ∧
        (scan (.pattern matcher) (.ofOffset "xb".toList 0) (.startingAt 0)).1 = some reading ∧
        reading.value = .text "b" ∧
        Text.slice? "xb".toList 0 reading.cursor.offset = some "xb".toList ∧
        ¬ matcher.GivesPassedText := by
  have finds : ((Pattern.ofSource? "a)|(?:b" none).bind (·.find? ['x', 'b'])) =
      some { skipped := ['x'], matched := ['b'], rest := [] } := by decide +kernel
  rcases Option.bind_eq_some_iff.1 finds with ⟨matcher, compiled, found⟩
  have reads : (pattern matcher).reads? (.ofOffset "xb".toList 0) =
      some { value := .text "b", cursor := { offset := 2, rest := [] } } := by
    rw [reads?_pattern,
      show Pattern.Engine.search? matcher (Cursor.ofOffset "xb".toList 0).rest = _ from found]
    rfl
  refine ⟨matcher, _, compiled, (fst_scan _ _ _).trans reads, rfl, rfl, fun gives => ?_⟩
  cases givesPassedText_iff_isAnchored.1 gives _ _ found

end Parser

end ParserGraph

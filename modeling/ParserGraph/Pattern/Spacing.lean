import ParserGraph.Text.Blank

/-!
# Spacing in patterns

Where a flag asks for it, blanks and comments between the signs of a pattern are
skipped.  A comment starts with a number sign and ends with its line.
-/

namespace ParserGraph.Pattern

/-- The characters behind blanks and comments; the flag tells that a comment has started. -/
def dropSpacing : (inComment : Bool) → List Char → List Char
  | _, [] => []
  | true, character :: rest => dropSpacing (character != '\n') rest
  | false, character :: rest =>
      if Text.isBlank character then
        dropSpacing false rest
      else if character = '#' then
        dropSpacing true rest
      else
        character :: rest

/-- The characters behind spacing, where spacing is skipped. -/
def skipSpacing (spacing : Bool) (characters : List Char) : List Char :=
  if spacing then dropSpacing false characters else characters

theorem dropSpacing_length (inComment : Bool) (characters : List Char) :
    (dropSpacing inComment characters).length ≤ characters.length := by
  induction characters generalizing inComment with
  | nil => cases inComment <;> simp [dropSpacing]
  | cons character rest hypothesis =>
      cases inComment with
      | true =>
          simp only [dropSpacing, List.length_cons]
          exact Nat.le_succ_of_le (hypothesis _)
      | false =>
          simp only [dropSpacing]
          split
          · exact Nat.le_succ_of_le (hypothesis _)
          · split
            · exact Nat.le_succ_of_le (hypothesis _)
            · simp

/-- Skipping never makes text longer. -/
theorem skipSpacing_length (spacing : Bool) (characters : List Char) :
    (skipSpacing spacing characters).length ≤ characters.length := by
  unfold skipSpacing
  split
  · exact dropSpacing_length false characters
  · exact Nat.le_refl _

/--
The sign behind the first one as a look ahead sees it: blanks are passed, and of
a comment its first visible character is taken.
-/
def signBehind? (spacing : Bool) (characters : List Char) : Option Char :=
  match characters with
  | [] => none
  | _ :: rest =>
      if spacing then
        match rest.dropWhile Text.isBlank with
        | '#' :: comment => (comment.dropWhile Text.isBlank).head?
        | other => other.head?
      else
        rest.head?

end ParserGraph.Pattern

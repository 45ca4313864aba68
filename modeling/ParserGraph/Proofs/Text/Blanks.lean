import Mathlib.Data.List.DropRight
import ParserGraph.Text.Blank

/-!
# Text without the blanks around it

What is left of a text without the blanks at its ends is the one part of it that has
nothing but blanks around it and neither starts nor ends with a blank.  A text that
neither starts nor ends with a blank is left as it is.
-/

namespace ParserGraph.Text

/-- A part of a text with nothing but blanks around it, and with none at its own ends. -/
structure Strips (characters core : List Char) : Prop where
  around :
    ∃ front back, characters = front ++ core ++ back ∧
      (∀ character ∈ front, isBlank character = true) ∧
      ∀ character ∈ back, isBlank character = true
  first : ∀ character ∈ core.head?, isBlank character = false
  last : ∀ character ∈ core.getLast?, isBlank character = false

variable {characters core : List Char}

/-- Blanks are dropped from the front up to where something else starts. -/
theorem dropWhile_isBlank_append
    {front rest : List Char}
    (blank : ∀ character ∈ front, isBlank character = true)
    (visible : ∀ character ∈ rest.head?, isBlank character = false) :
    (front ++ rest).dropWhile isBlank = rest := by
  rw [List.dropWhile_append_of_pos blank]
  cases rest with
  | nil => rfl
  | cons character rest =>
      exact List.dropWhile_cons_of_neg (by simp [visible character rfl])

theorem dropBlankEnd_append
    {back : List Char}
    (blank : ∀ character ∈ back, isBlank character = true)
    (visible : ∀ character ∈ core.getLast?, isBlank character = false) :
    dropBlankEnd (core ++ back) = core := by
  rw [dropBlankEnd, List.reverse_append, dropWhile_isBlank_append, List.reverse_reverse]
  · simpa using blank
  · simpa using visible

/-- There is one such part at most, and it is what is left without the blanks. -/
theorem Strips.trimBlanks_eq (strips : Strips characters core) : trimBlanks characters = core := by
  rcases strips.around with ⟨front, back, rfl, blankFront, blankBack⟩
  rw [trimBlanks]
  cases core with
  | nil =>
      have blank : ∀ character ∈ front ++ [] ++ back, isBlank character = true := by
        simpa [or_imp, forall_and] using ⟨blankFront, blankBack⟩
      rw [List.dropWhile_eq_nil_iff.2 blank]
      rfl
  | cons character rest =>
      have begins : (front ++ (character :: rest ++ back)).dropWhile isBlank =
          character :: rest ++ back :=
        dropWhile_isBlank_append blankFront strips.first
      rw [List.append_assoc, begins, dropBlankEnd_append blankBack strips.last]

/-- There is such a part of every text. -/
theorem strips_trimBlanks (characters : List Char) : Strips characters (trimBlanks characters) := by
  have whole : trimBlanks characters ++ (characters.dropWhile isBlank).rtakeWhile isBlank =
      characters.dropWhile isBlank :=
    List.rdropWhile_append_rtakeWhile
  constructor
  case around =>
    refine ⟨characters.takeWhile isBlank,
      (characters.dropWhile isBlank).rtakeWhile isBlank, ?_, ?_, ?_⟩
    · rw [List.append_assoc, whole, List.takeWhile_append_dropWhile]
    · exact fun character member => List.mem_takeWhile_imp member
    · exact fun character member => List.mem_rtakeWhile_imp member
  case first =>
    intro character leads
    have starts := List.head?_dropWhile_not isBlank characters
    rw [← whole, List.head?_append_of_ne_nil, leads] at starts
    · exact starts
    · rintro nothing
      simp [nothing] at leads
  case last =>
    intro character ends
    have something : trimBlanks characters ≠ [] := by
      intro nothing
      simp [nothing] at ends
    have visible := List.rdropWhile_last_not isBlank (characters.dropWhile isBlank) something
    rw [List.getLast?_eq_some_getLast something] at ends
    cases ends
    exact Bool.eq_false_iff.2 visible

theorem strips_iff : Strips characters core ↔ trimBlanks characters = core := by
  constructor
  · exact Strips.trimBlanks_eq
  · rintro rfl
    exact strips_trimBlanks characters

/-- A text that neither starts nor ends with a blank is left as it is. -/
theorem strips_self
    (first : ∀ character ∈ core.head?, isBlank character = false)
    (last : ∀ character ∈ core.getLast?, isBlank character = false) :
    Strips core core :=
  ⟨⟨[], [], by simp⟩, first, last⟩

/-- Nothing is left to strip behind the first time. -/
@[simp]
theorem trimBlanks_trimBlanks (characters : List Char) :
    trimBlanks (trimBlanks characters) = trimBlanks characters := by
  have strips := strips_trimBlanks characters
  exact (strips_self strips.first strips.last).trimBlanks_eq

@[simp]
theorem trimmed_trimmed (text : String) : trimmed (trimmed text) = trimmed text := by
  simp [trimmed]

end ParserGraph.Text

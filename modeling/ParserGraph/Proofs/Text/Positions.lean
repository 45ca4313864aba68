import Mathlib.Data.Prod.Lex
import ParserGraph.Proofs.Text.Slices

/-!
# Positions tell offsets

Line feeds stand between the lines of a text.  Behind some text, the position is on the last
of its lines, behind all of that line.  So a position tells what is left from it on: what is
left of its line, and all that follows the line.  Positions further on are greater, compared
by lines and on one line by columns.
-/

namespace ParserGraph

namespace Text

/-! ## Offsets inside characters -/

theorem isBoundary_cons_add (character : Char) (rest : List Char) (offset : Nat) :
    IsBoundary (character :: rest) (character.utf8Size + offset) ↔ IsBoundary rest offset := by
  have level := @isBoundary_append_add [character] rest offset
  simpa using level

/-- Within a text, an offset that is no boundary lies inside a character. -/
theorem not_isBoundary_iff
    {characters : List Char}
    {offset : Nat}
    (within : offset ≤ byteLength characters) :
    ¬ IsBoundary characters offset ↔
      ∃ front character back, characters = front ++ character :: back ∧
        byteLength front < offset ∧ offset < byteLength front + character.utf8Size := by
  constructor
  · intro inside
    induction characters generalizing offset with
    | nil =>
        rw [byteLength_nil, Nat.le_zero] at within
        subst within
        exact absurd (isBoundary_zero []) inside
    | cons character rest hypothesis =>
        by_cases whole : character.utf8Size ≤ offset
        · rcases Nat.exists_eq_add_of_le whole with ⟨further, rfl⟩
          rw [isBoundary_cons_add] at inside
          rcases hypothesis (Nat.le_of_add_le_add_left within) inside with
            ⟨front, other, back, rfl, starts, stops⟩
          refine ⟨character :: front, other, back, rfl, ?_, ?_⟩ <;>
            rw [byteLength_cons] <;> omega
        · have positive : offset ≠ 0 := by
            rintro rfl
            exact inside (isBoundary_zero _)
          refine ⟨[], character, rest, rfl, Nat.pos_of_ne_zero positive, ?_⟩
          simpa using whole
  · rintro ⟨front, character, back, rfl, starts, stops⟩ boundary
    rcases Nat.exists_eq_add_of_lt starts with ⟨more, rfl⟩
    rw [Nat.add_assoc, isBoundary_append_add, IsBoundary, charactersWithin,
      if_neg (by omega)] at boundary
    exact absurd boundary (Nat.succ_ne_zero more).symm

theorem charactersWithin_of_le
    {characters : List Char}
    {offset : Nat}
    (beyond : byteLength characters ≤ offset) :
    charactersWithin characters offset = characters := by
  rcases Nat.exists_eq_add_of_le beyond with ⟨further, rfl⟩
  simpa [charactersWithin] using charactersWithin_append_add characters [] further

theorem byteLength_eq_length_iff {characters : List Char} :
    byteLength characters = characters.length ↔
      ∀ character ∈ characters, character.utf8Size = 1 := by
  induction characters with
  | nil => simp
  | cons character rest hypothesis =>
      have some_byte := Char.utf8Size_pos character
      have enough := length_le_byteLength rest
      rw [List.forall_mem_cons, ← hypothesis, byteLength_cons, List.length_cons]
      omega

/-! ## Lines -/

/-- Lines with the line feeds behind them. -/
def above (lines : List (List Char)) : List Char :=
  lines.flatMap (· ++ ['\n'])

/-- Lines with the line feeds in front of them. -/
def below (lines : List (List Char)) : List Char :=
  lines.flatMap ('\n' :: ·)

theorem below_append_feed (lines : List (List Char)) :
    below lines ++ ['\n'] = '\n' :: above lines := by
  induction lines with
  | nil => rfl
  | cons line rest hypothesis =>
      rw [below, above] at *
      simp [hypothesis]

theorem intercalate_feed (first : List Char) (further : List (List Char)) :
    ['\n'].intercalate (first :: further) = first ++ below further := by
  induction further generalizing first with
  | nil => simp [below]
  | cons second others hypothesis =>
      rw [List.intercalate_cons_cons, hypothesis]
      simp [below]

/-- A text is put together from any of its lines and what lies above and below. -/
theorem eq_above_append_below
    {characters line : List Char}
    {earlier later : List (List Char)}
    (lines : characters.splitOn '\n' = earlier ++ line :: later) :
    characters = above earlier ++ (line ++ below later) := by
  have whole : ['\n'].intercalate (characters.splitOn '\n') = characters :=
    List.intercalate_splitOn '\n'
  rw [← whole, lines]
  cases earlier with
  | nil => exact intercalate_feed line later
  | cons first others =>
      have split : below (others ++ line :: later) =
          (below others ++ ['\n']) ++ (line ++ below later) := by
        simp [below]
      rw [List.cons_append, intercalate_feed, split, below_append_feed]
      simp [above]

/-- Of two texts, the last line of the first and the first line of the second become one. -/
theorem exists_splitOn_append (front back : List Char) :
    ∃ earlier last first later,
      front.splitOn '\n' = earlier ++ [last] ∧
        back.splitOn '\n' = first :: later ∧
          (front ++ back).splitOn '\n' = earlier ++ (last ++ first) :: later := by
  rcases List.exists_cons_of_ne_nil (List.splitOn_ne_nil '\n' back) with ⟨first, later, lines⟩
  induction front with
  | nil => exact ⟨[], [], first, later, by simp, lines, by simpa using lines⟩
  | cons character rest hypothesis =>
      rcases hypothesis with ⟨earlier, last, first, later, fronts, backs, joined⟩
      rw [List.cons_append, List.splitOn_cons_eq_if_modifyHead,
        List.splitOn_cons_eq_if_modifyHead, fronts, joined]
      by_cases feed : character = '\n'
      · exact ⟨[] :: earlier, last, first, later, by simp [feed], backs, by simp [feed]⟩
      · cases earlier with
        | nil =>
            exact ⟨[], character :: last, first, later, by simp [feed], backs, by simp [feed]⟩
        | cons line others =>
            exact ⟨(character :: line) :: others, last, first, later, by simp [feed], backs,
              by simp [feed]⟩

end Text

namespace Position

open Text

theorem advance_append (front back : List Char) (line column : Nat) :
    advance (front ++ back) line column =
      advance back (advance front line column).1 (advance front line column).2 := by
  induction front generalizing line column with
  | nil => rfl
  | cons character rest hypothesis =>
      rw [List.cons_append, advance, advance]
      split_ifs <;> exact hypothesis _ _

/-- The position behind a text is on its last line, behind all of it. -/
theorem advance_eq
    {front last : List Char}
    {earlier : List (List Char)}
    (lines : front.splitOn '\n' = earlier ++ [last])
    (line column : Nat) :
    advance front line column =
      (line + earlier.length, (if earlier = [] then column else 1) + last.length) := by
  induction front generalizing earlier last line column with
  | nil =>
      cases earlier with
      | nil => simp_all [advance]
      | cons _ _ => simp at lines
  | cons character rest hypothesis =>
      rcases exists_splitOn_append rest [] with ⟨others, final, -, -, restLines, -, -⟩
      rw [List.splitOn_cons_eq_if_modifyHead, restLines] at lines
      rw [advance]
      by_cases feed : character = '\n'
      · rw [if_pos (by simpa using feed), ← List.cons_append] at lines
        rcases List.append_inj' lines rfl with ⟨rfl, same⟩
        cases same
        rw [if_pos feed, hypothesis restLines]
        simp [Nat.add_right_comm, Nat.add_assoc]
      · rw [if_neg (by simpa using feed)] at lines
        rw [if_neg feed, hypothesis restLines]
        cases others with
        | nil =>
            have alone : [] ++ [character :: final] = earlier ++ [last] := lines
            rcases List.append_inj' alone rfl with ⟨rfl, same⟩
            cases same
            simp [Nat.add_right_comm, Nat.add_assoc]
        | cons first further =>
            rw [List.cons_append, List.modifyHead_cons, ← List.cons_append] at lines
            rcases List.append_inj' lines rfl with ⟨rfl, same⟩
            cases same
            simp

theorem toLex_lt_next_line (line column : Nat) : toLex (line, column) < toLex (line + 1, 1) :=
  Prod.Lex.toLex_lt_toLex.2 (Or.inl (Nat.lt_succ_self line))

theorem toLex_lt_next_column (line column : Nat) :
    toLex (line, column) < toLex (line, column + 1) :=
  Prod.Lex.toLex_lt_toLex.2 (Or.inr ⟨rfl, Nat.lt_succ_self column⟩)

theorem toLex_le_advance (passed : List Char) (line column : Nat) :
    toLex (line, column) ≤ toLex (advance passed line column) := by
  induction passed generalizing line column with
  | nil => exact le_refl _
  | cons character rest hypothesis =>
      rw [advance]
      split_ifs
      · exact (toLex_lt_next_line line column).le.trans (hypothesis _ _)
      · exact (toLex_lt_next_column line column).le.trans (hypothesis _ _)

/-- Behind more text the position is greater. -/
theorem toLex_lt_advance
    {passed : List Char}
    (nonempty : passed ≠ [])
    (line column : Nat) :
    toLex (line, column) < toLex (advance passed line column) := by
  cases passed with
  | nil => exact absurd rfl nonempty
  | cons character rest =>
      rw [advance]
      split_ifs
      · exact (toLex_lt_next_line line column).trans_le (toLex_le_advance _ _ _)
      · exact (toLex_lt_next_column line column).trans_le (toLex_le_advance _ _ _)

/-! ## What a position tells -/

/--
What is left of a text from a position on: what is left of its line, which is one of the
lines of the text, and all that follows the line.
-/
def Tells (position : Position) (characters rest : List Char) : Prop :=
  ∃ earlier line later,
    characters.splitOn '\n' = earlier ++ line :: later ∧
      characters = Text.above earlier ++ (line ++ Text.below later) ∧
      position.line = earlier.length + 1 ∧
      1 ≤ position.column ∧ position.column ≤ line.length + 1 ∧
      rest = line.drop (position.column - 1) ++ Text.below later

theorem tells_behind (front back : List Char) :
    (behind front).Tells (front ++ back) back := by
  rcases exists_splitOn_append front back with
    ⟨earlier, last, first, later, fronts, backs, joined⟩
  have advanced := advance_eq fronts 1 1
  have line : (behind front).line = earlier.length + 1 := by
    rw [behind, advanced, Nat.add_comm]
  have column : (behind front).column = last.length + 1 := by
    rw [behind, advanced, ite_self]
    exact Nat.add_comm 1 _
  refine ⟨earlier, last ++ first, later, joined, eq_above_append_below joined, line, ?_, ?_, ?_⟩
  · rw [column]
    exact Nat.le_add_left 1 _
  · rw [column, List.length_append]
    omega
  · rw [column, Nat.add_sub_cancel, List.drop_left]
    have alone : back.splitOn '\n' = [] ++ first :: later := backs
    exact eq_above_append_below alone

/-- Of two places in a text the one further on has the greater position. -/
theorem toLex_behind_lt
    {front back upper lower : List Char}
    (same : front ++ back = upper ++ lower)
    (ordered : Text.byteLength front < Text.byteLength upper) :
    toLex ((behind front).line, (behind front).column) <
      toLex ((behind upper).line, (behind upper).column) := by
  rcases List.append_eq_append_iff.1 same with ⟨passed, rfl, -⟩ | ⟨beyond, rfl, -⟩
  · have nonempty : passed ≠ [] := by
      rintro rfl
      simp at ordered
    simp only [behind, advance_append]
    exact toLex_lt_advance nonempty _ _
  · rw [Text.byteLength_append] at ordered
    omega

theorem locate?_append {input : String} {front back : List Char}
    (whole : input.toList = front ++ back) :
    locate? input (Text.byteLength front) = some (behind front) := by
  have boundary : Text.IsBoundary (front ++ back) (Text.byteLength front) :=
    Text.isBoundary_iff.2 ⟨front, back, rfl, rfl⟩
  rw [locate?, locate, whole, Nat.min_eq_left boundary.le, if_pos boundary,
    Text.charactersWithin_append]

/-- How the positions of an input's offsets tell the offsets apart. -/
structure LocatesOffsets (input : String) : Prop where
  /-- A boundary has a position, which tells what is left of the input from there on. -/
  tells : ∀ offset, Text.IsBoundary input.toList offset →
    ∃ position rest, locate? input offset = some position ∧ position.offset = offset ∧
      Text.sliceFrom? input.toList offset = some rest ∧ position.Tells input.toList rest
  /-- Of two boundaries the one further on has the greater line, or the greater column on it. -/
  increases : ∀ first last position further,
    Text.IsBoundary input.toList first → Text.IsBoundary input.toList last → first < last →
      locate? input first = some position → locate? input last = some further →
        toLex (position.line, position.column) < toLex (further.line, further.column)
  /-- An offset beyond the end is taken as the end. -/
  beyond : ∀ offset, Text.byteLength input.toList ≤ offset →
    locate? input offset = locate? input (Text.byteLength input.toList)
  /-- There is no position exactly if the offset, taken as the end beyond it, is in a character. -/
  inside : ∀ offset, locate? input offset = none ↔
    ∃ front character back, input.toList = front ++ character :: back ∧
      Text.byteLength front < min offset (Text.byteLength input.toList) ∧
      min offset (Text.byteLength input.toList) < Text.byteLength front + character.utf8Size

/-- Positions tell offsets, in every input. -/
theorem locatesOffsets (input : String) : LocatesOffsets input where
  tells := by
    intro offset boundary
    rcases Text.isBoundary_iff.1 boundary with ⟨front, back, whole, rfl⟩
    refine ⟨behind front, back, locate?_append whole.symm, rfl, ?_, ?_⟩
    · rw [← whole, Text.sliceFrom?_append]
    · rw [← whole]
      exact tells_behind front back
  increases := by
    intro first last position further starts stops ordered located locatedFurther
    rcases Text.isBoundary_iff.1 starts with ⟨front, back, whole, rfl⟩
    rcases Text.isBoundary_iff.1 stops with ⟨upper, lower, same, rfl⟩
    rw [locate?_append whole.symm] at located
    rw [locate?_append same.symm] at locatedFurther
    cases located
    cases locatedFurther
    exact toLex_behind_lt (whole.trans same.symm) ordered
  beyond := by
    intro offset further
    rw [locate?, locate?, locate, locate, Nat.min_eq_right further, Nat.min_self,
      Text.charactersWithin_of_le further, Text.charactersWithin_of_le (Nat.le_refl _)]
  inside := by
    intro offset
    rw [← Text.not_isBoundary_iff (Nat.min_le_right _ _), locate?]
    split_ifs with boundary
    · simp [boundary]
    · simp [boundary]

example : locate? "ab\ncd\né!" 8 = some { offset := 8, line := 3, column := 2 } := by decide

end Position

end ParserGraph

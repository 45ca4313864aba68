import ParserGraph.Proofs.Text.Positions
import ParserGraph.Report

/-!
# Lines of reports and lines of positions

A report and a position count lines and columns by rules of their own.  A report ends
lines at more characters than the line feed, but not at a character that ends the source,
and it counts as many characters as it is told.  Both rules are followed along the text
in front of a place: the report never falls behind the position, and once it is ahead it
stays ahead.  They tell the same place if neither happens.
-/

namespace ParserGraph.Report

/-- A line ends with the first of the characters; the last of a source ends none. -/
def Breaks (characters : List Char) : Prop :=
  endsLine characters = true ∧ characters.tail ≠ []

instance (characters : List Char) : Decidable (Breaks characters) :=
  inferInstanceAs (Decidable (_ ∧ _))

/-- The line and column of an index, for characters that start at a line and column. -/
def reached : List Char → (index line column : Nat) → Nat × Nat
  | _, 0, line, column => (line, column)
  | [], _ + 1, line, column => (line, column)
  | character :: rest, index + 1, line, column =>
      if Breaks (character :: rest) then
        reached rest index (line + 1) 1
      else
        reached rest index line (column + 1)

@[simp]
theorem reached_zero (characters : List Char) (line column : Nat) :
    reached characters 0 line column = (line, column) := by
  cases characters <;> rfl

/-! ## The line of an index -/

/-- The line and column of an index that lies on a line. -/
def SourceLine.place (line : SourceLine) (index : Nat) : Nat × Nat :=
  (line.number, index - line.start + 1)

/-- A line that has begun is not shorter than what there is of it. -/
theorem exists_lineLengths_eq_cons (current : Nat) (character : Char) (rest : List Char) :
    ∃ length others,
      lineLengths current (character :: rest) = length :: others ∧ current < length := by
  induction rest generalizing current character with
  | nil =>
      rw [lineLengths]
      split_ifs
      · exact ⟨_, _, rfl, Nat.lt_succ_self current⟩
      · exact ⟨current + 1, [], by simp [lineLengths], Nat.lt_succ_self current⟩
  | cons second others hypothesis =>
      rw [lineLengths]
      split_ifs
      · exact ⟨_, _, rfl, Nat.lt_succ_self current⟩
      · rcases hypothesis (current + 1) second with ⟨length, further, lengths, longer⟩
        exact ⟨length, further, lengths, Nat.lt_of_succ_lt longer⟩

theorem lineLengths_zero_ne_nil {characters : List Char} (nonempty : characters ≠ []) :
    lineLengths 0 characters ≠ [] := by
  rcases List.exists_cons_of_ne_nil nonempty with ⟨character, rest, rfl⟩
  rcases exists_lineLengths_eq_cons 0 character rest with ⟨length, others, lengths, -⟩
  simp [lengths]

theorem place_findLine
    (characters : List Char)
    {index start length : Nat}
    {others : List Nat}
    (here : index < start + length ∨ others = [])
    (number : Nat) :
    (findLine characters index number start (length :: others)).place index =
      (number, index - start + 1) := by
  rw [findLine, if_pos (by simpa using here)]
  rfl

theorem findLine_of_ge
    {characters : List Char}
    {index number start length : Nat}
    {others : List Nat}
    (behind : start + length ≤ index)
    (more : others ≠ []) :
    findLine characters index number start (length :: others) =
      findLine characters index (number + 1) (start + length) others := by
  rw [findLine, if_neg]
  simp [more, behind]

/-- The line found for an index is the one that the index is reached on. -/
theorem findLine_eq_reached
    (characters : List Char)
    {current ahead index : Nat}
    {rest : List Char}
    (begun : 0 < current ∨ rest ≠ [])
    (within : ahead ≤ rest.length)
    (number : Nat)
    {start : Nat}
    (level : start + current + ahead = index) :
    (findLine characters index number start (lineLengths current rest)).place index =
      reached rest ahead number (current + 1) := by
  induction rest generalizing current ahead number start with
  | nil =>
      have none_ahead : ahead = 0 := Nat.le_zero.1 within
      have some_begun : current ≠ 0 := by simpa [Nat.pos_iff_ne_zero] using begun
      have column : index - start + 1 = current + 1 := by omega
      rw [lineLengths, if_neg some_begun, place_findLine characters (Or.inr rfl), none_ahead,
        reached_zero, column]
  | cons character others hypothesis =>
      cases ahead with
      | zero =>
          rcases exists_lineLengths_eq_cons current character others with
            ⟨length, further, lengths, longer⟩
          have here : index < start + length := by omega
          have column : index - start + 1 = current + 1 := by omega
          rw [lengths, place_findLine characters (Or.inl here), reached_zero, column]
      | succ ahead =>
          have less : ahead ≤ others.length := Nat.le_of_succ_le_succ within
          by_cases ends : endsLine (character :: others) = true
          · rw [lineLengths, if_pos ends, reached]
            by_cases more : others = []
            · -- The last character ends no line, so the index stays on this one.
              subst more
              have last : ahead = 0 := Nat.le_zero.1 less
              have final : lineLengths 0 [] = [] := by simp [lineLengths]
              have column : index - start + 1 = current + 1 + 1 := by omega
              rw [if_neg fun breaks => breaks.2 rfl, final, last, reached_zero,
                place_findLine characters (Or.inr rfl), column]
            · have behind : start + (current + 1) ≤ index := by omega
              rw [if_pos ⟨ends, more⟩, findLine_of_ge behind (lineLengths_zero_ne_nil more)]
              exact hypothesis (Or.inr more) less (number + 1) (by omega)
          · have goes_on : ¬ Breaks (character :: others) := fun breaks => ends breaks.1
            rw [lineLengths, if_neg ends, reached, if_neg goes_on]
            exact hypothesis (Or.inl (Nat.succ_pos current)) less number (by omega)

theorem SourceLine.place_at
    {characters : List Char}
    (nonempty : characters ≠ [])
    {index : Nat}
    (within : index ≤ characters.length) :
    (SourceLine.at characters index).place index = reached characters index 1 1 :=
  findLine_eq_reached characters (Or.inr nonempty) within 1 (by simp)

/-! ## The two rules along a text -/

open Position

theorem toLex_le_reached (characters : List Char) (index line column : Nat) :
    toLex (line, column) ≤ toLex (reached characters index line column) := by
  induction characters generalizing index line column with
  | nil => cases index <;> exact le_refl _
  | cons character rest hypothesis =>
      cases index with
      | zero => exact le_refl _
      | succ index =>
          rw [reached]
          split_ifs
          · exact (toLex_lt_next_line line column).le.trans (hypothesis _ _ _)
          · exact (toLex_lt_next_column line column).le.trans (hypothesis _ _ _)

/-- Behind more text the place is a later one. -/
theorem toLex_lt_reached
    {characters : List Char}
    {index : Nat}
    (moved : index ≠ 0)
    (within : index ≤ characters.length)
    (line column : Nat) :
    toLex (line, column) < toLex (reached characters index line column) := by
  rcases Nat.exists_eq_succ_of_ne_zero moved with ⟨ahead, rfl⟩
  cases characters with
  | nil => exact absurd within (Nat.not_succ_le_zero ahead)
  | cons character rest =>
      rw [reached]
      split_ifs
      · exact (toLex_lt_next_line line column).trans_le (toLex_le_reached _ _ _ _)
      · exact (toLex_lt_next_column line column).trans_le (toLex_le_reached _ _ _ _)

theorem eq_nil_of_not_breaks_feed {rest : List Char} (last : ¬ Breaks ('\n' :: rest)) :
    rest = [] := by
  simpa [Breaks, endsLine] using last

/-- A report that is a line ahead of the position stays ahead of it. -/
theorem toLex_advance_lt_reached
    {passed : List Char}
    (rest : List Char)
    {index : Nat}
    (covers : passed.length ≤ index)
    {line ahead shown : Nat}
    (later : line < ahead)
    (counted : 1 ≤ shown)
    (column : Nat) :
    toLex (advance passed line column) < toLex (reached (passed ++ rest) index ahead shown) := by
  induction passed generalizing index line column ahead shown with
  | nil =>
      have first : toLex (line, column) < toLex (ahead, shown) :=
        Prod.Lex.toLex_lt_toLex.2 (Or.inl later)
      exact first.trans_le (toLex_le_reached _ _ _ _)
  | cons character others hypothesis =>
      rcases Nat.exists_eq_succ_of_ne_zero (Nat.ne_zero_of_lt covers) with ⟨further, rfl⟩
      have fewer : others.length ≤ further := Nat.le_of_succ_le_succ covers
      rw [List.cons_append, advance, reached]
      split_ifs with feed breaks breaks
      · exact hypothesis fewer (Nat.succ_lt_succ later) (Nat.le_refl 1) _
      · -- A line feed at the very end: the position has come as far as the line, at most.
        subst feed
        rcases List.append_eq_nil_iff.1 (eq_nil_of_not_breaks_feed breaks) with ⟨rfl, rfl⟩
        refine lt_of_lt_of_le ?_ (toLex_le_reached _ _ _ _)
        rcases Nat.lt_or_eq_of_le (Nat.succ_le_of_lt later) with before | level
        · exact Prod.Lex.toLex_lt_toLex.2 (Or.inl before)
        · exact Prod.Lex.toLex_lt_toLex.2 (Or.inr ⟨level, Nat.lt_succ_of_le counted⟩)
      · exact hypothesis fewer (Nat.lt_succ_of_lt later) (Nat.le_refl 1) _
      · exact hypothesis fewer later (Nat.le_succ_of_le counted) _

/-- Of the characters in front of a place exactly the line feeds end lines of the report. -/
def BreaksAtFeeds (passed rest : List Char) : Prop :=
  ∀ front character back, passed = front ++ character :: back →
    (Breaks (character :: (back ++ rest)) ↔ character = '\n')

theorem breaksAtFeeds_nil (rest : List Char) : BreaksAtFeeds [] rest := by
  simp [BreaksAtFeeds]

theorem breaksAtFeeds_cons {character : Char} {passed rest : List Char} :
    BreaksAtFeeds (character :: passed) rest ↔
      (Breaks (character :: (passed ++ rest)) ↔ character = '\n') ∧
        BreaksAtFeeds passed rest := by
  constructor
  · intro alike
    refine ⟨alike [] character passed rfl, fun front other back whole => ?_⟩
    exact alike (character :: front) other back (by rw [whole, List.cons_append])
  · rintro ⟨first, others⟩ front other back whole
    cases front with
    | nil =>
        cases whole
        exact first
    | cons _ front =>
        cases whole
        exact others front other back rfl

instance decidableBreaksAtFeeds :
    (passed rest : List Char) → Decidable (BreaksAtFeeds passed rest)
  | [], rest => isTrue (breaksAtFeeds_nil rest)
  | _ :: passed, rest =>
      have := decidableBreaksAtFeeds passed rest
      decidable_of_iff _ breaksAtFeeds_cons.symm

/--
An index that is not in front of a place reaches its line and column only if it is the
index of the place and exactly the line feeds in front of it end lines of the report.
-/
theorem reached_eq_advance_iff
    {passed rest : List Char}
    {index : Nat}
    (covers : passed.length ≤ index)
    (within : index ≤ (passed ++ rest).length)
    (line column : Nat) :
    reached (passed ++ rest) index line column = advance passed line column ↔
      index = passed.length ∧ BreaksAtFeeds passed rest := by
  induction passed generalizing index line column with
  | nil =>
      rw [advance, List.nil_append]
      constructor
      · intro level
        refine ⟨?_, breaksAtFeeds_nil rest⟩
        by_contra moved
        exact absurd (congrArg toLex level).symm (toLex_lt_reached moved within line column).ne
      · rintro ⟨rfl, -⟩
        rw [List.length_nil, reached_zero]
  | cons character others hypothesis =>
      rcases Nat.exists_eq_succ_of_ne_zero (Nat.ne_zero_of_lt covers) with ⟨further, rfl⟩
      have fewer : others.length ≤ further := Nat.le_of_succ_le_succ covers
      have inside : further ≤ (others ++ rest).length := Nat.le_of_succ_le_succ within
      rw [breaksAtFeeds_cons, List.length_cons, Nat.succ_inj, List.cons_append, advance, reached]
      split_ifs with breaks feed feed
      · rw [hypothesis fewer inside, and_iff_right (iff_of_true breaks feed)]
      · have ahead := toLex_advance_lt_reached rest fewer (Nat.lt_succ_self line) (Nat.le_refl 1)
          (column + 1)
        refine ⟨fun level => absurd (congrArg toLex level).symm ahead.ne, ?_⟩
        rintro ⟨-, agree, -⟩
        exact absurd (agree.1 breaks) feed
      · subst feed
        rcases List.append_eq_nil_iff.1 (eq_nil_of_not_breaks_feed breaks) with ⟨rfl, rfl⟩
        have none_further : further = 0 := Nat.le_zero.1 inside
        refine ⟨fun level => ?_, ?_⟩
        · simp [none_further, advance] at level
        · rintro ⟨-, agree, -⟩
          exact absurd (agree.2 rfl) breaks
      · rw [hypothesis fewer inside, and_iff_right (iff_of_false breaks feed)]

end ParserGraph.Report

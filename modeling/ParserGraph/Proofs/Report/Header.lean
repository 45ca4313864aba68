import ParserGraph.Proofs.Parser.Reasons
import ParserGraph.Proofs.Report.Lines

/-!
# Headers of reports

Behind its first line a report tells a line and a column in a header.  They are those of
the character that has as many characters in front of it as the failure has bytes in front
of it; without such a character there is no header.  So the header tells the place of the
failure if each byte in front of it is a character and exactly the line feeds among them
end lines of the report, and otherwise it does not.
-/

namespace ParserGraph

namespace Report

/-! ## What a header tells -/

/-- A report with a header behind its first line. -/
def withHeader (title : String) (margin line column : Nat) (frame : String) : String :=
  title ++ "\n" ++ copiesOf margin ' ' ++ "╭─[<unknown>:" ++ toString line ++ ":" ++
    toString column ++ "]\n" ++ frame

/-- Behind its first line the report tells a line and a column. -/
def Tells (report : String) (line column : Nat) : Prop :=
  ∃ title margin frame,
    '\n' ∉ title.toList ∧ report = withHeader title margin line column frame

theorem toList_withHeader (title : String) (margin line column : Nat) (frame : String) :
    (withHeader title margin line column frame).toList =
      title.toList ++ '\n' :: (List.replicate margin ' ' ++ '╭' :: ("─[<unknown>:".toList ++
        (Nat.toDigits 10 line ++ ':' ::
          (Nat.toDigits 10 column ++ ']' :: '\n' :: frame.toList)))) := by
  simp [withHeader, copiesOf]

/-- Text is taken apart at the first of its characters that is the separator in one way only. -/
theorem append_separator_inj
    {separator : Char}
    {front other back further : List Char}
    (first : separator ∉ front)
    (same : separator ∉ other)
    (whole : front ++ separator :: back = other ++ separator :: further) :
    front = other ∧ back = further := by
  rcases List.append_eq_append_iff.1 whole with ⟨more, rfl, rest⟩ | ⟨more, rfl, rest⟩
  · cases more with
    | nil => simpa using rest
    | cons character more =>
        cases rest
        simp at same
  · cases more with
    | nil => simpa using rest.symm
    | cons character more =>
        cases rest
        simp at first

theorem notMem_toDigits {character : Char} (other : character.isDigit = false) (number : Nat) :
    character ∉ Nat.toDigits 10 number := by
  intro member
  have digit := Nat.isDigit_of_mem_toDigits (by decide) (by decide) member
  rw [other] at digit
  cases digit

theorem toDigits_inj {number other : Nat} (same : Nat.toDigits 10 number = Nat.toDigits 10 other) :
    number = other := by
  have values := congrArg (fun digits => Nat.ofDigitChars 10 digits 0) same
  simpa using values

/-- A report tells one place. -/
theorem Tells.unique
    {report : String}
    {line column further beyond : Nat}
    (tells : Tells report line column)
    (others : Tells report further beyond) :
    line = further ∧ column = beyond := by
  rcases tells with ⟨title, margin, frame, titled, rfl⟩
  rcases others with ⟨heading, blank, rest, headed, whole⟩
  have lists := congrArg String.toList whole
  rw [toList_withHeader, toList_withHeader] at lists
  have corner : ∀ count, '╭' ∉ List.replicate count ' ' := by simp
  rcases append_separator_inj titled headed lists with ⟨-, frames⟩
  rcases append_separator_inj (corner margin) (corner blank) frames with ⟨-, places⟩
  rcases append_separator_inj (notMem_toDigits (by decide) _) (notMem_toDigits (by decide) _)
    (List.append_cancel_left places) with ⟨lines, columns⟩
  rcases append_separator_inj (notMem_toDigits (by decide) _) (notMem_toDigits (by decide) _)
    columns with ⟨columns, -⟩
  exact ⟨toDigits_inj lines, toDigits_inj columns⟩

theorem exists_headline_eq (failure : Failure) :
    ∃ title, '\n' ∉ title.toList ∧ headline failure = title ++ "\n" := by
  refine ⟨"Error: parse failed at " ++ failure.position.display, ?_, rfl⟩
  have display : failure.position.display =
      toString failure.position.line ++ ":" ++ toString failure.position.column := rfl
  simp [display, notMem_toDigits]

/-- The first line alone tells no place. -/
theorem not_tells_headline (failure : Failure) (line column : Nat) :
    ¬ Tells (headline failure) line column := by
  rintro ⟨heading, margin, frame, headed, whole⟩
  rcases exists_headline_eq failure with ⟨title, titled, headline⟩
  have lists := congrArg String.toList (headline.symm.trans whole)
  rw [toList_withHeader, String.toList_append] at lists
  rcases append_separator_inj titled headed lists with ⟨-, nothing⟩
  simp at nothing

/-- A report with a body tells the line and column of the first index. -/
theorem tells_body
    (failure : Failure)
    (characters : List Char)
    (first last : Nat)
    (message : String) :
    Tells (headline failure ++ body characters first last message)
      ((SourceLine.at characters first).place first).1
      ((SourceLine.at characters first).place first).2 := by
  rcases exists_headline_eq failure with ⟨title, titled, headline⟩
  refine ⟨title, (toString (SourceLine.at characters first).number).length + 2, ?_⟩
  simp only [headline, body, withHeader, String.append_assoc]
  exact ⟨_, titled, rfl⟩

/-! ## What a report of a failure tells -/

/-- The index behind the range of a failure, which counts bytes for characters. -/
def rangeEnd (passed : List Char) : List Char → Nat
  | next :: _ => Text.byteLength passed + next.utf8Size
  | [] => Text.byteLength passed

/-- The source has characters where a report looks for the range of a failure. -/
@[mk_iff]
structure Shows (passed rest : List Char) : Prop where
  nonempty : passed ++ rest ≠ []
  reaches : Text.byteLength passed ≤ (passed ++ rest).length
  fits : rangeEnd passed rest ≤ (passed ++ rest).length + 1

instance (passed rest : List Char) : Decidable (Shows passed rest) :=
  decidable_of_iff _ (shows_iff passed rest).symm

theorem report_eq
    {source : String}
    {passed rest : List Char}
    (whole : source.toList = passed ++ rest)
    {failure : Failure}
    (offset : failure.position.offset = Text.byteLength passed) :
    failure.report source = headline failure ++
      if Shows passed rest then
        body (passed ++ rest) (Text.byteLength passed) (rangeEnd passed rest)
          failure.expected.describe
      else "" := by
  have first : min failure.position.offset (Text.byteLength (passed ++ rest)) =
      Text.byteLength passed := by
    simp [offset]
  have hidden : ¬ Shows passed rest ↔
      ((passed ++ rest).isEmpty || (passed ++ rest).length < Text.byteLength passed ||
        (Text.byteLength passed < rangeEnd passed rest &&
          (passed ++ rest).length < rangeEnd passed rest - 1)) = true := by
    rw [shows_iff]
    simp only [Bool.or_eq_true, Bool.and_eq_true, decide_eq_true_eq, List.isEmpty_iff]
    by_cases empty : passed ++ rest = []
    · simp [empty]
    · simp only [empty, ne_eq, not_false_eq_true, true_and, false_or]
      omega
  rw [← ite_not, Failure.report]
  simp only [whole, first, Text.charactersWithin_append, List.drop_left, hidden]
  cases rest <;> rfl

theorem tells_report_iff
    {source : String}
    {passed rest : List Char}
    (whole : source.toList = passed ++ rest)
    {failure : Failure}
    (offset : failure.position.offset = Text.byteLength passed)
    (line column : Nat) :
    Tells (failure.report source) line column ↔
      Shows passed rest ∧
        reached (passed ++ rest) (Text.byteLength passed) 1 1 = (line, column) := by
  rw [report_eq whole offset]
  split_ifs with shows
  · rw [← SourceLine.place_at shows.nonempty shows.reaches, and_iff_right shows]
    have told := tells_body failure (passed ++ rest) (Text.byteLength passed)
      (rangeEnd passed rest) failure.expected.describe
    constructor
    · intro tells
      rcases told.unique tells with ⟨rfl, rfl⟩
      rfl
    · intro place
      rwa [place] at told
  · rw [String.append_empty]
    simp [shows, not_tells_headline]

/-- In front of the place bytes are characters, and lines end for the report as for positions. -/
structure Plain (passed rest : List Char) : Prop where
  nonempty : passed ++ rest ≠ []
  /-- In front of the place each byte is a character. -/
  narrow : ∀ character ∈ passed, character.utf8Size = 1
  /-- Taken for characters, the bytes of the next one end a character behind the source or less. -/
  fits : ∀ next ∈ rest.head?, next.utf8Size ≤ rest.length + 1
  feeds : BreaksAtFeeds passed rest

theorem rangeEnd_le_iff
    {passed : List Char}
    (narrow : Text.byteLength passed = passed.length)
    (rest : List Char) :
    rangeEnd passed rest ≤ (passed ++ rest).length + 1 ↔
      ∀ next ∈ rest.head?, next.utf8Size ≤ rest.length + 1 := by
  cases rest with
  | nil => simp [rangeEnd, narrow]
  | cons next later =>
      simp only [rangeEnd, narrow, List.length_append, List.length_cons, List.head?_cons,
        Option.mem_some_iff, forall_eq']
      omega

/-- The plain places are those that a report shows where their positions are. -/
theorem plain_iff {passed rest : List Char} :
    Plain passed rest ↔
      Shows passed rest ∧
        reached (passed ++ rest) (Text.byteLength passed) 1 1 = Position.advance passed 1 1 := by
  have covers := Text.length_le_byteLength passed
  constructor
  · rintro ⟨nonempty, each, fits, feeds⟩
    have narrow := Text.byteLength_eq_length_iff.2 each
    have reaches : Text.byteLength passed ≤ (passed ++ rest).length := by
      rw [narrow, List.length_append]
      exact Nat.le_add_right _ _
    have shows : Shows passed rest := ⟨nonempty, reaches, (rangeEnd_le_iff narrow rest).2 fits⟩
    exact ⟨shows, (reached_eq_advance_iff covers reaches 1 1).2 ⟨narrow, feeds⟩⟩
  · rintro ⟨⟨nonempty, reaches, fits⟩, level⟩
    rcases (reached_eq_advance_iff covers reaches 1 1).1 level with ⟨narrow, feeds⟩
    exact ⟨nonempty, Text.byteLength_eq_length_iff.1 narrow, (rangeEnd_le_iff narrow rest).1 fits,
      feeds⟩

end Report

open Report

namespace Failure

/-- The texts in front of the place of the failure and behind it have the property. -/
def PlaceIs
    (failure : Failure)
    (input : String)
    (property : List Char → List Char → Prop) : Prop :=
  ∃ passed rest, input.toList = passed ++ rest ∧
    Text.byteLength passed = failure.position.offset ∧ property passed rest

theorem placeIs_iff
    {failure : Failure}
    {input : String}
    {passed rest : List Char}
    (whole : input.toList = passed ++ rest)
    (offset : failure.position.offset = Text.byteLength passed)
    (property : List Char → List Char → Prop) :
    failure.PlaceIs input property ↔ property passed rest := by
  constructor
  · rintro ⟨front, back, same, level, holds⟩
    rcases Text.append_inj_of_byteLength (whole.symm.trans same) (offset.symm.trans level.symm) with
      ⟨rfl, rfl⟩
    exact holds
  · exact fun holds => ⟨passed, rest, whole, offset.symm, holds⟩

/-- What the report of a failure tells, and when it is the position of the failure. -/
structure ReportsPlace (failure : Failure) (input : String) : Prop where
  /-- The report tells where the character is that the offset is taken for the index of. -/
  tells_iff : ∀ line column, Tells (failure.report input) line column ↔
    failure.PlaceIs input Shows ∧
      reached input.toList failure.position.offset 1 1 = (line, column)
  /-- That is the position of the failure if the place is a plain one, and only then. -/
  tells_position_iff :
    Tells (failure.report input) failure.position.line failure.position.column ↔
      failure.PlaceIs input Plain

end Failure

/-- What the report of a failed run tells of the place of the failure. -/
theorem Parser.reportsPlace_of_failed
    [Pattern.Engine]
    {parser : Parser}
    {input : String}
    {failure : Failure}
    (failed : run parser input = .failure failure ∨ parse parser input = .failure failure) :
    failure.ReportsPlace input := by
  rcases placed_of_failed failed with ⟨within, located⟩
  rcases Text.isBoundary_iff.1 within.boundary with ⟨passed, rest, whole, offset⟩
  have behind : failure.position = .behind passed := by
    rw [located, Position.locate, ← whole, ← offset, Text.charactersWithin_append]
  have place : (failure.position.line, failure.position.column) =
      Position.advance passed 1 1 := by
    rw [behind]
    rfl
  constructor
  · intro line column
    rw [tells_report_iff whole.symm offset.symm, Failure.placeIs_iff whole.symm offset.symm,
      whole, offset]
  · rw [tells_report_iff whole.symm offset.symm, Failure.placeIs_iff whole.symm offset.symm,
      place, plain_iff]

/-- The report of a failure at the start of a second line tells that place. -/
theorem Parser.report_tells_second_line :
    ∃ failure, run (.and (.text "a\n") (.text "b")) "a\nc" = .failure failure ∧
      failure.position = { offset := 2, line := 2, column := 1 } ∧
      failure.ReportsPlace "a\nc" ∧ Tells (failure.report "a\nc") 2 1 := by
  have failed : run (.and (.text "a\n") (.text "b")) "a\nc" = .failure _ := rfl
  have plain : Plain ['a', '\n'] ['c'] :=
    { nonempty := by simp
      narrow := by simp [Char.utf8Size]
      fits := by simp [Char.utf8Size]
      feeds := by decide }
  have reports := reportsPlace_of_failed (Or.inl failed)
  have told := reports.tells_position_iff.2 ⟨['a', '\n'], ['c'], rfl, rfl, plain⟩
  exact ⟨_, failed, rfl, reports, told⟩

/-- Behind a character of two bytes the report tells a column too far. -/
theorem Parser.report_tells_column_too_far :
    ∃ failure, run (.and (.text "é") (.text "a")) "é!" = .failure failure ∧
      failure.position = { offset := 2, line := 1, column := 2 } ∧
      Tells (failure.report "é!") 1 3 ∧ ¬ Tells (failure.report "é!") 1 2 := by
  have whole : "é!".toList = ['é'] ++ ['!'] := rfl
  refine ⟨_, rfl, rfl, ?_, ?_⟩
  · exact (tells_report_iff whole rfl 1 3).2 (by decide)
  · exact (tells_report_iff whole rfl 1 2).not.2 (by decide)

end ParserGraph

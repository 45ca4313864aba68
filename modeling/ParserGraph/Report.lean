import ParserGraph.Outcome
import ParserGraph.Text.Blank
import ParserGraph.Text.Width

/-!
# Reports of failures

A failure shown with the line of the source that it lies on and a mark below the
place.  The report counts in characters, while the position of a failure counts
bytes, and the bytes are taken for characters: behind characters of several bytes
the report shows a later place or none.
-/

namespace ParserGraph.Report

/-- A line of a source. -/
structure SourceLine where
  /-- The number of the line, from one on. -/
  number : Nat
  /-- The characters in front of the line. -/
  start : Nat
  /-- The characters of the line with those that end it. -/
  content : List Char
deriving Repr

/-- The character ends a line; a carriage return in front of a line feed does not. -/
def endsLine : List Char → Bool
  | '\r' :: '\n' :: _ => false
  | character :: _ =>
      character == '\n' || character == '\r' || character == '\x0B' || character == '\x0C' ||
        character == '\u0085' || character == '\u2028' || character == '\u2029'
  | [] => false

/-- The lengths of the lines of a source, the characters that end them included. -/
def lineLengths : (current : Nat) → List Char → List Nat
  | current, [] => if current = 0 then [] else [current]
  | current, character :: rest =>
      if endsLine (character :: rest) then
        (current + 1) :: lineLengths 0 rest
      else
        lineLengths (current + 1) rest

/-- The line that an index lies on; an index at the end belongs to the last line. -/
def findLine (characters : List Char) (index : Nat) :
    (number start : Nat) → List Nat → SourceLine
  | number, start, [] => { number, start, content := [] }
  | number, start, length :: rest =>
      if index < start + length ∨ rest.isEmpty then
        { number, start, content := (characters.drop start).take length }
      else
        findLine characters index (number + 1) (start + length) rest

/-- The line of a source that an index lies on. -/
def SourceLine.at (characters : List Char) (index : Nat) : SourceLine :=
  findLine characters index 1 0 (lineLengths 0 characters)

/--
The width of a column: a tab reaches to the next column that four divides, other
blanks are as wide as one space, and behind the text columns are one wide.
-/
def columnWidth (text : List Char) (column : Nat) : Nat :=
  match text[column]? with
  | none => 1
  | some character =>
      if character = '\t' then (column / 4 + 1) * 4 - column
      else if Text.isBlank character then 1
      else Text.width character

def copiesOf (count : Nat) (character : Char) : String :=
  String.ofList (List.replicate count character)

/-- A column of a drawn row: a character, then another one as far as the column is wide. -/
def drawColumn (text : List Char) (column : Nat) (first tail : Char) : String :=
  match columnWidth text column with
  | 0 => ""
  | width + 1 => first.toString ++ copiesOf width tail

/-- A row of columns, each with its character and what fills it up. -/
def drawRow (text : List Char) (columns : Nat) (draw : Nat → Char × Char) : String :=
  String.join ((List.range columns).map fun column =>
    drawColumn text column (draw column).1 (draw column).2)

/-- A line as it is shown: tabs as spaces, other blanks as one space. -/
def drawText (text : List Char) : String :=
  String.join (text.mapIdx fun column character =>
    if character = '\t' then copiesOf (columnWidth text column) ' '
    else if Text.isBlank character then " "
    else character.toString)

/-- A range of a source that a message is about, within a line. -/
structure Mark where
  /-- The column of the first character. -/
  first : Nat
  /-- The column behind the last character. -/
  last : Nat
deriving Repr

namespace Mark

/-- The column of the mark itself, in the middle of the range. -/
def middle (mark : Mark) (start : Nat) : Nat :=
  (start + mark.first + (start + mark.last)) / 2 - start

/-- The number of columns of the rows below the line. -/
def columns (mark : Mark) : Nat := mark.last + 2

/-- The row right below the line, where the range is underlined. -/
def underline (mark : Mark) (middle : Nat) (column : Nat) : Char × Char :=
  if column = middle then
    if mark.first < mark.last then ('┬', '─') else ('│', ' ')
  else if mark.first ≤ column ∧ column < mark.last then
    ('─', '─')
  else
    (' ', ' ')

/-- The row that leads from the mark to the message. -/
def arrow (middle : Nat) (column : Nat) : Char × Char :=
  if column < middle then (' ', ' ') else if column = middle then ('╰', '─') else ('─', '─')

end Mark

/-- The rows that show a line with a mark below it and a message behind the mark. -/
def drawLine (line : SourceLine) (mark : Mark) (margin : String) (message : String) : String :=
  let text := Text.dropBlankEnd line.content
  let middle := mark.middle line.start
  " " ++ toString line.number ++ " │ " ++ drawText text ++ "\n" ++
    margin ++ "│ " ++ drawRow text mark.columns (mark.underline middle) ++ "\n" ++
    margin ++ "│ " ++ drawRow text mark.columns (Mark.arrow middle) ++ " " ++ message ++ "\n"

/-- The first line of every report. -/
def headline (failure : Failure) : String :=
  "Error: parse failed at " ++ failure.position.display ++ "\n"

/-- The report of a place, given by its first index and the index behind it. -/
def body (characters : List Char) (first last : Nat) (message : String) : String :=
  let line := SourceLine.at characters first
  let width := (toString line.number).length + 2
  let margin := copiesOf width ' '
  let column := first - line.start
  margin ++ "╭─[<unknown>:" ++ toString line.number ++ ":" ++ toString (column + 1) ++ "]\n" ++
    margin ++ "│\n" ++
    (if line.start + line.content.length < last then
      margin ++ "│ \n"
    else
      drawLine line { first := column, last := last - line.start } margin message) ++
    copiesOf width '─' ++ "╯\n"

end Report

/--
The report of a failure in a source.  The range of the failure is the character at
its offset; nothing but the first line is shown if no such range can be found.
-/
def Failure.report (failure : Failure) (source : String) : String :=
  let characters := source.toList
  let first := min failure.position.offset (Text.byteLength characters)
  let passed := Text.charactersWithin characters first
  let last :=
    match characters.drop passed.length with
    | character :: _ => first + character.utf8Size
    | [] => first
  let hidden :=
    characters.isEmpty || characters.length < first ||
      (first < last && characters.length < last - 1)
  Report.headline failure ++
    if hidden then "" else Report.body characters first last failure.expected.describe

end ParserGraph

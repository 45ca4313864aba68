import ParserGraph.Text.Bytes

/-!
# Positions

Where an offset lies in an input: its byte offset, the line it is on and the
column within that line, both counted from one.  Lines end at line feeds, and
columns count characters.
-/

namespace ParserGraph

/-- A place in an input. -/
structure Position where
  /-- Bytes in front of the place. -/
  offset : Nat
  /-- Line feeds in front of the place, and one. -/
  line : Nat
  /-- Characters since the last line feed, and one. -/
  column : Nat
deriving DecidableEq, Repr

namespace Position

/-- The line and column behind characters that start at a line and column. -/
def advance : List Char → (line column : Nat) → Nat × Nat
  | [], line, column => (line, column)
  | character :: rest, line, column =>
      if character = '\n' then advance rest (line + 1) 1 else advance rest line (column + 1)

/-- The position behind the characters in front of a place. -/
def behind (characters : List Char) : Position :=
  let (line, column) := advance characters 1 1
  { offset := Text.byteLength characters, line, column }

/--
The position of an offset.  An offset beyond the end is taken as the end, and one
inside a character as the start of that character.
-/
def locate (input : String) (offset : Nat) : Position :=
  behind (Text.charactersWithin input.toList offset)

/--
The position of an offset, which must not lie inside a character; an offset
beyond the end is taken as the end.
-/
def locate? (input : String) (offset : Nat) : Option Position :=
  let characters := input.toList
  if Text.IsBoundary characters (min offset (Text.byteLength characters)) then
    some (locate input offset)
  else
    none

/-- A position is written as its line, a colon and its column. -/
def display (position : Position) : String :=
  s!"{position.line}:{position.column}"

end Position

end ParserGraph

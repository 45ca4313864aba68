/-!
# Tables of runs

A table that gives every code point a mark is written as its runs: a count, left
out when it is one, and the mark that so many code points carry.
-/

namespace ParserGraph.Text.Runs

/--
The runs of a table, each with the code point behind its last one.  The
arguments are the code point that the next run starts at and the count read so far.
-/
def decode : List Char → (start count : Nat) → List (Nat × Char)
  | [], _, _ => []
  | character :: rest, start, count =>
      if character.isDigit then
        decode rest start (10 * count + (character.toNat - '0'.toNat))
      else
        (start + max count 1, character) :: decode rest (start + max count 1) 0

/-- The runs that a text writes. -/
def ofText (text : String) : List (Nat × Char) :=
  decode text.toList 0 0

/-- The mark of the run that a code point lies in. -/
def markAt? (runs : List (Nat × Char)) (code : Nat) : Option Char :=
  (runs.find? fun run => code < run.1).map Prod.snd

/-- First and last code points of the runs with chosen marks, the first run starting at a place. -/
def rangesFrom (chosen : Char → Bool) : (start : Nat) → List (Nat × Char) → List (Nat × Nat)
  | _, [] => []
  | start, (bound, mark) :: rest =>
      if chosen mark then
        (start, bound - 1) :: rangesFrom chosen bound rest
      else
        rangesFrom chosen bound rest

end ParserGraph.Text.Runs

import ParserGraph.Text.Blank
import ParserGraph.Text.Word

/-!
# Named classes

The classes of characters that patterns name by a letter behind a backslash, and
the classes of ASCII characters that brackets name between colons.
-/

namespace ParserGraph.Pattern

open Text (CharacterSet)

/-- The classes that are named by one letter. -/
inductive ClassLetter where
  | digit
  | space
  | word
deriving DecidableEq, Repr

/-- The decimal digits of all scripts. -/
def digitCharacters : CharacterSet :=
  Text.Category.characters [.decimalNumber]

def asciiSpaceCharacters : CharacterSet :=
  .ofRanges [(0x09, 0x0D), (0x20, 0x20)]

def asciiDigitCharacters : CharacterSet := .range 0x30 0x39

/-- The characters of a class: of all scripts, or of ASCII alone. -/
def ClassLetter.characters (unicode : Bool) : ClassLetter → CharacterSet
  | .digit => if unicode then digitCharacters else asciiDigitCharacters
  | .space => if unicode then Text.blankCharacters else asciiSpaceCharacters
  | .word => if unicode then Text.wordCharacters else Text.asciiWordCharacters

def asciiClass? : String → Option CharacterSet
  | "alnum" => some (.ofRanges [(0x30, 0x39), (0x41, 0x5A), (0x61, 0x7A)])
  | "alpha" => some (.ofRanges [(0x41, 0x5A), (0x61, 0x7A)])
  | "ascii" => some .ascii
  | "blank" => some (.ofRanges [(0x09, 0x09), (0x20, 0x20)])
  | "cntrl" => some (.ofRanges [(0x00, 0x1F), (0x7F, 0x7F)])
  | "digit" => some asciiDigitCharacters
  | "graph" => some (.range 0x21 0x7E)
  | "lower" => some (.range 0x61 0x7A)
  | "print" => some (.range 0x20 0x7E)
  | "punct" =>
      some (.ofRanges [(0x21, 0x2F), (0x3A, 0x40), (0x5B, 0x60), (0x7B, 0x7E)])
  | "space" => some asciiSpaceCharacters
  | "upper" => some (.range 0x41 0x5A)
  | "word" => some Text.asciiWordCharacters
  | "xdigit" => some (.ofRanges [(0x30, 0x39), (0x41, 0x46), (0x61, 0x66)])
  | _ => none

end ParserGraph.Pattern

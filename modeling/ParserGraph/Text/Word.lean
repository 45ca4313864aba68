import ParserGraph.Text.Attribute

/-!
# Words

The characters that words are made of, and the letters and numbers of which names
are made.  Words go by version 16.0 of the Unicode standard, names by version 17.0.
-/

namespace ParserGraph.Text

/-- The characters of words: letters, marks, digits, connectors and joiners. -/
def wordSelection : Selection :=
  { categories := Category.letters ++ Category.marks ++
      [.decimalNumber, .letterNumber, .connectorPunctuation],
    further := [Attribute.otherAlphabeticText, "8204n2y"] }

def wordCharacters : CharacterSet := wordSelection.characters

def asciiWordCharacters : CharacterSet :=
  .ofRanges [(0x30, 0x39), (0x41, 0x5A), (0x5F, 0x5F), (0x61, 0x7A)]

/-- The character belongs to words; ASCII is looked up in the short list. -/
def isWordCharacter (character : Char) : Bool :=
  if character.toNat < 0x80 then
    asciiWordCharacters.contains character
  else
    wordCharacters.contains character

/-- The alphabetic characters that are no letters, those of the latest version included. -/
def alphabeticSigns : CharacterSet :=
  Selection.written [Attribute.otherAlphabeticText, "72544n8y52091ny2ny7n2y5ny"]

def isAlphabetic (character : Char) : Bool :=
  let category := Category.latest character
  Category.letters.contains category || category == .letterNumber ||
    (0x80 ≤ character.toNat && alphabeticSigns.contains character)

/-- The character is a number of any kind. -/
def isNumeric (character : Char) : Bool :=
  Category.numbers.contains (Category.latest character)

end ParserGraph.Text

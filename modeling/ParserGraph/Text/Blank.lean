import ParserGraph.Text.CharacterSet

/-!
# Blank characters

The white space of the Unicode standard, and text without the blanks around it.
A zero-width space or a byte order mark is not blank.
-/

namespace ParserGraph.Text

/-- The characters with the Unicode property White_Space. -/
def blankCharacters : CharacterSet :=
  { ranges :=
      [(0x09, 0x0D), (0x20, 0x20), (0x85, 0x85), (0xA0, 0xA0), (0x1680, 0x1680),
       (0x2000, 0x200A), (0x2028, 0x2029), (0x202F, 0x202F), (0x205F, 0x205F),
       (0x3000, 0x3000)]
    apart := by decide }

/-- The character is white space. -/
def isBlank (character : Char) : Bool :=
  blankCharacters.contains character

def dropBlankEnd (characters : List Char) : List Char :=
  (characters.reverse.dropWhile isBlank).reverse

/-- Characters without the blanks at either end. -/
def trimBlanks (characters : List Char) : List Char :=
  dropBlankEnd (characters.dropWhile isBlank)

/-- Text without the blanks at either end. -/
def trimmed (text : String) : String :=
  String.ofList (trimBlanks text.toList)

end ParserGraph.Text

import ParserGraph.Text.Attribute

/-!
# Visible characters

The characters that are seen where they stand alone, by version 17.0 of the Unicode
standard: not those that leave no trace, nor those that belong to the grapheme in
front of them.
-/

namespace ParserGraph.Text

/-- Spacing characters that belong to the grapheme in front, but for the two halfwidth marks. -/
def spacingExtensions : CharacterSet :=
  (CharacterSet.ofText Attribute.otherGraphemeExtendText).difference (.range 0xFF9E 0xFF9F)

/-- The character belongs to the grapheme in front of it. -/
def extendsGrapheme (character : Char) : Bool :=
  let category := Category.latest character
  category == .nonspacingMark || category == .enclosingMark ||
    spacingExtensions.contains character

/-- The characters that are not shown if they are not known. -/
def ignorableCharacters : CharacterSet :=
  .ofText Attribute.defaultIgnorableText

/-- The character is seen where it stands alone; of ASCII, what is no control is. -/
def isVisible (character : Char) : Bool :=
  if character.toNat < 0x80 then
    0x20 ≤ character.toNat && character.toNat < 0x7F
  else
    !((Category.latest character).isInvisible || extendsGrapheme character ||
      ignorableCharacters.contains character)

end ParserGraph.Text

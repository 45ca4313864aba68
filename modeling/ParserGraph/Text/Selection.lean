import ParserGraph.Text.Category

/-!
# Selections of characters

Most properties of the Unicode standard are made from general categories with some
further characters and some exceptions.  A selection says so.
-/

namespace ParserGraph.Text

/-- How a set of characters is made; runs of yes and no write what is not made from categories. -/
structure Selection where
  /-- The characters of these categories belong to the set. -/
  categories : List Category := []
  /-- These characters belong to the set, too. -/
  further : List String := []
  /-- These characters do not belong to the set. -/
  exceptions : List String := []
deriving DecidableEq, Repr

namespace Selection

def written (texts : List String) : CharacterSet :=
  .unionOf (texts.map .ofText)

def characters (selection : Selection) : CharacterSet :=
  let chosen := (written selection.further).union (Category.characters selection.categories)
  if selection.exceptions.isEmpty then chosen
  else chosen.difference (written selection.exceptions)

end Selection

end ParserGraph.Text

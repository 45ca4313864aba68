import ParserGraph.Text.Age
import ParserGraph.Text.Boundary
import ParserGraph.Text.Script

/-!
# Properties in patterns

The sets of characters that a pattern names by a property of the Unicode standard,
or by a property and its value.  Names are read without regard to case, spaces,
hyphens, underscores and a leading "is".
-/

namespace ParserGraph.Pattern

open Text (CharacterSet)

/-- The ASCII characters of a name in lower case, without spaces, underscores and hyphens. -/
def bareName (name : List Char) : List Char :=
  (name.filter fun character =>
    character.toNat < 0x80 && character != ' ' && character != '_' && character != '-').map
      Char.toLower

/--
A name as it is looked up.  The leading "is" stays only where nothing but a "c"
follows, which would be the name of another property.
-/
def plainName : List Char → String
  | first :: second :: rest =>
      if first.toLower = 'i' ∧ second.toLower = 's' then
        let bare := String.ofList (bareName rest)
        if bare = "c" then "isc" else bare
      else
        String.ofList (bareName (first :: second :: rest))
  | name => String.ofList (bareName name)

/-- The general categories of one plain name; surrogates are no characters. -/
def categoriesOfName? : String → Option (List Text.Category)
  | "lu" | "uppercaseletter" => some [.uppercaseLetter]
  | "ll" | "lowercaseletter" => some [.lowercaseLetter]
  | "lt" | "titlecaseletter" => some [.titlecaseLetter]
  | "lm" | "modifierletter" => some [.modifierLetter]
  | "lo" | "otherletter" => some [.otherLetter]
  | "mn" | "nonspacingmark" => some [.nonspacingMark]
  | "mc" | "spacingmark" => some [.spacingMark]
  | "me" | "enclosingmark" => some [.enclosingMark]
  | "nd" | "decimalnumber" | "digit" => some [.decimalNumber]
  | "nl" | "letternumber" => some [.letterNumber]
  | "no" | "othernumber" => some [.otherNumber]
  | "pc" | "connectorpunctuation" => some [.connectorPunctuation]
  | "pd" | "dashpunctuation" => some [.dashPunctuation]
  | "ps" | "openpunctuation" => some [.openPunctuation]
  | "pe" | "closepunctuation" => some [.closePunctuation]
  | "pi" | "initialpunctuation" => some [.initialPunctuation]
  | "pf" | "finalpunctuation" => some [.finalPunctuation]
  | "po" | "otherpunctuation" => some [.otherPunctuation]
  | "sm" | "mathsymbol" => some [.mathSymbol]
  | "sc" | "currencysymbol" => some [.currencySymbol]
  | "sk" | "modifiersymbol" => some [.modifierSymbol]
  | "so" | "othersymbol" => some [.otherSymbol]
  | "zs" | "spaceseparator" => some [.spaceSeparator]
  | "zl" | "lineseparator" => some [.lineSeparator]
  | "zp" | "paragraphseparator" => some [.paragraphSeparator]
  | "cc" | "control" | "cntrl" => some [.control]
  | "cf" | "format" => some [.format]
  | "co" | "privateuse" => some [.privateUse]
  | "cn" | "unassigned" => some [.unassigned]
  | "l" | "letter" => some Text.Category.letters
  | "lc" | "casedletter" => some [.uppercaseLetter, .lowercaseLetter, .titlecaseLetter]
  | "m" | "mark" | "combiningmark" => some Text.Category.marks
  | "n" | "number" => some Text.Category.numbers
  | "p" | "punctuation" | "punct" => some Text.Category.punctuation
  | "s" | "symbol" => some Text.Category.symbols
  | "z" | "separator" => some Text.Category.separators
  | "c" | "other" => some Text.Category.others
  | _ => none

/-- The characters of a general category, or of one of three further sets, by a plain name. -/
def categoryCharacters? : String → Option CharacterSet
  | "any" => some (.range 0 Text.lastCode)
  | "assigned" => some (Text.Category.characters [.unassigned]).complement
  | "ascii" => some .ascii
  | name => (categoriesOfName? name).map Text.Category.characters

/-- The characters that a property without a value names: an attribute, a category or a script. -/
def propertyCharacters? (name : List Char) : Option CharacterSet :=
  let plain := plainName name
  match Text.Attribute.selection? plain with
  | some selection => some selection.characters
  | none =>
      (categoryCharacters? plain).or ((Text.Script.ofName? plain).map Text.Script.characters)

def valueCharacters? (name value : List Char) : Option CharacterSet :=
  let plain := plainName value
  match plainName name with
  | "generalcategory" | "gc" => categoryCharacters? plain
  | "script" | "sc" => (Text.Script.ofName? plain).map Text.Script.characters
  | "scriptextensions" | "scx" => (Text.Script.ofName? plain).map Text.Script.usedCharacters
  | "age" => Text.Age.characters? plain
  | "graphemeclusterbreak" | "gcb" => Text.Boundary.graphemeClass? plain
  | "wordbreak" | "wb" => (Text.Boundary.wordClass? plain).map Text.Selection.characters
  | "sentencebreak" | "sb" => (Text.Boundary.sentenceClass? plain).map Text.Selection.characters
  | _ => none

end ParserGraph.Pattern

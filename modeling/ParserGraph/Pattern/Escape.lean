import ParserGraph.Pattern.Phrase
import ParserGraph.Pattern.Property
import ParserGraph.Pattern.Spacing
import ParserGraph.Text.Hexadecimal

/-!
# Escapes in patterns

What a backslash and the characters behind it stand for: a character, a class or
an anchor.  Letters and digits without a meaning are refused.
-/

namespace ParserGraph.Pattern

/-- What an escape stands for. -/
inductive Escape where
  | literal (character : Char) (byByte : Bool)
  | escaped (letter : ClassLetter) (negated : Bool)
  | property (set : Text.CharacterSet) (negated : Bool)
  | anchor (anchor : Anchor)
deriving Repr

namespace Escape

/--
The characters up to a closing brace, spacing left out, and the characters
behind the brace.
-/
def readBraced? (spacing : Bool) (characters : List Char) : Option (List Char × List Char) :=
  match _skipped : skipSpacing spacing characters with
  | [] => none
  | '\x7d' :: rest => some ([], rest)
  | character :: rest =>
      (readBraced? spacing rest).map fun (content, behind) => (character :: content, behind)
termination_by characters.length
decreasing_by
  have shorter := skipSpacing_length spacing characters
  rw [_skipped] at shorter
  exact shorter

/-- A given number of characters, spacing between them left out. -/
def readCounted? (spacing : Bool) : Nat → List Char → Option (List Char × List Char)
  | 0, characters => some ([], characters)
  | count + 1, characters =>
      match skipSpacing spacing characters with
      | [] => none
      | character :: rest =>
          (readCounted? spacing count rest).map fun (content, behind) =>
            (character :: content, behind)

/-- The character whose code point hexadecimal digits write. -/
def ofHexadecimal? (digits : List Char) : Option Char :=
  if digits.isEmpty then
    none
  else
    (Text.readHexadecimal? digits).bind Text.characterOfCode?

/-- The character of an escape by its code point: in braces, or with a fixed count of digits. -/
def readCode? (spacing : Bool) (count : Nat) (characters : List Char) :
    Option (Escape × List Char) := do
  match skipSpacing spacing characters with
  | '\x7b' :: rest =>
      let (digits, behind) ← readBraced? spacing rest
      (ofHexadecimal? digits).map fun character => (.literal character false, behind)
  | rest =>
      let (digits, behind) ← readCounted? spacing count rest
      (ofHexadecimal? digits).map fun character => (.literal character (count == 2), behind)

/-- Text in front of and behind the first sign of inequality. -/
def splitUnequal? : List Char → Option (List Char × List Char)
  | [] => none
  | '!' :: '=' :: value => some ([], value)
  | character :: rest =>
      (splitUnequal? rest).map fun (name, value) => (character :: name, value)

/-- Text in front of and behind the first occurrence of a sign. -/
def splitAt? (sign : Char) (content : List Char) : Option (List Char × List Char) :=
  match content.dropWhile (· != sign) with
  | [] => none
  | _ :: value => some (content.takeWhile (· != sign), value)

/--
The characters that the content of braces names, and whether all others are meant.
A sign of inequality parts a property from its value wherever it stands, a colon
goes before an equals sign, and without any of them the content is one name.
-/
def readProperty? (content : List Char) : Option (Text.CharacterSet × Bool) :=
  match splitUnequal? content with
  | some (name, value) => (valueCharacters? name value).map (·, true)
  | none =>
      match (splitAt? ':' content).or (splitAt? '=' content) with
      | some (name, value) => (valueCharacters? name value).map (·, false)
      | none => (propertyCharacters? content).map (·, false)

/-- A set of the Unicode standard, by one letter or by a name in braces. -/
def readClass? (spacing negated : Bool) (characters : List Char) :
    Option (Escape × List Char) := do
  match skipSpacing spacing characters with
  | '\x7b' :: rest =>
      let (content, behind) ← readBraced? spacing rest
      let (set, refused) ← readProperty? content
      some (.property set (negated != refused), behind)
  | letter :: rest =>
      let set ← propertyCharacters? [letter]
      some (.property set negated, rest)
  | [] => none

/-- The edge of a word that a name in braces asks for. -/
def wordEdgeOfName? : String → Option WordEdge
  | "start" => some .start
  | "end" => some .finish
  | "start-half" => some .noneBefore
  | "end-half" => some .noneAfter
  | _ => none

/-- Letters and hyphens, of which the names of word edges are made. -/
def isEdgeLetter (character : Char) : Bool :=
  character.isAlpha || character == '-'

/--
The edge of a word behind the letter b: any edge, unless a name in braces follows.
Braces that start otherwise are left to be a repetition.
-/
def readWordEdge? (spacing : Bool) (characters : List Char) : Option (Escape × List Char) :=
  match characters with
  | '\x7b' :: rest =>
      match skipSpacing spacing rest with
      | [] => none
      | character :: _ =>
          if isEdgeLetter character then do
            let (content, behind) ← readBraced? spacing rest
            let edge ← wordEdgeOfName? (String.ofList content)
            some (.anchor (.word edge), behind)
          else
            some (.anchor (.word .either), characters)
  | _ => some (.anchor (.word .either), characters)

/-- ASCII characters that stand for themselves behind a backslash: neither letters nor digits. -/
def standsForItself (character : Char) : Bool :=
  character.toNat < 0x80 && !character.isAlphanum && character != '<' && character != '>'

/-- The escape behind a backslash, and the characters behind it. -/
def read? (spacing : Bool) : List Char → Option (Escape × List Char)
  | [] => none
  | 'x' :: rest => readCode? spacing 2 rest
  | 'u' :: rest => readCode? spacing 4 rest
  | 'U' :: rest => readCode? spacing 8 rest
  | 'p' :: rest => readClass? spacing false rest
  | 'P' :: rest => readClass? spacing true rest
  | 'd' :: rest => some (.escaped .digit false, rest)
  | 'D' :: rest => some (.escaped .digit true, rest)
  | 's' :: rest => some (.escaped .space false, rest)
  | 'S' :: rest => some (.escaped .space true, rest)
  | 'w' :: rest => some (.escaped .word false, rest)
  | 'W' :: rest => some (.escaped .word true, rest)
  | 'a' :: rest => some (.literal '\x07' false, rest)
  | 'f' :: rest => some (.literal '\x0C' false, rest)
  | 't' :: rest => some (.literal '\t' false, rest)
  | 'n' :: rest => some (.literal '\n' false, rest)
  | 'r' :: rest => some (.literal '\r' false, rest)
  | 'v' :: rest => some (.literal '\x0B' false, rest)
  | 'A' :: rest => some (.anchor .textStart, rest)
  | 'z' :: rest => some (.anchor .textEnd, rest)
  | 'b' :: rest => readWordEdge? spacing rest
  | 'B' :: rest => some (.anchor (.word .neither), rest)
  | '<' :: rest => some (.anchor (.word .start), rest)
  | '>' :: rest => some (.anchor (.word .finish), rest)
  | character :: rest =>
      if standsForItself character then some (.literal character false, rest) else none

end Escape

end ParserGraph.Pattern

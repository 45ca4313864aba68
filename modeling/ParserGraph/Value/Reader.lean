import ParserGraph.Text.Hexadecimal
import ParserGraph.Value.Basic

/-!
# Values read from JSON text

Text is split into tokens, and the tokens drive a machine with a stack of the
arrays and objects that are still open.  An object keeps its fields as they
stand, repeated keys included.  Where a value is only passed over, the machine is
lax: it admits strings and numbers that are well written and stand for nothing,
and arrays and objects of any depth.
-/

namespace ParserGraph.Value

/-- A token of JSON text. -/
inductive Token where
  | openArray
  | closeArray
  | openObject
  | closeObject
  | comma
  | colon
  /-- A value that is neither an array nor an object. -/
  | scalar (value : Value)
  /-- A string with a half of a pair of surrogates, which is no text. -/
  | brokenText
  /-- A number that is too large. -/
  | excessiveNumber
deriving Repr

namespace Token

/-- White space between tokens. -/
def isSpace (character : Char) : Bool :=
  character == ' ' || character == '\t' || character == '\n' || character == '\r'

/-- The number of four hexadecimal digits, and the characters behind them. -/
def readUnit? : List Char → Option (Nat × List Char)
  | first :: second :: third :: fourth :: rest =>
      (Text.readHexadecimal? [first, second, third, fourth]).map fun number => (number, rest)
  | _ => none

/-- The character of two halves of a pair of surrogates. -/
def ofSurrogates? (high low : Nat) : Option Char :=
  if 0xDC00 ≤ low ∧ low ≤ 0xDFFF then
    Text.characterOfCode? (0x10000 + (high - 0xD800) * 0x400 + (low - 0xDC00))
  else
    none

/-- The character of an escape behind its letter u: a code unit, or a pair of surrogates. -/
def readCodeEscape? (characters : List Char) : Option (Char × List Char) := do
  let (unit, rest) ← readUnit? characters
  if 0xD800 ≤ unit ∧ unit ≤ 0xDBFF then
    match rest with
    | '\\' :: 'u' :: behind => do
        let (low, rest) ← readUnit? behind
        (ofSurrogates? unit low).map (·, rest)
    | _ => none
  else
    (Text.characterOfCode? unit).map (·, rest)

def readEscape? : List Char → Option (Char × List Char)
  | '"' :: rest => some ('"', rest)
  | '\\' :: rest => some ('\\', rest)
  | '/' :: rest => some ('/', rest)
  | 'b' :: rest => some ('\x08', rest)
  | 'f' :: rest => some ('\x0C', rest)
  | 'n' :: rest => some ('\n', rest)
  | 'r' :: rest => some ('\r', rest)
  | 't' :: rest => some ('\t', rest)
  | 'u' :: rest => readCodeEscape? rest
  | _ => none

theorem readUnit?_length
    {characters rest : List Char}
    {number : Nat}
    (read : readUnit? characters = some (number, rest)) :
    rest.length < characters.length := by
  unfold readUnit? at read
  split at read
  · obtain ⟨_, _, equality⟩ := Option.map_eq_some_iff.1 read
    cases equality
    simp only [List.length_cons]
    omega
  · simp at read

theorem readCodeEscape?_length
    {characters rest : List Char}
    {character : Char}
    (read : readCodeEscape? characters = some (character, rest)) :
    rest.length < characters.length := by
  unfold readCodeEscape? at read
  simp only [Option.bind_eq_bind, Option.bind_eq_some_iff, Prod.exists] at read
  obtain ⟨unit, behindUnit, unitRead, read⟩ := read
  have shorter := readUnit?_length unitRead
  split at read
  · split at read
    · simp only [Option.bind_eq_some_iff, Prod.exists, Option.map_eq_some_iff] at read
      obtain ⟨low, behindLow, lowRead, _, _, equality⟩ := read
      have shorterLow := readUnit?_length lowRead
      cases equality
      simp only [List.length_cons] at shorter
      omega
    · simp at read
  · obtain ⟨_, _, equality⟩ := Option.map_eq_some_iff.1 read
    cases equality
    exact shorter

theorem readEscape?_length
    {characters rest : List Char}
    {character : Char}
    (read : readEscape? characters = some (character, rest)) :
    rest.length < characters.length := by
  unfold readEscape? at read
  split at read
  case h_9 =>
      have shorter := readCodeEscape?_length read
      simp only [List.length_cons]
      omega
  all_goals simp_all

/-- The characters of a string up to its closing quote, and the characters behind that. -/
def readString? (characters : List Char) : Option (List Char × List Char) :=
  match characters with
  | [] => none
  | '"' :: rest => some ([], rest)
  | '\\' :: rest =>
      match _read : readEscape? rest with
      | none => none
      | some (character, behind) =>
          (readString? behind).map fun (content, rest) => (character :: content, rest)
  | character :: rest =>
      if character.toNat < 0x20 then
        none
      else
        (readString? rest).map fun (content, rest) => (character :: content, rest)
termination_by characters.length
decreasing_by
  · have shorter := readEscape?_length _read
    simp only [List.length_cons]
    omega
  · simp

/--
The characters behind a string in which escapes need no meaning, only their form:
a code unit may be any four digits.
-/
def passString? : List Char → Option (List Char)
  | [] => none
  | '"' :: rest => some rest
  | '\\' :: 'u' :: first :: second :: third :: fourth :: rest =>
      if [first, second, third, fourth].all fun digit => (Text.hexDigit? digit).isSome then
        passString? rest
      else
        none
  | '\\' :: character :: rest =>
      if ['"', '\\', '/', 'b', 'f', 'n', 'r', 't'].contains character then
        passString? rest
      else
        none
  | character :: rest => if character.toNat < 0x20 then none else passString? rest

/-- A string behind its opening quote as a token. -/
def readText? (characters : List Char) : Option (Token × List Char) :=
  match readString? characters with
  | some (content, rest) => some (.scalar (.text (String.ofList content)), rest)
  | none => (passString? characters).map fun rest => (.brokenText, rest)

/-- The digits behind a point, if there is one; a point without digits is refused. -/
def readFraction? : List Char → Option (Option (List Char) × List Char)
  | '.' :: rest =>
      let digits := rest.takeWhile Char.isDigit
      if digits.isEmpty then none else some (some digits, rest.dropWhile Char.isDigit)
  | rest => some (none, rest)

/-- The exponent behind its letter; a letter without digits is refused. -/
def readPower? : List Char → Option (Option Int × List Char)
  | letter :: rest =>
      if letter = 'e' ∨ letter = 'E' then
        let (negative, unsigned) := Decimal.splitSign rest
        let digits := unsigned.takeWhile Char.isDigit
        let number : Int := Decimal.readDigits digits
        if digits.isEmpty then
          none
        else
          some (some (if negative then -number else number), unsigned.dropWhile Char.isDigit)
      else
        some (none, letter :: rest)
  | [] => some (none, [])

/-- A number whose sign is read already; a zero in front of other digits is refused. -/
def readNumber? (negative : Bool) (characters : List Char) : Option (Token × List Char) := do
  let whole := characters.takeWhile Char.isDigit
  if whole.isEmpty || (whole.length > 1 && whole.head? == some '0') then
    none
  else
    let (fraction, rest) ← readFraction? (characters.dropWhile Char.isDigit)
    let (power, rest) ← readPower? rest
    match Number.ofLiteral? negative whole fraction power with
    | some amount => some (.scalar (.number amount), rest)
    | none => some (.excessiveNumber, rest)

/-- The token in front of characters that do not start with white space. -/
def read? : List Char → Option (Token × List Char)
  | [] => none
  | '[' :: rest => some (.openArray, rest)
  | ']' :: rest => some (.closeArray, rest)
  | '\x7b' :: rest => some (.openObject, rest)
  | '\x7d' :: rest => some (.closeObject, rest)
  | ',' :: rest => some (.comma, rest)
  | ':' :: rest => some (.colon, rest)
  | 'n' :: 'u' :: 'l' :: 'l' :: rest => some (.scalar .null, rest)
  | 't' :: 'r' :: 'u' :: 'e' :: rest => some (.scalar (.bool true), rest)
  | 'f' :: 'a' :: 'l' :: 's' :: 'e' :: rest => some (.scalar (.bool false), rest)
  | '"' :: rest => readText? rest
  | '-' :: rest => readNumber? true rest
  | characters => readNumber? false characters

/-- The tokens of text; each takes a character at least, so as many steps as characters do. -/
def readAll? : (fuel : Nat) → List Char → Option (List Token)
  | 0, characters => if characters.all isSpace then some [] else none
  | fuel + 1, characters =>
      match characters.dropWhile isSpace with
      | [] => some []
      | character :: rest => do
          let (token, behind) ← read? (character :: rest)
          (readAll? fuel behind).map (token :: ·)

end Token

/-- An array or object that is still open. -/
inductive Frame where
  /-- The items read so far, the last one first. -/
  | array (items : List Value)
  /-- The fields read so far, the last one first, and the key whose value follows. -/
  | object (fields : List (String × Value)) (key : String)
deriving Repr

/-- What may follow in a text of values. -/
inductive Expected where
  /-- A value must follow. -/
  | value
  /-- An array was opened: a value or its end follows. -/
  | firstItem
  /-- An object was opened: a key or its end follows. -/
  | firstKey
  /-- A comma stands behind these fields: a key follows. -/
  | key (fields : List (String × Value))
  /-- A key stands behind these fields: a colon follows. -/
  | colon (fields : List (String × Value)) (key : String)
  /-- A value is complete: a comma, the end of what holds it, or the end of the text follows. -/
  | separator (value : Value)
deriving Repr

/-- The number of arrays and objects that may be open at a time. -/
def depthLimit : Nat := 127

/-- A step of the reader where a value may start; a lax reader takes what is no value for null. -/
def start? (lax : Bool) (frames : List Frame) : Token → Option (Expected × List Frame)
  | .scalar value => some (.separator value, frames)
  | .brokenText | .excessiveNumber => if lax then some (.separator .null, frames) else none
  | .openArray =>
      if lax || frames.length < depthLimit then some (.firstItem, .array [] :: frames) else none
  | .openObject =>
      if lax || frames.length < depthLimit then some (.firstKey, frames) else none
  | _ => none

/-- A step of the reader where a value is complete. -/
def resume? (value : Value) : List Frame → Token → Option (Expected × List Frame)
  | .array items :: rest, .comma => some (.value, .array (value :: items) :: rest)
  | .array items :: rest, .closeArray =>
      some (.separator (.array (value :: items).reverse), rest)
  | .object fields key :: rest, .comma => some (.key ((key, value) :: fields), rest)
  | .object fields key :: rest, .closeObject =>
      some (.separator (.object ((key, value) :: fields).reverse), rest)
  | _, _ => none

/-- The key of a field; a lax reader takes what is no text for an empty one. -/
def key? (lax : Bool) : Token → Option String
  | .scalar (.text key) => some key
  | .brokenText => if lax then some "" else none
  | _ => none

/-- A step of the reader; `none` when the token may not stand here. -/
def advance? (lax : Bool) (frames : List Frame) : Expected → Token →
    Option (Expected × List Frame)
  | .value, token => start? lax frames token
  | .firstItem, .closeArray => some (.separator (.array []), frames.drop 1)
  | .firstItem, token => start? lax frames token
  | .firstKey, .closeObject => some (.separator (.object []), frames)
  | .firstKey, token => (key? lax token).map fun key => (.colon [] key, frames)
  | .key fields, token => (key? lax token).map fun key => (.colon fields key, frames)
  | .colon fields key, .colon => some (.value, .object fields key :: frames)
  | .separator value, token => resume? value frames token
  | _, _ => none

/--
The value that tokens complete, from what is expected and the open frames on, and
the tokens behind it.
-/
def takeFrom? (lax : Bool) : Expected → List Frame → List Token →
    Option (Value × List Token)
  | .separator value, [], rest => some (value, rest)
  | _, _, [] => none
  | expected, frames, token :: rest =>
      match advance? lax frames expected token with
      | some (expected, frames) => takeFrom? lax expected frames rest
      | none => none

/-- The value in front of tokens, and the tokens behind it. -/
def take? (lax : Bool) (tokens : List Token) : Option (Value × List Token) :=
  takeFrom? lax .value [] tokens

/-- What a reader of tokens makes of a text; nothing may be left over. -/
def readWith? {Result : Type} (read : List Token → Option (Result × List Token))
    (content : String) : Option Result := do
  let characters := content.toList
  let (result, rest) ← read (← Token.readAll? characters.length characters)
  if rest.isEmpty then some result else none

/-- The value that a text holds, if it holds one value and nothing else. -/
def read? (content : String) : Option Value :=
  readWith? (take? false) content

end ParserGraph.Value

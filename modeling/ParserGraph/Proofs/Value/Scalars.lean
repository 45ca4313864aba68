import ParserGraph.Proofs.Decimal.Layouts
import ParserGraph.Value.Reader
import ParserGraph.Value.Writer

/-!
# Numbers and texts read again

The text of a number is read as one token: what its literal stands for to the reader, which
need not be the number again, unless it is an integer.  A literal ends where no character
follows that could belong to it.  The text of a text gives back its characters, as each
escape is read as the character that it stands for.
-/

namespace ParserGraph

namespace Decimal.Literal

/-- The integer of a power of ten. -/
def powerValue (power : Bool × List Char) : Int :=
  if power.1 then -(readDigits power.2 : Int) else (readDigits power.2 : Int)

end Decimal.Literal

namespace Value.Token

open Decimal

variable {rest : List Char}

/-! ## Numbers -/

/-- What stands in front cannot belong to a number. -/
def EndsNumber (rest : List Char) : Prop :=
  ∀ character ∈ rest.head?, character = ',' ∨ character = ']' ∨ character = '\x7d'

theorem endsNumber_nil : EndsNumber [] := nofun

theorem endsNumber_comma (rest : List Char) : EndsNumber (',' :: rest) := by
  simp [EndsNumber]

theorem endsNumber_closeArray (rest : List Char) : EndsNumber (']' :: rest) := by
  simp [EndsNumber]

theorem endsNumber_closeObject (rest : List Char) : EndsNumber ('\x7d' :: rest) := by
  simp [EndsNumber]

/-- The token of a literal. -/
def ofLiteral (literal : Literal) : Token :=
  match Number.ofLiteral? literal.negative literal.whole literal.fraction
      (literal.power.map Literal.powerValue) with
  | some amount => .scalar (.number amount)
  | none => .excessiveNumber

/-- Digits are taken up to where none follows. -/
theorem takeWhile_digits
    {digits : List Char}
    (areDigits : AreDigits digits)
    (ends : ∀ character ∈ rest.head?, character.isDigit = false) :
    (digits ++ rest).takeWhile Char.isDigit = digits ∧
      (digits ++ rest).dropWhile Char.isDigit = rest := by
  have all : ∀ character ∈ digits, character.isDigit = true := fun character member =>
    isDigit_iff.2 (areDigits.digits character member)
  rw [List.takeWhile_append_of_pos all, List.dropWhile_append_of_pos all]
  cases rest with
  | nil => simp
  | cons first rest => simp [ends first rfl]

theorem readPower?_literal
    {power : Option (Bool × List Char)}
    (areDigits : ∀ exponent ∈ power, AreDigits exponent.2)
    (ends : EndsNumber rest) :
    readPower? (power.elim [] Literal.powerCharacters ++ rest) =
      some (power.map Literal.powerValue, rest) := by
  cases power with
  | none =>
      cases rest with
      | nil => rfl
      | cons first rest =>
          have other : ¬ (first = 'e' ∨ first = 'E') := by
            rcases ends first rfl with rfl | rfl | rfl <;> decide
          exact if_neg other
  | some power =>
      rcases power with ⟨negative, digits⟩
      have digitsOf : AreDigits digits := areDigits _ rfl
      have noDigit : ∀ character ∈ rest.head?, character.isDigit = false := by
        intro character leads
        rcases ends character leads with rfl | rfl | rfl <;> rfl
      rcases takeWhile_digits digitsOf noDigit with ⟨taken, left⟩
      have signed : splitSign ((if negative then '-' else '+') :: (digits ++ rest)) =
          (negative, digits ++ rest) := by
        cases negative <;> rfl
      have some_digit : digits.isEmpty = false := by simp [digitsOf.some_digit]
      simp only [Option.elim_some, Literal.powerCharacters, List.cons_append, readPower?, true_or,
        if_true, signed, taken, left, some_digit, Bool.false_eq_true, if_false, Option.map_some,
        Literal.powerValue]

theorem readFraction?_literal
    {fraction : Option (List Char)}
    (areDigits : ∀ digits ∈ fraction, AreDigits digits)
    (ends : ∀ character ∈ rest.head?, character.isDigit = false ∧ character ≠ '.') :
    readFraction? (fraction.elim [] ('.' :: ·) ++ rest) = some (fraction, rest) := by
  cases fraction with
  | none =>
      cases rest with
      | nil => rfl
      | cons first rest =>
          rw [Option.elim_none, List.nil_append, readFraction?]
          rintro more ⟨⟩
          exact (ends '.' rfl).2 rfl
  | some digits =>
      have digitsOf : AreDigits digits := areDigits _ rfl
      rcases takeWhile_digits digitsOf fun character leads => (ends character leads).1 with
        ⟨taken, left⟩
      have some_digit : digits.isEmpty = false := by simp [digitsOf.some_digit]
      simp only [Option.elim_some, List.cons_append, readFraction?, taken, left, some_digit,
        Bool.false_eq_true, if_false]

/-- Behind the digits of a literal no digit follows. -/
theorem head?_behind_digits
    (power : Option (Bool × List Char))
    (ends : EndsNumber rest) :
    ∀ character ∈ (power.elim [] Literal.powerCharacters ++ rest).head?,
      character.isDigit = false ∧ character ≠ '.' := by
  intro character leads
  cases power with
  | none => rcases ends character leads with rfl | rfl | rfl <;> decide
  | some power =>
      cases leads
      decide

theorem readNumber?_literal
    {literal : Literal}
    (isWritten : literal.IsWritten)
    (ends : EndsNumber rest) :
    readNumber? literal.negative
        (literal.whole ++ (literal.fraction.elim [] ('.' :: ·) ++
          (literal.power.elim [] Literal.powerCharacters ++ rest))) =
      some (ofLiteral literal, rest) := by
  have behind := head?_behind_digits literal.power ends
  have noDigit : ∀ character ∈ (literal.fraction.elim [] ('.' :: ·) ++
      (literal.power.elim [] Literal.powerCharacters ++ rest)).head?,
      character.isDigit = false := by
    intro character leads
    cases isThere : literal.fraction with
    | none =>
        rw [isThere] at leads
        exact (behind character leads).1
    | some digits =>
        rw [isThere] at leads
        cases leads
        rfl
  rcases takeWhile_digits isWritten.whole.toAreDigits noDigit with ⟨taken, left⟩
  have allowed : (literal.whole.isEmpty ||
      (literal.whole.length > 1 && literal.whole.head? == some '0')) = false := by
    have some_digit : literal.whole.isEmpty = false := by simp [isWritten.whole.some_digit]
    rw [some_digit, Bool.false_or]
    rcases isWritten.whole.noZeroInFront with single | other
    · simp [Nat.not_lt.2 single]
    · simp [other]
  have fractionRead := readFraction?_literal isWritten.fraction behind
  have powerRead := readPower?_literal isWritten.power ends
  simp only [readNumber?, taken, left, allowed, Bool.false_eq_true, if_false, fractionRead,
    powerRead, Option.bind_eq_bind, Option.bind_some, ofLiteral]
  cases Number.ofLiteral? literal.negative literal.whole literal.fraction
    (literal.power.map Literal.powerValue) <;> rfl

/-- A digit starts nothing but a number. -/
theorem read?_digit
    {digit : Char}
    (isDigit : digit.isDigit = true)
    (rest : List Char) :
    read? (digit :: rest) = readNumber? false (digit :: rest) := by
  unfold read?
  split <;> first | rfl | exact absurd isDigit (by simp_all [Char.isDigit])

/-- A literal is read as its token, up to where no character follows that could belong to it. -/
theorem read?_literal
    {literal : Literal}
    (isWritten : literal.IsWritten)
    (ends : EndsNumber rest) :
    read? (literal.characters ++ rest) = some (ofLiteral literal, rest) := by
  have read := readNumber?_literal isWritten ends
  simp only [Literal.characters, List.append_assoc]
  cases negative : literal.negative with
  | true =>
      rw [negative] at read
      exact read
  | false =>
      rw [negative] at read
      rcases whole : literal.whole with _ | ⟨digit, digits⟩
      · exact absurd whole isWritten.whole.some_digit
      · have isDigit : digit.isDigit = true :=
          isDigit_iff.2 (isWritten.whole.digits digit (whole ▸ List.mem_cons_self))
        rw [whole] at read
        exact (read?_digit isDigit _).trans read

/-- The literal of an integer. -/
def integerLiteral (value : Int) : Literal where
  negative := decide (value < 0)
  whole := Nat.toDigits 10 value.natAbs

theorem isWritten_integerLiteral (value : Int) : (integerLiteral value).IsWritten where
  whole := areWhole_toDigits value.natAbs
  fraction := nofun
  power := nofun

theorem toList_toString (value : Int) :
    (toString value).toList = (integerLiteral value).characters := by
  cases value <;> simp [toString, Int.repr, integerLiteral, Literal.characters]

theorem ofLiteral_integerLiteral
    (value : Int)
    (inRange : -0x8000000000000000 ≤ value ∧ value < 0x10000000000000000) :
    ofLiteral (integerLiteral value) = .scalar (.number (.integer value inRange)) := by
  have digits : readDigits (Nat.toDigits 10 value.natAbs) = value.natAbs :=
    (readDigits_eq_placeValue _).trans (placeValue_toDigits value.natAbs)
  have signed : (if decide (value < 0) then -(value.natAbs : Int) else value.natAbs) = value := by
    simp only [decide_eq_true_eq]
    split_ifs <;> omega
  have noMinusZero : (decide (value < 0) && value.natAbs == 0) = false := by
    simp only [Bool.and_eq_false_iff, decide_eq_false_iff_not, beq_eq_false_iff_ne]
    omega
  have fits : Number.ofInt? value = some (.integer value inRange) := dif_pos inRange
  simp only [ofLiteral, integerLiteral, Number.ofLiteral?, digits, signed, noMinusZero, fits,
    Option.isSome_none, Option.map_none, Bool.or_false, Bool.false_eq_true, if_false,
    Option.some_or]

/-- A number is written as a literal. -/
theorem exists_literal_number (number : Number) :
    ∃ literal : Literal, literal.IsWritten ∧ number.write.toList = literal.characters := by
  cases number with
  | integer value inRange =>
      exact ⟨integerLiteral value, isWritten_integerLiteral value, toList_toString value⟩
  | float value =>
      rcases Number.layout.write_eq value with ⟨literal, isWritten, _, written⟩
      exact ⟨literal, isWritten, written⟩

end Value.Token

/-- What the text of a number is read as, if a number is read. -/
def Number.reread? (number : Number) : Option Number :=
  match Value.Token.read? number.write.toList with
  | some (.scalar (.number amount), _) => some amount
  | _ => none

/-- An integer is read as it is. -/
theorem Number.reread?_integer
    (value : Int)
    (inRange : -0x8000000000000000 ≤ value ∧ value < 0x10000000000000000) :
    reread? (.integer value inRange) = some (.integer value inRange) := by
  have read := Value.Token.read?_literal (Value.Token.isWritten_integerLiteral value)
    Value.Token.endsNumber_nil
  rw [List.append_nil, Value.Token.ofLiteral_integerLiteral value inRange] at read
  rw [reread?, write, Value.Token.toList_toString, read]

theorem Number.reread?_of_ofInt?
    {value : Int}
    {number : Number}
    (made : ofInt? value = some number) :
    number.reread? = some number := by
  unfold ofInt? at made
  split_ifs at made with inRange
  cases made
  exact reread?_integer value inRange

namespace Value.Token

/-- The token of a number's text. -/
def ofNumber (number : Number) : Token :=
  match number.reread? with
  | some amount => .scalar (.number amount)
  | none => .excessiveNumber

/-- The text of a number is read as one token. -/
theorem read?_write (number : Number) (ends : EndsNumber rest) :
    read? (number.write.toList ++ rest) = some (ofNumber number, rest) := by
  rcases exists_literal_number number with ⟨literal, isWritten, written⟩
  have alone := read?_literal isWritten endsNumber_nil
  rw [List.append_nil] at alone
  rw [written, read?_literal isWritten ends, ofNumber, Number.reread?, written, alone]
  unfold ofLiteral
  cases Number.ofLiteral? literal.negative literal.whole literal.fraction
    (literal.power.map Decimal.Literal.powerValue) <;> rfl

/-! ## Texts -/

theorem readString?_escape
    {escape behind : List Char}
    {character : Char}
    (read : readEscape? escape = some (character, behind)) :
    readString? ('\\' :: escape) =
      (readString? behind).map fun (content, rest) => (character :: content, rest) := by
  rw [readString?]
  split
  case h_1 failed =>
      rw [read] at failed
      cases failed
  case h_2 found =>
      rw [read] at found
      cases found
      rfl

theorem readString?_plain
    {character : Char}
    (noQuote : character ≠ '"')
    (noEscape : character ≠ '\\')
    (visible : ¬ character.toNat < 0x20)
    (rest : List Char) :
    readString? (character :: rest) =
      (readString? rest).map fun (content, rest) => (character :: content, rest) := by
  rw [readString?, if_neg visible]
  · exact noQuote
  · exact noEscape

/-- A control character is written with four digits, which are read as its code. -/
theorem readEscape?_escapedControl
    {character : Char}
    (control : character.toNat < 0x20)
    (rest : List Char) :
    ∃ digits, (escapedControl character).toList = '\\' :: 'u' :: digits ∧
      readEscape? ('u' :: (digits ++ rest)) = some (character, rest) := by
  have codes : ∀ code < 0x20, ∃ third fourth,
      ("\\u" ++ String.ofList (List.replicate (4 - (Text.hexadecimal code).length) '0') ++
          Text.hexadecimal code).toList = ['\\', 'u', '0', '0', third, fourth] ∧
        Text.readHexadecimal? ['0', '0', third, fourth] = some code := by
    intro code small
    refine ⟨Nat.digitChar (code / 16), Nat.digitChar (code % 16), ?_⟩
    revert code
    decide
  rcases codes character.toNat control with ⟨third, fourth, written, read⟩
  refine ⟨['0', '0', third, fourth], written, ?_⟩
  have noSurrogate : ¬ (0xD800 ≤ character.toNat ∧ character.toNat ≤ 0xDBFF) := by omega
  have isCode : Text.characterOfCode? character.toNat = some character := by
    have valid : character.toNat.isValidChar := character.valid
    rw [Text.characterOfCode?, if_pos valid, Char.ofNat_toNat]
  simp only [readEscape?, readCodeEscape?, List.cons_append, List.nil_append, readUnit?, read,
    Option.map_some, Option.bind_eq_bind, Option.bind_some, if_neg noSurrogate, isCode]

/-- A character that is written in a string is read as it is. -/
theorem readString?_writeCharacter (character : Char) (rest : List Char) :
    readString? ((writeCharacter character).toList ++ rest) =
      (readString? rest).map fun (content, rest) => (character :: content, rest) := by
  unfold writeCharacter
  split
  case h_8 noQuote noEscape _ _ _ _ _ =>
      split_ifs with control
      · rcases readEscape?_escapedControl control rest with ⟨digits, written, read⟩
        rw [written]
        exact readString?_escape read
      · rw [Char.toString_eq_singleton, String.toList_singleton]
        exact readString?_plain (noQuote ·) (noEscape ·) control rest
  all_goals exact readString?_escape rfl

theorem readString?_written (content rest : List Char) :
    readString? (content.flatMap (fun character => (writeCharacter character).toList) ++
      '"' :: rest) = some (content, rest) := by
  induction content with
  | nil => rw [List.flatMap_nil, List.nil_append, readString?]
  | cons character content hypothesis =>
      rw [List.flatMap_cons, List.append_assoc, readString?_writeCharacter, hypothesis]
      rfl

/-- The text of a text is read as one token. -/
theorem read?_writeText (content : String) (rest : List Char) :
    read? ((writeText content).toList ++ rest) = some (.scalar (.text content), rest) := by
  have written : (writeText content).toList ++ rest =
      '"' :: (content.toList.flatMap (fun character => (writeCharacter character).toList) ++
        '"' :: rest) := by
    simp [writeText, String.toList_join, List.flatMap_map]
  rw [written]
  show readText? _ = _
  rw [readText?, readString?_written]
  simp only [String.ofList_toList]

end Value.Token

end ParserGraph

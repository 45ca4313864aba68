import Mathlib.Data.Nat.Digits.Defs
import ParserGraph.Decimal.Numeral

/-!
# Integers as text

An integer is written as digits, each of which counts ten times as much as the one behind
it, with or without a sign in front of them.  What is read as an integer is exactly what
writes one, so that one integer may be written in many ways: with either sign or none if
it is zero, and with any number of zeros in front.
-/

namespace ParserGraph.Decimal

/-- One or more of the digits from zero to nine. -/
structure AreDigits (characters : List Char) : Prop where
  some_digit : characters ≠ []
  digits : ∀ character ∈ characters, '0' ≤ character ∧ character ≤ '9'

/-- The sum of the digits, each times the power of ten that belongs to its place. -/
def placeValue (digits : List Char) : Nat :=
  Nat.ofDigits 10 (digits.reverse.map digitValue)

/-- An optional sign and one or more digits write an integer. -/
inductive WritesInteger : List Char → Int → Prop where
  | unsigned {digits : List Char} (areDigits : AreDigits digits) :
      WritesInteger digits (placeValue digits)
  | plus {digits : List Char} (areDigits : AreDigits digits) :
      WritesInteger ('+' :: digits) (placeValue digits)
  | minus {digits : List Char} (areDigits : AreDigits digits) :
      WritesInteger ('-' :: digits) (-(placeValue digits : Int))

variable {characters : List Char} {value : Int}

theorem isDigit_iff {character : Char} :
    character.isDigit = true ↔ '0' ≤ character ∧ character ≤ '9' := by
  simp [Char.isDigit, Char.le_def]

/-- Digits are read from the front, and the number read so far is taken ten times. -/
theorem readDigits_eq_placeValue (digits : List Char) : readDigits digits = placeValue digits := by
  rw [readDigits, placeValue, Nat.ofDigits_eq_foldr, List.foldr_map, List.foldl_eq_foldr_reverse]
  congr 1
  funext digit number
  simp [Nat.add_comm]

theorem readNatural?_eq_some_iff {number : Nat} :
    readNatural? characters = some number ↔
      AreDigits characters ∧ number = placeValue characters := by
  have digits : (!characters.isEmpty && characters.all Char.isDigit) = true ↔
      AreDigits characters := by
    simp only [Bool.and_eq_true, Bool.not_eq_true', List.isEmpty_eq_false_iff, List.all_eq_true,
      isDigit_iff]
    exact ⟨fun both => ⟨both.1, both.2⟩, fun both => ⟨both.1, both.2⟩⟩
  rw [readNatural?, readDigits_eq_placeValue]
  split_ifs with found
  · simp [digits.1 found, eq_comm]
  · simp [mt digits.2 found]

/-- Digits have no sign in front of them to be taken off. -/
theorem splitSign_of_areDigits (areDigits : AreDigits characters) :
    splitSign characters = (false, characters) := by
  unfold splitSign
  split
  · exact absurd (areDigits.digits '-' List.mem_cons_self) (by decide)
  · exact absurd (areDigits.digits '+' List.mem_cons_self) (by decide)
  · rfl

theorem readInteger?_of_splitSign
    {negative : Bool}
    {digits : List Char}
    (split : splitSign characters = (negative, digits)) :
    readInteger? characters = some value ↔
      AreDigits digits ∧
        value = if negative then -(placeValue digits : Int) else (placeValue digits : Int) := by
  rw [readInteger?, split]
  cases natural : readNatural? digits with
  | none =>
      have none_digits : ¬ AreDigits digits := fun areDigits => by
        rw [readNatural?_eq_some_iff.2 ⟨areDigits, rfl⟩] at natural
        cases natural
      simp [natural, none_digits]
  | some number =>
      rcases readNatural?_eq_some_iff.1 natural with ⟨areDigits, rfl⟩
      simp [natural, areDigits, eq_comm]

/-- What is read as an integer is exactly what writes it. -/
theorem readInteger?_eq_some_iff :
    readInteger? characters = some value ↔ WritesInteger characters value := by
  constructor
  · intro read
    rcases split : splitSign characters with ⟨negative, digits⟩
    rcases (readInteger?_of_splitSign split).1 read with ⟨areDigits, rfl⟩
    unfold splitSign at split
    split at split <;> cases split
    · exact .minus areDigits
    · exact .plus areDigits
    · exact .unsigned areDigits
  · rintro (areDigits | areDigits | areDigits)
    · exact (readInteger?_of_splitSign (splitSign_of_areDigits areDigits)).2 ⟨areDigits, rfl⟩
    · exact (readInteger?_of_splitSign rfl).2 ⟨areDigits, rfl⟩
    · exact (readInteger?_of_splitSign rfl).2 ⟨areDigits, rfl⟩

theorem areDigits_toDigits (number : Nat) : AreDigits (Nat.toDigits 10 number) where
  some_digit := Nat.toDigits_ne_nil
  digits _ member := isDigit_iff.1 (Nat.isDigit_of_mem_toDigits (by decide) (by decide) member)

theorem placeValue_toDigits (number : Nat) : placeValue (Nat.toDigits 10 number) = number := by
  rw [← readDigits_eq_placeValue]
  exact Nat.ofDigitChars_toDigits (by decide) (by decide)

/-- What an integer is usually written as writes it: without a plus sign or zeros in front. -/
theorem writesInteger_toString (value : Int) : WritesInteger (toString value).toList value := by
  cases value with
  | ofNat number =>
      have writes := WritesInteger.unsigned (areDigits_toDigits number)
      rw [placeValue_toDigits] at writes
      have written : (toString (Int.ofNat number)).toList = Nat.toDigits 10 number := by
        simp [toString, Int.repr]
      rw [written]
      exact writes
  | negSucc number =>
      have writes := WritesInteger.minus (areDigits_toDigits (number + 1))
      rw [placeValue_toDigits] at writes
      have written : (toString (Int.negSucc number)).toList =
          '-' :: Nat.toDigits 10 (number + 1) := by
        simp [toString, Int.repr]
      rw [written]
      exact writes

end ParserGraph.Decimal

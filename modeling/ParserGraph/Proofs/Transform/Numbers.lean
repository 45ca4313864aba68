import ParserGraph.Proofs.Decimal.Integers
import ParserGraph.Proofs.Text.Blanks
import ParserGraph.Transform

/-!
# Numbers out of text

Text becomes an integer exactly if what is left of it without the blanks around it writes
one of 64 bits with a sign.  All other text becomes a finite double or stays what it is,
with its blanks, and values other than text are left alone.  An integer that is joined to
text is read back from that.
-/

namespace ParserGraph

/-- An integer is written without blanks. -/
theorem Decimal.WritesInteger.isBlank_eq_false
    {characters : List Char}
    {value : Int}
    (writes : Decimal.WritesInteger characters value) :
    ∀ character ∈ characters, Text.isBlank character = false := by
  have digit : ∀ {digits : List Char}, Decimal.AreDigits digits →
      ∀ character ∈ digits, Text.isBlank character = false := by
    intro digits areDigits character member
    have bounds := areDigits.digits character member
    have least : 48 ≤ character.toNat := bounds.1
    have greatest : character.toNat ≤ 57 := bounds.2
    simp [Text.isBlank, Text.blankCharacters, Text.CharacterSet.contains, Text.CharacterSet.within]
    omega
  rcases writes with areDigits | areDigits | areDigits
  · exact digit areDigits
  · exact List.forall_mem_cons.2 ⟨by decide, digit areDigits⟩
  · exact List.forall_mem_cons.2 ⟨by decide, digit areDigits⟩

namespace Conversion

/-- An integer of 64 bits with a sign. -/
def FitsSigned (value : Int) : Prop :=
  -2 ^ 63 ≤ value ∧ value < 2 ^ 63

/-- Without the blanks around it the text writes the integer, and that fits. -/
def HoldsInteger (content : String) (value : Int) : Prop :=
  ∃ core, Text.Strips content.toList core ∧ Decimal.WritesInteger core value ∧ FitsSigned value

/-- The integer as a number. -/
def signed (value : Int) (fits : FitsSigned value) : Number :=
  .integer value ⟨fits.1, fits.2.trans (by decide)⟩

variable {content : String} {value : Int}

theorem holdsInteger_iff :
    HoldsInteger content value ↔
      Decimal.readInteger? (Text.trimBlanks content.toList) = some value ∧ FitsSigned value := by
  simp only [HoldsInteger, Text.strips_iff, Decimal.readInteger?_eq_some_iff]
  constructor
  · rintro ⟨core, rfl, both⟩
    exact both
  · exact fun both => ⟨_, rfl, both⟩

/-- What is read is the integer that the text holds, and otherwise no integer is read. -/
theorem readNumber?_cases (content : String) :
    (∃ value, ∃ fits : FitsSigned value,
        HoldsInteger content value ∧ readNumber? content = some (signed value fits)) ∨
      (∀ value, ¬ HoldsInteger content value) ∧
        (readNumber? content = none ∨ ∃ double, readNumber? content = some (.float double)) := by
  have doubles : ∀ double? : Option Decimal.Binary64,
      double?.map Number.float = none ∨
        ∃ double, double?.map Number.float = some (.float double) := by
    rintro (- | double) <;> simp
  simp only [holdsInteger_iff]
  rw [readNumber?]
  cases Decimal.readInteger? (Text.trimBlanks content.toList) with
  | none => exact Or.inr ⟨by simp, doubles _⟩
  | some value =>
      simp only
      split_ifs with fits
      · exact Or.inl ⟨value, fits, ⟨rfl, fits⟩, rfl⟩
      · refine Or.inr ⟨?_, doubles _⟩
        rintro other ⟨⟨⟩, fitting⟩
        exact fits fitting

theorem apply_number_text (content : String) :
    apply .number (.text content) =
      ((readNumber? content).map Value.number).getD (.text content) := rfl

/-- How values are converted to numbers. -/
structure ConvertsNumbers : Prop where
  integer_iff :
    ∀ content value inRange,
      apply .number (.text content) = .number (.integer value inRange) ↔
        HoldsInteger content value
  /-- Text without an integer becomes a finite double or stays as it is. -/
  other_text :
    ∀ content, (∀ value, ¬ HoldsInteger content value) →
      (∃ double, apply .number (.text content) = .number (.float double)) ∨
        apply .number (.text content) = .text content
  /-- The text that an integer is joined to is converted back. -/
  joined_integer :
    ∀ value fits,
      apply .number (apply .join (.number (signed value fits))) = .number (signed value fits)
  other_value :
    ∀ value, (∀ content, value ≠ .text content) → apply .number value = value

theorem apply_number_eq_integer_iff
    (content : String)
    (value : Int)
    (inRange : -0x8000000000000000 ≤ value ∧ value < 0x10000000000000000) :
    apply .number (.text content) = .number (.integer value inRange) ↔
      HoldsInteger content value := by
  rw [apply_number_text]
  rcases readNumber?_cases content with ⟨number, fits, holds, read⟩ | ⟨nothing, rest⟩
  · have unique : HoldsInteger content value ↔ number = value := by
      rw [holdsInteger_iff] at holds ⊢
      rw [holds.1, Option.some.injEq, and_iff_left_iff_imp]
      rintro rfl
      exact fits
    simp [read, unique, signed]
  · rcases rest with read | ⟨double, read⟩ <;> simp [read, nothing value]

/-- An integer that fits is read from what it is written as, around which there are no blanks. -/
theorem holdsInteger_toString (fits : FitsSigned value) : HoldsInteger (toString value) value := by
  have writes := Decimal.writesInteger_toString value
  have visible := writes.isBlank_eq_false
  refine ⟨_, Text.strips_self ?_ ?_, writes, fits⟩
  · exact fun character leads => visible character (List.mem_of_head? leads)
  · exact fun character ends => visible character (List.mem_of_getLast? ends)

/--
Numbers are read from text by these rules: an integer of 64 bits with a sign from text that
writes it between blanks, and from no other; a finite double or nothing from all other text.
-/
theorem convertsNumbers : ConvertsNumbers where
  integer_iff := apply_number_eq_integer_iff
  other_text content nothing := by
    rw [apply_number_text]
    rcases readNumber?_cases content with ⟨value, _, holds, _⟩ | ⟨_, read | ⟨double, read⟩⟩
    · exact absurd holds (nothing value)
    · exact Or.inr (by rw [read]; rfl)
    · exact Or.inl ⟨double, by rw [read]; rfl⟩
  joined_integer value fits := by
    have written : apply .join (.number (signed value fits)) = .text (toString value) := by
      simp only [join, joined, Value.compact]
      rfl
    rw [written]
    exact (apply_number_eq_integer_iff _ value _).2 (holdsInteger_toString fits)
  other_value value other := by
    cases value with
    | text content => exact absurd rfl (other content)
    | _ => rfl

-- Zeros in front and a space that is not ASCII are passed over, and the least integer fits.
example :
    apply .number (.text "\u00a0+007\n") = .number (.integer 7 (by decide)) ∧
      apply .number (.text "-9223372036854775808") =
        .number (.integer (-9223372036854775808) (by decide)) := by
  constructor <;> rfl

end Conversion

end ParserGraph

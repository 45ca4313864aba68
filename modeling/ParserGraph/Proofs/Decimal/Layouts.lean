import Mathlib.Data.List.Basic
import ParserGraph.Decimal.Shortest
import ParserGraph.Proofs.Decimal.Integers

/-!
# Doubles as literals

A double is written as a literal: a sign or none, digits, a point with digits behind it or
none, and a power of ten or none.  The shortest digits of a double are no zero, so that a
literal has no zero in front of other digits.
-/

namespace ParserGraph.Decimal

/-- Digits in front of a point: a zero is the only one or not the first one. -/
structure AreWhole (characters : List Char) : Prop extends AreDigits characters where
  noZeroInFront : characters.length ≤ 1 ∨ characters.head? ≠ some '0'

/-- A number as it is written, by its parts. -/
structure Literal where
  /-- There is a minus sign. -/
  negative : Bool := false
  /-- The digits in front of the point. -/
  whole : List Char
  /-- The digits behind the point, if there is one. -/
  fraction : Option (List Char) := none
  /-- Whether the power of ten is negative, and its digits, if there is one. -/
  power : Option (Bool × List Char) := none

namespace Literal

/-- The power of ten with its letter and its sign. -/
def powerCharacters (power : Bool × List Char) : List Char :=
  'e' :: (if power.1 then '-' else '+') :: power.2

def characters (literal : Literal) : List Char :=
  (if literal.negative then ['-'] else []) ++ literal.whole ++
    (literal.fraction.elim [] ('.' :: ·) ++ literal.power.elim [] powerCharacters)

/-- There are digits wherever a literal must have some. -/
structure IsWritten (literal : Literal) : Prop where
  whole : AreWhole literal.whole
  fraction : ∀ digits ∈ literal.fraction, AreDigits digits
  power : ∀ power ∈ literal.power, AreDigits power.2

end Literal

/-! ## Digits -/

theorem AreDigits.take {digits : List Char} (areDigits : AreDigits digits) (count : Nat) :
    AreDigits (digits.take (count + 1)) where
  some_digit := by
    cases digits with
    | nil => exact absurd rfl areDigits.some_digit
    | cons first rest => simp
  digits _ member := areDigits.digits _ (List.mem_of_mem_take member)

theorem AreDigits.drop
    {digits : List Char}
    (areDigits : AreDigits digits)
    {count : Nat}
    (left : digits.drop count ≠ []) :
    AreDigits (digits.drop count) where
  some_digit := left
  digits _ member := areDigits.digits _ (List.mem_of_mem_drop member)

/-- Zeros are digits, in front of digits and behind them. -/
theorem AreDigits.withZeros
    {digits : List Char}
    (areDigits : AreDigits digits)
    (front back : Nat) :
    AreDigits (List.replicate front '0' ++ digits ++ List.replicate back '0') where
  some_digit := by simp [areDigits.some_digit]
  digits character member := by
    simp only [List.mem_append, List.mem_replicate] at member
    rcases member with (⟨_, rfl⟩ | inside) | ⟨_, rfl⟩
    · decide
    · exact areDigits.digits character inside
    · decide

/-- The first digit of a positive number is not zero. -/
theorem head?_toDigits {number : Nat} (positive : number ≠ 0) :
    (Nat.toDigits 10 number).head? ≠ some '0' := by
  induction number using Nat.strongRecOn with
  | ind number hypothesis =>
      by_cases single : number < 10
      · have digit : ∀ digit < 10, digit ≠ 0 → [Nat.digitChar digit].head? ≠ some '0' := by decide
        rw [Nat.toDigits_of_lt_base single]
        exact digit number single positive
      · have more : 10 ≤ number := Nat.not_lt.1 single
        rw [Nat.toDigits_of_base_le (by decide) more,
          List.head?_append_of_ne_nil _ Nat.toDigits_ne_nil]
        exact hypothesis (number / 10) (by omega) (by omega)

theorem areWhole_toDigits (number : Nat) : AreWhole (Nat.toDigits 10 number) where
  toAreDigits := areDigits_toDigits number
  noZeroInFront := by
    by_cases zero : number = 0
    · subst zero
      exact Or.inl (by decide)
    · exact Or.inr (head?_toDigits zero)

/-! ## Shortest digits -/

theorem Digits.stripZeros_ne_zero
    (fuel : Nat)
    {number : Nat}
    (positive : number ≠ 0)
    (exponent : Int) :
    (stripZeros fuel number exponent).number ≠ 0 := by
  induction fuel generalizing number exponent with
  | zero => exact positive
  | succ fuel hypothesis =>
      rw [stripZeros]
      split_ifs with ends
      · exact hypothesis (by omega) (exponent + 1)
      · exact positive

namespace Binary64

variable {number : Binary64}

theorem significand_pos (positive : number.rank ≠ 0) : 0 < number.significand := by
  have bit : 0 < Nat.pow 2 52 := Nat.two_pow_pos 52
  unfold significand
  split_ifs <;> omega

/-- The ratios that round to a positive double are positive. -/
theorem lower_pos (positive : number.rank ≠ 0) : 0 < (Interval.of number).lower := by
  have unit : 0 < Nat.pow 2 number.scale := Nat.two_pow_pos _
  have atLeast : Nat.pow 2 number.scale ≤ number.numerator :=
    Nat.le_mul_of_pos_left _ (significand_pos positive)
  simp only [Interval.of]
  split_ifs <;> omega

theorem not_contains_zero
    (positive : number.rank ≠ 0)
    {denominator : Nat}
    (ratio : 0 < denominator) :
    (Interval.of number).contains 0 denominator = false := by
  have lower := Nat.mul_pos (lower_pos positive) ratio
  unfold Interval.contains
  split_ifs <;> simp only [Bool.and_eq_false_iff, decide_eq_false_iff_not] <;> left <;> omega

theorem nearestOnGrid?_ne_zero
    (positive : number.rank ≠ 0)
    {leading : Int}
    {count : Nat}
    {digits : Digits}
    (found : nearestOnGrid? number leading count = some digits) :
    digits.number ≠ 0 := by
  unfold nearestOnGrid? at found
  dsimp only at found
  split_ifs at found with inside
  · cases found
    intro zero
    have ratio : 0 < Nat.pow 10 (-(leading - (count : Int) + 1)).toNat :=
      Nat.pow_pos (by decide)
    dsimp only at zero
    rw [zero, Nat.mul_zero, Nat.zero_mul, not_contains_zero positive ratio] at inside
    cases inside
  · cases found
    exact Nat.succ_ne_zero _

/-- The shortest digits are no zero, unless there are none that round to the double. -/
theorem shortest_ne_zero (positive : number.rank ≠ 0) :
    (shortest number).number ≠ 0 ∨ shortest number = { number := 0, exponent := 0 } := by
  unfold shortest
  dsimp only
  generalize leadingPower 700 309 number.numerator unitDenominator = leading
  cases found : (List.range 17).findSome? fun index =>
      nearestOnGrid? number leading (index + 1) with
  | none => exact Or.inr rfl
  | some digits =>
      rcases List.exists_of_findSome?_eq_some found with ⟨index, _, gridFound⟩
      exact Or.inl (Digits.stripZeros_ne_zero 20 (nearestOnGrid?_ne_zero positive gridFound) _)

end Binary64

/-! ## Layouts -/

namespace Layout

variable {digits : List Char} {exponent : Int}

theorem toList_fractionText (digits : List Char) :
    (fractionText digits).toList = if digits = [] then [] else '.' :: digits := by
  unfold fractionText
  cases digits <;> simp

theorem scientific_eq
    (areDigits : AreDigits digits)
    (exponent : Int) :
    ∃ literal : Literal, literal.IsWritten ∧ literal.negative = false ∧
      (scientific digits exponent).toList = literal.characters := by
  let fraction : Option (List Char) := if digits.drop 1 = [] then none else some (digits.drop 1)
  let power : Bool × List Char := (decide (exponent < 0), digitsOf exponent.natAbs)
  have front := areDigits.take 0
  have first : (digits.take 1).length ≤ 1 := List.length_take_le 1 digits
  refine ⟨{ whole := digits.take 1, fraction, power := some power }, ?_, rfl, ?_⟩
  · exact
      { whole := { front with noZeroInFront := Or.inl first }
        fraction := by
          intro behind isThere
          simp only [fraction, Option.mem_def] at isThere
          split_ifs at isThere with none_left
          cases isThere
          exact areDigits.drop none_left
        power := fun other isThere => by
          cases isThere
          exact areDigits_toDigits _ }
  · have point : (fractionText (digits.drop 1)).toList = fraction.elim [] ('.' :: ·) := by
      rw [toList_fractionText]
      by_cases none_left : digits.drop 1 = []
      · simp only [fraction, if_pos none_left, Option.elim_none]
      · simp only [fraction, if_neg none_left, Option.elim_some]
    have sign : (if exponent < 0 then "-" else "+").toList = [if power.1 then '-' else '+'] := by
      by_cases below : exponent < 0
      · simp [power, below]
      · simp [power, below]
    rw [scientific]
    simp only [String.toList_append, String.toList_ofList, point, sign, Literal.characters,
      Literal.powerCharacters, Bool.false_eq_true, if_false, List.nil_append, Option.elim_some,
      List.append_assoc]
    rfl

theorem positional_eq
    (areDigits : AreDigits digits)
    (leads : digits.head? ≠ some '0' ∨ exponent ≤ 0) :
    ∃ literal : Literal, literal.IsWritten ∧ literal.negative = false ∧
      (positional digits exponent).toList = literal.characters := by
  rw [positional]
  split_ifs with small
  · have fraction := areDigits.withZeros ((-exponent).toNat - 1) 0
    rw [List.replicate_zero, List.append_nil] at fraction
    let behind : List Char := List.replicate ((-exponent).toNat - 1) '0' ++ digits
    refine ⟨{ whole := ['0'], fraction := some behind }, ?_, rfl, ?_⟩
    · exact
        { whole := { areDigits_toDigits 0 with noZeroInFront := Or.inl (Nat.le_refl 1) }
          fraction := fun other isThere => Option.some.inj isThere ▸ fraction
          power := nofun }
    · simp [Literal.characters, behind]
  · generalize isCount : exponent.toNat + 1 = count
    have front := (areDigits.take exponent.toNat).withZeros 0
      (exponent.toNat + 1 - (digits.take (exponent.toNat + 1)).length)
    rw [isCount, List.replicate_zero, List.nil_append] at front
    let behind : List Char := if digits.drop count = [] then ['0'] else digits.drop count
    refine ⟨{ whole := _, fraction := some behind }, ⟨⟨front, ?_⟩, ?_, nofun⟩, rfl, ?_⟩
    · rcases leads with nonzero | least
      · refine Or.inr ?_
        have left : digits.take count ≠ [] := isCount ▸ (areDigits.take exponent.toNat).some_digit
        rwa [List.head?_append_of_ne_nil _ left, List.head?_take, if_neg (by omega)]
      · refine Or.inl ?_
        have one : count = 1 := by omega
        have some_digit := List.length_pos_iff.2 areDigits.some_digit
        rw [one]
        simp
    · intro other isThere
      cases isThere
      simp only [behind]
      split_ifs with none_left
      · exact areDigits_toDigits 0
      · exact areDigits.drop none_left
    · simp only [behind, Literal.characters]
      cases digits.drop count <;> simp

/-- A double is written as a literal with its sign. -/
theorem write_eq (layout : Layout) (number : Binary64) :
    ∃ literal : Literal, literal.IsWritten ∧ literal.negative = number.negative ∧
      (layout.write number).toList = literal.characters := by
  have withSign : ∀ text : String, (∃ literal : Literal, literal.IsWritten ∧
        literal.negative = false ∧ text.toList = literal.characters) →
      ∃ literal : Literal, literal.IsWritten ∧ literal.negative = number.negative ∧
        ((if number.negative then "-" else "") ++ text).toList = literal.characters := by
    rintro text ⟨literal, isWritten, unsigned, written⟩
    refine ⟨{ literal with negative := number.negative }, ?_, rfl, ?_⟩
    · exact { whole := isWritten.whole, fraction := isWritten.fraction, power := isWritten.power }
    · rw [String.toList_append, written, Literal.characters, Literal.characters, unsigned]
      cases number.negative <;> simp
  rw [write]
  dsimp only
  generalize (if number.negative then "-" else "") = sign at withSign ⊢
  split_ifs with zero inside
  · exact withSign "0.0"
      ⟨{ whole := ['0'], fraction := some ['0'] },
        { whole := { areDigits_toDigits 0 with noZeroInFront := Or.inl (by decide) }
          fraction := fun other isThere => Option.some.inj isThere ▸ areDigits_toDigits 0
          power := nofun },
        rfl, rfl⟩
  · refine withSign _ (positional_eq (areDigits_toDigits _) ?_)
    rcases Binary64.shortest_ne_zero zero with positive | none_found
    · exact Or.inl (head?_toDigits positive)
    · rw [none_found]
      exact Or.inr (by decide)
  · exact withSign _ (scientific_eq (areDigits_toDigits _) _)

end Layout

end ParserGraph.Decimal

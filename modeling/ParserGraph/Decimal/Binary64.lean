/-!
# Finite doubles

The finite numbers of the 64-bit binary format, as data: a sign and a rank, the
number of finite magnitudes below.  Magnitudes are exact ratios of natural
numbers, and a ratio is rounded to the nearest magnitude, a tie to the even one.
-/

namespace ParserGraph.Decimal

/-- The number of finite magnitudes of the format. -/
def magnitudeCount : Nat := 2047 * Nat.pow 2 52

/-- A finite double. -/
structure Binary64 where
  /-- The number is written with a minus sign. -/
  negative : Bool
  /-- The number of finite magnitudes that are smaller. -/
  rank : Nat
  /-- Infinity is no finite double. -/
  finite : rank < magnitudeCount := by decide
deriving DecidableEq, Repr

namespace Binary64

/-- The zero without a minus sign. -/
def zero : Binary64 := { negative := false, rank := 0 }

/-- The number of units in a magnitude: 53 bits, or fewer below the normal range. -/
def significand (number : Binary64) : Nat :=
  if number.rank < Nat.pow 2 52 then number.rank else Nat.pow 2 52 + number.rank % Nat.pow 2 52

/-- The power of two that is the unit of a magnitude, counted from the smallest unit on. -/
def scale (number : Binary64) : Nat :=
  number.rank / Nat.pow 2 52 - 1

/-- The numerator of a magnitude over the denominator `unitDenominator`. -/
def numerator (number : Binary64) : Nat :=
  number.significand * Nat.pow 2 number.scale

/-- All magnitudes are multiples of one over this number. -/
def unitDenominator : Nat := Nat.pow 2 1074

/-- Numbers of equal value: both zeros are equal, and otherwise sign and magnitude are. -/
def sameNumber (first second : Binary64) : Bool :=
  first.rank == second.rank && (first.rank == 0 || first.negative == second.negative)

/-- The quotient of two natural numbers, rounded to the nearest, a tie to the even one. -/
def nearestQuotient (numerator denominator : Nat) : Nat :=
  let quotient := numerator / denominator
  let remainder := numerator % denominator
  if 2 * remainder > denominator ∨ (2 * remainder = denominator ∧ quotient % 2 = 1) then
    quotient + 1
  else
    quotient

/--
The scale whose units measure a ratio in 53 bits, or the smallest scale when the
ratio lies below the normal range.
-/
def scaleOf (numerator denominator : Nat) : Nat :=
  let guess := Nat.log2 (numerator * unitDenominator) - Nat.log2 denominator
  let exponent :=
    if numerator * unitDenominator < denominator * Nat.pow 2 guess then guess - 1 else guess
  exponent - 52

/--
The rank of the magnitude nearest to a ratio; it is `magnitudeCount` or more
when the ratio lies beyond the finite magnitudes.
-/
def nearestRank (numerator denominator : Nat) : Nat :=
  let scale := scaleOf numerator denominator
  scale * Nat.pow 2 52 +
    nearestQuotient (numerator * unitDenominator) (denominator * Nat.pow 2 scale)

/-- The double nearest to a ratio, if the ratio rounds to a finite one. -/
def ofRatio? (negative : Bool) (numerator denominator : Nat) : Option Binary64 :=
  let rank := nearestRank numerator denominator
  if finite : rank < magnitudeCount then some { negative, rank, finite } else none

/-- The double nearest to a natural number, if it is finite. -/
def ofNat? (number : Nat) : Option Binary64 :=
  ofRatio? false number 1

/-- The product of two magnitudes, rounded, if it is finite. -/
def multiplyMagnitudes? (first second : Binary64) : Option Binary64 :=
  ofRatio? false (first.numerator * second.numerator) (unitDenominator * unitDenominator)

/-- The quotient of two magnitudes, rounded, if it is finite. -/
def divideMagnitudes? (first second : Binary64) : Option Binary64 :=
  ofRatio? false first.numerator second.numerator

/--
The double nearest to a natural number times a power of ten, if it is finite.
Powers far outside the range of the format are not computed.
-/
def ofDecimal? (negative : Bool) (digits : Nat) (exponent : Int) : Option Binary64 :=
  let places : Int := (Nat.toDigits 10 digits).length
  if digits = 0 ∨ exponent + places < -330 then
    some { zero with negative }
  else if exponent + places > 330 then
    none
  else if 0 ≤ exponent then
    ofRatio? negative (digits * Nat.pow 10 exponent.toNat) 1
  else
    ofRatio? negative digits (Nat.pow 10 (-exponent).toNat)

end Binary64

end ParserGraph.Decimal

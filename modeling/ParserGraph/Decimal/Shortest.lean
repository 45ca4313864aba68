import ParserGraph.Decimal.Binary64

/-!
# Shortest decimals

A double is written with the fewest decimal digits that read back as it, and of
those with the digits nearest to it.  A layout says from which powers of ten on
the digits are written with an exponent.
-/

namespace ParserGraph.Decimal

/-- A positive decimal: an integer of some digits times a power of ten. -/
structure Digits where
  number : Nat
  /-- The power of ten that the number is multiplied by. -/
  exponent : Int
deriving DecidableEq, Repr

namespace Digits

/-- The digits without the zeros at their end; the fuel bounds how many are taken off. -/
def stripZeros : (fuel number : Nat) → (exponent : Int) → Digits
  | 0, number, exponent => { number, exponent }
  | fuel + 1, number, exponent =>
      if number ≠ 0 ∧ number % 10 = 0 then
        stripZeros fuel (number / 10) (exponent + 1)
      else
        { number, exponent }

end Digits

/-- The ratios that round to a double: four times the bounds of a ratio, and whether they belong. -/
structure Interval where
  /-- Four times the numerator of the lower end. -/
  lower : Nat
  /-- Four times the numerator of the upper end. -/
  upper : Nat
  /-- The ends round to the double too. -/
  closed : Bool

/-- The interval of ratios over `Binary64.unitDenominator` that round to a positive double. -/
def Interval.of (number : Binary64) : Interval :=
  let unit := Nat.pow 2 number.scale
  let atPower := number.rank % Nat.pow 2 52 == 0 && number.rank / Nat.pow 2 52 > 1
  { lower := 4 * number.numerator - (if atPower then unit else 2 * unit)
    upper := 4 * number.numerator + 2 * unit
    closed := number.significand % 2 == 0 }

/-- A ratio, given by four times its numerator and its denominator, lies in the interval. -/
def Interval.contains (interval : Interval) (numerator denominator : Nat) : Bool :=
  if interval.closed then
    interval.lower * denominator ≤ numerator && numerator ≤ interval.upper * denominator
  else
    interval.lower * denominator < numerator && numerator < interval.upper * denominator

/-- The largest power of ten, down from a given one, that is at most a positive ratio. -/
def leadingPower : (fuel : Nat) → (power : Int) → (numerator denominator : Nat) → Int
  | 0, power, _, _ => power
  | fuel + 1, power, numerator, denominator =>
      let reached :=
        if 0 ≤ power then denominator * Nat.pow 10 power.toNat ≤ numerator
        else denominator ≤ numerator * Nat.pow 10 (-power).toNat
      if reached then power else leadingPower fuel (power - 1) numerator denominator

/--
The decimal of at most so many digits that lies in the interval and nearest to
the double, of the two decimals next to it on that grid.
-/
def nearestOnGrid? (number : Binary64) (leading : Int) (count : Nat) : Option Digits :=
  let interval := Interval.of number
  let exponent := leading - (count : Int) + 1
  let up := Nat.pow 10 exponent.toNat
  let down := Nat.pow 10 (-exponent).toNat
  let scaled := number.numerator * down
  let grid := Binary64.unitDenominator * up
  let below := scaled / grid
  let remainder := scaled % grid
  let inside (candidate : Nat) : Bool :=
    interval.contains (4 * candidate * grid) down
  let nearerAbove := 2 * remainder > grid || (2 * remainder == grid && below % 2 == 1)
  if inside below && (!nearerAbove || !inside (below + 1)) then
    some { number := below, exponent }
  else if inside (below + 1) then
    some { number := below + 1, exponent }
  else
    none

/-- The fewest digits that round to a positive double; seventeen always do. -/
def shortest (number : Binary64) : Digits :=
  let leading := leadingPower 700 309 number.numerator Binary64.unitDenominator
  let found := (List.range 17).findSome? fun index =>
    nearestOnGrid? number leading (index + 1)
  let digits := found.getD { number := 0, exponent := 0 }
  Digits.stripZeros 20 digits.number digits.exponent

/-- How the digits of a double are laid out. -/
structure Layout where
  /-- The smallest scientific exponent that is written without one. -/
  least : Int
  /-- The smallest scientific exponent beyond those written without one. -/
  limit : Int

def digitsOf (number : Nat) : List Char :=
  Nat.toDigits 10 number

/-- Digits behind a point, or nothing if there are none. -/
def fractionText (digits : List Char) : String :=
  if digits.isEmpty then "" else "." ++ String.ofList digits

namespace Layout

/-- Digits with an exponent, which always has a sign. -/
def scientific (digits : List Char) (exponent : Int) : String :=
  String.ofList (digits.take 1) ++ fractionText (digits.drop 1) ++ "e" ++
    (if exponent < 0 then "-" else "+") ++ String.ofList (digitsOf exponent.natAbs)

/-- Digits with a point and a digit behind it at least. -/
def positional (digits : List Char) (exponent : Int) : String :=
  if exponent < 0 then
    "0." ++ String.ofList (List.replicate ((-exponent).toNat - 1) '0' ++ digits)
  else
    let whole := exponent.toNat + 1
    let front := digits.take whole
    let fraction := digits.drop whole
    String.ofList (front ++ List.replicate (whole - front.length) '0') ++ "." ++
      (if fraction.isEmpty then "0" else String.ofList fraction)

/-- A finite double as text. -/
def write (layout : Layout) (number : Binary64) : String :=
  let sign := if number.negative then "-" else ""
  if number.rank = 0 then
    sign ++ "0.0"
  else
    let shortest := shortest number
    let digits := digitsOf shortest.number
    let exponent := shortest.exponent + digits.length - 1
    sign ++
      if layout.least ≤ exponent ∧ exponent < layout.limit then
        positional digits exponent
      else
        scientific digits exponent

end Layout

end ParserGraph.Decimal

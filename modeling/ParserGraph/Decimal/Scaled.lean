import ParserGraph.Decimal.Numeral

/-!
# Scaled decimals

A quick way to read a decimal as a double: its leading digits, as many as 64 bits
hold, are rounded to a double, and that is multiplied or divided by a rounded
power of ten.  The result may be a neighbour of the nearest double.
-/

namespace ParserGraph.Decimal.Scaled

/-- Numbers of this size and more are not held. -/
def capacity : Nat := Nat.pow 2 64

/-- The leading digits that are held, and the digits behind them. -/
def hold : (held : Nat) → List Char → Nat × List Char
  | held, [] => (held, [])
  | held, digit :: rest =>
      if 10 * held + digitValue digit < capacity then
        hold (10 * held + digitValue digit) rest
      else
        (held, digit :: rest)

/--
The digits of a decimal that are held, and their power of ten.  A digit in front
of the point that is not held raises the power; one behind it is left out.
-/
def collect (whole fraction : List Char) : Nat × Int :=
  let (front, dropped) := hold 0 whole
  let (held, omitted) := hold front fraction
  (held, (dropped.length : Int) - ((fraction.length : Int) - omitted.length))

/-- The double nearest to a power of ten, up to the largest finite one. -/
def powerOfTen? (power : Nat) : Option Binary64 :=
  if power ≤ 308 then Binary64.ofNat? (Nat.pow 10 power) else none

/-- A magnitude divided by a power of ten, by the largest finite power of ten first. -/
def divide? (magnitude : Binary64) (power : Nat) : Option Binary64 := do
  if power ≤ 308 then
    magnitude.divideMagnitudes? (← powerOfTen? power)
  else if power ≤ 616 then
    let reduced ← magnitude.divideMagnitudes? (← powerOfTen? 308)
    reduced.divideMagnitudes? (← powerOfTen? (power - 308))
  else
    some Binary64.zero

/-- The double of the digits of a decimal, if it is finite. -/
def read? (negative : Bool) (whole fraction : List Char) (power : Int) : Option Binary64 := do
  let (held, collected) := collect whole fraction
  let exponent := collected + power
  let magnitude ← Binary64.ofNat? held
  let scaled ←
    if held = 0 then
      some magnitude
    else if 0 ≤ exponent then
      magnitude.multiplyMagnitudes? (← powerOfTen? exponent.toNat)
    else
      divide? magnitude (-exponent).toNat
  some { scaled with negative }

end ParserGraph.Decimal.Scaled

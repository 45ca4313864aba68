import ParserGraph.Decimal.Scaled
import ParserGraph.Decimal.Shortest

/-!
# Numbers of values

The numbers that a JSON value holds: integers of 64 bits, with or without a sign,
and finite doubles.  An integer is never equal to a double.
-/

namespace ParserGraph

/-- A number of a value. -/
inductive Number where
  | integer (value : Int) (inRange : -0x8000000000000000 ≤ value ∧ value < 0x10000000000000000)
  | float (value : Decimal.Binary64)
deriving DecidableEq, Repr

namespace Number

/-- The integer as a number, if it fits. -/
def ofInt? (value : Int) : Option Number :=
  if inRange : -0x8000000000000000 ≤ value ∧ value < 0x10000000000000000 then
    some (.integer value inRange)
  else
    none

/-- The number is a natural number below 2 ^ 64. -/
def toNat? : Number → Option Nat
  | .integer value _ => if 0 ≤ value then some value.toNat else none
  | .float _ => none

/-- Numbers that the program takes as equal: equal integers, and doubles of equal value. -/
def same : Number → Number → Bool
  | .integer first _, .integer second _ => first == second
  | .float first, .float second => first.sameNumber second
  | _, _ => false

/-- Doubles are written without an exponent from 0.00001 up to below 10 ^ 16. -/
def layout : Decimal.Layout := { least := -5, limit := 16 }

def write : Number → String
  | .integer value _ => toString value
  | .float value => layout.write value

/--
The number of a JSON literal, given by its sign, the digits in front of and
behind its point and its power of ten.  A literal of digits alone is an integer
if it fits, except for minus zero.
-/
def ofLiteral?
    (negative : Bool)
    (whole : List Char)
    (fraction : Option (List Char))
    (power : Option Int) :
    Option Number :=
  let number := Decimal.readDigits whole
  let value := if negative then -(number : Int) else (number : Int)
  let float :=
    (Decimal.Scaled.read? negative whole (fraction.getD []) (power.getD 0)).map .float
  if fraction.isSome || power.isSome || (negative && number == 0) then
    float
  else
    (ofInt? value).or float

end Number

end ParserGraph

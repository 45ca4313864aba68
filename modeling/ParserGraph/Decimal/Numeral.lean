import ParserGraph.Decimal.Binary64

/-!
# Numerals

Decimal numerals as text: integers with an optional sign, and numbers with an
optional point and exponent.  Only ASCII digits count, and no other character
may stand in a numeral.
-/

namespace ParserGraph.Decimal

def digitValue (digit : Char) : Nat :=
  digit.toNat - '0'.toNat

/-- The number that decimal digits write; none are the number zero. -/
def readDigits (digits : List Char) : Nat :=
  digits.foldl (fun number digit => 10 * number + digitValue digit) 0

/-- An optional sign, and the characters behind it; the flag tells a minus sign. -/
def splitSign : List Char → Bool × List Char
  | '-' :: rest => (true, rest)
  | '+' :: rest => (false, rest)
  | rest => (false, rest)

/-- The number of one or more digits and nothing else. -/
def readNatural? (characters : List Char) : Option Nat :=
  if !characters.isEmpty && characters.all Char.isDigit then
    some (readDigits characters)
  else
    none

/-- The integer of an optional sign, one or more digits and nothing else. -/
def readInteger? (characters : List Char) : Option Int :=
  let (negative, digits) := splitSign characters
  (readNatural? digits).map fun number =>
    if negative then -(number : Int) else (number : Int)

/-- A decimal number: a sign, digits as a natural number and a power of ten. -/
structure Numeral where
  /-- The numeral has a minus sign. -/
  negative : Bool
  /-- Its digits without the point. -/
  digits : Nat
  /-- The power of ten that the digits are multiplied by. -/
  exponent : Int
deriving DecidableEq, Repr

namespace Numeral

/-- The power of ten at the end of a numeral: nothing, or a letter and an integer. -/
def readExponent? : List Char → Option Int
  | [] => some 0
  | letter :: rest =>
      if letter = 'e' ∨ letter = 'E' then readInteger? rest else none

/--
A numeral with an optional sign, digits with an optional point among, in front
of or behind them, and an optional exponent.
-/
def read? (characters : List Char) : Option Numeral :=
  let (negative, unsigned) := splitSign characters
  let whole := unsigned.takeWhile Char.isDigit
  let behindWhole := unsigned.dropWhile Char.isDigit
  let (fraction, rest) :=
    match behindWhole with
    | '.' :: behindPoint =>
        (behindPoint.takeWhile Char.isDigit, behindPoint.dropWhile Char.isDigit)
    | _ => ([], behindWhole)
  if whole.isEmpty && fraction.isEmpty then
    none
  else
    (readExponent? rest).map fun power =>
      { negative
        digits := readDigits (whole ++ fraction)
        exponent := power - fraction.length }

/-- The double nearest to a numeral, if it is finite. -/
def toBinary64? (numeral : Numeral) : Option Binary64 :=
  Binary64.ofDecimal? numeral.negative numeral.digits numeral.exponent

end Numeral

end ParserGraph.Decimal

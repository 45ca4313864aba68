import ParserGraph.Text.Blank
import ParserGraph.Value.Writer

/-!
# Transforms

Functions that a parser applies to the value it produced.  Some are known by name:
numeric text becomes a number, nested text is joined, and text loses the blanks
around it.  Others are brought by whoever makes them.  A transform has an identity
of its own: two transforms are the same only if they were made as one, even when
they compute alike.
-/

namespace ParserGraph

/-- What a transform does to a value, and what that is called. -/
structure Conversion where
  name : String
  /-- The conversion of a value. -/
  apply : Value → Value

namespace Conversion

/--
The number that text holds between blanks: an integer of 64 bits with a sign if it
is one, and else the nearest double of a numeral if that is finite.
-/
def readNumber? (content : String) : Option Number :=
  let numeral := Text.trimBlanks content.toList
  match Decimal.readInteger? numeral with
  | some value =>
      if inRange : -0x8000000000000000 ≤ value ∧ value < 0x8000000000000000 then
        some (.integer value ⟨inRange.1, by omega⟩)
      else
        ((Decimal.Numeral.read? numeral).bind Decimal.Numeral.toBinary64?).map .float
  | none => ((Decimal.Numeral.read? numeral).bind Decimal.Numeral.toBinary64?).map .float

/-- Numeric text as a number; any other value as it is. -/
def toNumber : Value → Value
  | .text content => ((readNumber? content).map .number).getD (.text content)
  | value => value

mutual

/-- The text of a value: arrays joined, null empty, other values on one line. -/
def joined : Value → String
  | .text content => content
  | .array items => joinedItems items
  | .null => ""
  | value => value.compact

/-- The texts of the items, one behind the other. -/
def joinedItems : List Value → String
  | [] => ""
  | item :: rest => joined item ++ joinedItems rest

end

/-- Text without the blanks around it; any other value as it is. -/
def toTrimmed : Value → Value
  | .text content => .text (Text.trimmed content)
  | value => value

/-- Numeric text becomes a number. -/
def number : Conversion :=
  { name := "number", apply := toNumber }

/-- Nested text is joined. -/
def join : Conversion :=
  { name := "join", apply := fun value => .text (joined value) }

/-- Text loses the blanks around it. -/
def trim : Conversion :=
  { name := "trim", apply := toTrimmed }

/-- The conversions that are known by their names. -/
def builtins : List Conversion := [number, join, trim]

/-- The conversion that is known by a name. -/
def ofName? (name : String) : Option Conversion :=
  builtins.find? fun conversion => conversion.name == name

theorem ofName?_name {conversion : Conversion} (builtin : conversion ∈ builtins) :
    ofName? conversion.name = some conversion := by
  simp only [builtins, List.mem_cons, List.not_mem_nil, or_false] at builtin
  rcases builtin with rfl | rfl | rfl <;> rfl

theorem mem_builtins_of_ofName?
    {name : String}
    {conversion : Conversion}
    (known : ofName? name = some conversion) :
    conversion ∈ builtins :=
  List.mem_of_find?_eq_some known

end Conversion

/-- A conversion with an identity. -/
structure Transform where
  /-- What the transform does. -/
  conversion : Conversion
  /-- What tells it from transforms that do the same. -/
  identity : Nat

namespace Transform

/-- The name of the conversion. -/
def name (transform : Transform) : String :=
  transform.conversion.name

def apply (transform : Transform) (value : Value) : Value :=
  transform.conversion.apply value

/-- Transforms are compared by identity, whatever they do. -/
def same (first second : Transform) : Bool :=
  first.identity == second.identity

end Transform

end ParserGraph

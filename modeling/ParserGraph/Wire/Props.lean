import ParserGraph.Node.Kind
import ParserGraph.Wire.Record

/-!
# Props as values

The written form of props.  Only what is said is written; that there is no
greatest number of items is written as null, and for all other props null says
nothing.
-/

namespace ParserGraph

/-- A natural number or nothing, as a value. -/
def Value.ofNat? (number : Option Nat) : Value :=
  (number.map Value.ofNat).getD .null

/-- A field, if there is something to write. -/
def Value.fieldOf? {Part : Type} (name : String) (write : Part → Value) :
    Option Part → List (String × Value)
  | some part => [(name, write part)]
  | none => []

namespace Bounds

/-- Bounds as a value; a missing greatest number is left out. -/
def toValue (bounds : Bounds) : Value :=
  .ofFields ([("min", .ofNat bounds.min)] ++ Value.fieldOf? "max" .ofNat bounds.max)

/-- Bounds from a value; without a least number it is zero. -/
def ofValue (value : Value) : Wire.Reads Bounds := do
  let record ← Wire.readRecord ["min", "max"] value
  let max ← Wire.optional record "max" Wire.readNat
  let min ← Wire.withDefault record "min" Wire.readNat 0
  pure { min, max }

end Bounds

/-- The transform of a name, with an identity. -/
def Transform.ofValue (identity : Nat) (value : Value) : Wire.Reads Transform := do
  let name ← Wire.readText value
  match Conversion.ofName? name with
  | some conversion => pure { conversion, identity }
  | none => throw (.unknownTransform name)

namespace Props

/-- The names of the props, in the order of an array of props. -/
def names : List String :=
  ["text", "pattern", "expected", "value", "label", "transform", "repeat", "min", "max"]

def toValue (props : Props) : Value :=
  .ofFields (
    Value.fieldOf? "text" .text props.text ++
    Value.fieldOf? "pattern" .text props.pattern ++
    Value.fieldOf? "expected" .text props.expected ++
    Value.fieldOf? "value" Value.Normal.value props.value ++
    Value.fieldOf? "label" .text props.label ++
    Value.fieldOf? "transform" (fun transform => .text transform.name) props.transform ++
    Value.fieldOf? "repeat" Bounds.toValue props.repetition ++
    Value.fieldOf? "min" .ofNat props.min ++
    Value.fieldOf? "max" Value.ofNat? props.max)

/-- Props with a field read from a value, the transform with a given identity. -/
def readField (identity : Nat) (props : Props) : String × Value → Wire.Reads Props
  | ("text", value) => do
      pure { props with text := ← Wire.readNullable Wire.readText value }
  | ("pattern", value) => do
      pure { props with pattern := ← Wire.readNullable Wire.readText value }
  | ("expected", value) => do
      pure { props with expected := ← Wire.readNullable Wire.readText value }
  | ("value", value) => do
      pure { props with value := ← Wire.readNullable (fun value => .ok value.normal) value }
  | ("label", value) => do
      pure { props with label := ← Wire.readNullable Wire.readText value }
  | ("transform", value) => do
      pure { props with transform := ← Wire.readNullable (Transform.ofValue identity) value }
  | ("repeat", value) => do
      pure { props with repetition := ← Wire.readNullable Bounds.ofValue value }
  | ("min", value) => do
      pure { props with min := ← Wire.readNullable Wire.readNat value }
  | ("max", value) => do
      pure { props with max := some (← Wire.readNullable Wire.readNat value) }
  | _ => pure props

/-- Props from a value, their transform with a given identity. -/
def ofValue (identity : Nat) (value : Value) : Wire.Reads Props :=
  Wire.readFields names value (readField identity) {}

end Props

namespace TreeOptions

def toValue (options : TreeOptions) : Value :=
  .object [("naryChildCap", .ofNat options.naryChildCap)]

/-- Options from a value; what is missing has its default. -/
def ofValue (value : Value) : Wire.Reads TreeOptions := do
  let record ← Wire.readRecord ["naryChildCap"] value
  let naryChildCap ← Wire.withDefault record "naryChildCap" Wire.readNat
    ({} : TreeOptions).naryChildCap
  pure { naryChildCap }

end TreeOptions

end ParserGraph

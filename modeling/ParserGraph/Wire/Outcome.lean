import ParserGraph.Outcome
import ParserGraph.Wire.Record

/-!
# Outcomes as values

The written form of outcomes: a record that is tagged as a success or as a failure.
-/

namespace ParserGraph

namespace Position

def toValue (position : Position) : Value :=
  .ofFields
    [("offset", .ofNat position.offset), ("line", .ofNat position.line),
     ("column", .ofNat position.column)]

def ofValue (value : Value) : Wire.Reads Position := do
  let record ← Wire.readRecord ["offset", "line", "column"] value
  let column ← Wire.required record "column" Wire.readNat
  let line ← Wire.required record "line" Wire.readNat
  let offset ← Wire.required record "offset" Wire.readNat
  pure { offset, line, column }

end Position

/-- Labels as a value, in increasing order. -/
def Expectations.toValue (expectations : Expectations) : Value :=
  .array (expectations.labels.map .text)

namespace Outcome

def toValue : Outcome → Value
  | .success value stop =>
      .ofFields [("type", .text "success"), ("value", value), ("end", .ofNat stop)]
  | .failure reason =>
      .ofFields
        [("type", .text "failure"), ("expected", reason.expected.toValue),
         ("position", reason.position.toValue)]

/-- An outcome from a value; expectations may be repeated and stand in any order. -/
def ofValue (value : Value) : Wire.Reads Outcome := do
  let (name, parts) ← Wire.readTagged "type" value
  match name with
  | "success" => do
      let record ← Wire.readRecord ["value", "end"] parts
      let stop ← Wire.required record "end" Wire.readNat
      let value ← Wire.required record "value" fun value => .ok value.normalize
      pure (.success value stop)
  | "failure" => do
      let record ← Wire.readRecord ["expected", "position"] parts
      let labels ← Wire.required record "expected" (Wire.readList Wire.readText)
      let position ← Wire.required record "position" Position.ofValue
      pure (.failure { expected := .ofList labels, position })
  | _ => throw .shape

end Outcome

end ParserGraph

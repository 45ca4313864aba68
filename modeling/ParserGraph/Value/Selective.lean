import ParserGraph.Value.Reader

/-!
# Values read in part

A record is read for some of its fields only.  The values of other fields are
passed over: they need only be well written.  A record may also be written as an
array of its fields in their order.
-/

namespace ParserGraph.Value

/-- A reader of the value in front of tokens. -/
abbrev TokenReader := List Token → Option (Value × List Token)

/-- The reader of a field; `none` for a field that is passed over. -/
def readerOf? (readers : List (String × TokenReader)) (key : String) : Option TokenReader :=
  (readers.find? fun reader => reader.1 == key).map Prod.snd

/--
The fields of an object from a key on, without those passed over.  Every field takes
tokens, so that their number bounds the fuel.
-/
def takeFields? (readers : List (String × TokenReader)) : (fuel : Nat) → List Token →
    Option (List (String × Value) × List Token)
  | fuel + 1, .scalar (.text key) :: .colon :: rest => do
      let reader := readerOf? readers key
      let (value, rest) ← reader.getD (take? true) rest
      let field := if reader.isSome then [(key, value)] else []
      match rest with
      | .closeObject :: rest => some (field, rest)
      | .comma :: rest => do
          let (others, rest) ← takeFields? readers fuel rest
          some (field ++ others, rest)
      | _ => none
  | _, _ => none

/-- The items of an array from a value on, each by its own reader; there may be fewer. -/
def takeItems? : List TokenReader → List Token → Option (List Value × List Token)
  | [], _ => none
  | reader :: readers, tokens => do
      let (value, rest) ← reader tokens
      match rest with
      | .closeArray :: rest => some ([value], rest)
      | .comma :: rest => do
          let (others, rest) ← takeItems? readers rest
          some (value :: others, rest)
      | _ => none

def takeRecord? (readers : List (String × TokenReader)) : TokenReader
  | .openObject :: .closeObject :: rest => some (.object [], rest)
  | .openObject :: rest =>
      (takeFields? readers rest.length rest).map fun (fields, rest) => (.object fields, rest)
  | .openArray :: .closeArray :: rest => some (.array [], rest)
  | .openArray :: rest =>
      (takeItems? (readers.map Prod.snd) rest).map fun (items, rest) => (.array items, rest)
  | _ => none

end ParserGraph.Value

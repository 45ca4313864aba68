import ParserGraph.Value.Basic

/-!
# Records in values

How the types of the library are read from values.  A record is an object with
known fields or an array of the fields in their order; unknown fields of an object
are left out, and a known field may not be repeated.  Fields are read in the order
in which they stand, and the first one at fault is reported; only then it matters
that a field is missing or that an array has too many items.
-/

namespace ParserGraph.Wire

/-- Why a value could not be read. -/
inductive ReadError where
  /-- The value does not have the shape that is needed. -/
  | shape
  | unknownTransform (name : String)
deriving DecidableEq, Repr

namespace ReadError

/-- What is to be said about an error, if anything. -/
def message? : ReadError → Option String
  | .shape => none
  | .unknownTransform name => some s!"Unknown transform '{name}'"

end ReadError

/-- What reading a value gives. -/
abbrev Reads (Result : Type) := Except ReadError Result

/-- The fields of a record that are there. -/
abbrev Record := List (String × Value)

/-- A field of the name is there more than once. -/
def isRepeated (fields : List (String × Value)) (name : String) : Bool :=
  1 < (fields.filter fun field => field.1 == name).length

/-- The named fields in the order in which they stand, by place where a value is an array. -/
def fieldsOf (names : List String) : Value → Reads Record
  | .object fields =>
      if names.any (isRepeated fields) then
        .error .shape
      else
        .ok (fields.filter fun field => names.contains field.1)
  | .array items => .ok (names.zip items)
  | _ => .error .shape

/-- The value has items behind those of the named fields. -/
def isOverlong (names : List String) : Value → Bool
  | .array items => names.length < items.length
  | _ => false

/-- What is read from the named fields, one after the other; `read` adds a field to the result. -/
def readFields {Result : Type} (names : List String) (value : Value)
    (read : Result → String × Value → Reads Result) (start : Result) : Reads Result := do
  let fields ← fieldsOf names value
  let result ← fields.foldlM read start
  if isOverlong names value then throw .shape else pure result

/-- The record of the named fields, which are read later. -/
def readRecord (names : List String) (value : Value) : Reads Record :=
  readFields names value (fun record field => pure (record ++ [field])) []

/-- The value of a field, if it is there. -/
def field? (record : Record) (name : String) : Option Value :=
  (record.find? fun field => field.1 == name).map Prod.snd

/-- A field that must be there. -/
def required {Result : Type} (record : Record) (name : String) (read : Value → Reads Result) :
    Reads Result :=
  match field? record name with
  | some value => read value
  | none => .error .shape

/-- A field that may be missing. -/
def withDefault {Result : Type} (record : Record) (name : String)
    (read : Value → Reads Result) (default : Result) : Reads Result :=
  match field? record name with
  | some value => read value
  | none => .ok default

/-- A field that may be missing or null, which is the same. -/
def optional {Result : Type} (record : Record) (name : String) (read : Value → Reads Result) :
    Reads (Option Result) :=
  match field? record name with
  | none | some .null => .ok none
  | some value => (read value).map some

def readNullable {Result : Type} (read : Value → Reads Result) : Value → Reads (Option Result)
  | .null => .ok none
  | value => (read value).map some

/-- A natural number of 64 bits. -/
def readNat : Value → Reads Nat
  | .number amount =>
      match amount.toNat? with
      | some count => .ok count
      | none => .error .shape
  | _ => .error .shape

def readText : Value → Reads String
  | .text content => .ok content
  | _ => .error .shape

def readBool : Value → Reads Bool
  | .bool flag => .ok flag
  | _ => .error .shape

/-- An array whose items are all read. -/
def readList {Result : Type} (read : Value → Reads Result) : Value → Reads (List Result)
  | .array items => items.mapM read
  | _ => .error .shape

/-- A record of one of several kinds: the tag that names the kind, and the other fields. -/
def readTagged (tagName : String) : Value → Reads (String × Value)
  | .object fields =>
      match fields.filter fun field => field.1 == tagName with
      | [(_, .text tag)] => .ok (tag, .object (fields.filter fun field => field.1 != tagName))
      | _ => .error .shape
  | .array (.text tag :: items) => .ok (tag, .array items)
  | _ => .error .shape

end ParserGraph.Wire

import ParserGraph.Value.Number

/-!
# Values

The JSON values that parsers produce.  An object is the list of its fields; in a
normal value the keys of every object increase in code point order, so that a
key occurs once.  Normalizing sorts the fields, and of fields of one key the last
one stays.
-/

namespace ParserGraph

/-- A JSON value. -/
inductive Value where
  | null
  | bool (flag : Bool)
  | number (number : Number)
  | text (text : String)
  | array (items : List Value)
  | object (fields : List (String × Value))
deriving Repr

namespace Value

theorem sizeOf_lt_of_mem {items : List Value} {item : Value} (member : item ∈ items) :
    sizeOf item < sizeOf (array items) := by
  have smaller := List.sizeOf_lt_of_mem member
  rw [array.sizeOf_spec]
  omega

theorem sizeOf_lt_of_mem_fields
    {fields : List (String × Value)}
    {field : String × Value}
    (member : field ∈ fields) :
    sizeOf field.2 < sizeOf (object fields) := by
  have smaller := List.sizeOf_lt_of_mem member
  rcases field with ⟨key, value⟩
  rw [Prod.mk.sizeOf_spec] at smaller
  rw [object.sizeOf_spec]
  dsimp only
  omega

/-- What holds of a value if it holds of its items and fields holds of every value. -/
@[elab_as_elim, induction_eliminator]
theorem induction_on_parts
    {motive : Value → Prop}
    (null : motive .null)
    (bool : ∀ flag, motive (.bool flag))
    (number : ∀ number, motive (.number number))
    (text : ∀ text, motive (.text text))
    (array : ∀ items, (∀ item ∈ items, motive item) → motive (.array items))
    (object : ∀ fields, (∀ field ∈ fields, motive field.2) → motive (.object fields))
    (value : Value) :
    motive value :=
  match value with
  | .null => null
  | .bool flag => bool flag
  | .number amount => number amount
  | .text content => text content
  | .array items =>
      array items fun item _ => induction_on_parts null bool number text array object item
  | .object fields =>
      object fields fun field _ => induction_on_parts null bool number text array object field.2
termination_by sizeOf value
decreasing_by
  · exact sizeOf_lt_of_mem ‹_›
  · exact sizeOf_lt_of_mem_fields ‹_›

/-- A natural number as a value; one of 2 ^ 64 or more has none and becomes null. -/
def ofNat (number : Nat) : Value :=
  ((Number.ofInt? number).map .number).getD .null

mutual

/-- Values that the program takes as equal: numbers of equal value, and all else alike. -/
def same : Value → Value → Bool
  | .null, .null => true
  | .bool first, .bool second => first == second
  | .number first, .number second => first.same second
  | .text first, .text second => first == second
  | .array first, .array second => sameItems first second
  | .object first, .object second => sameFields first second
  | _, _ => false

def sameItems : List Value → List Value → Bool
  | [], [] => true
  | first :: firstRest, second :: secondRest =>
      same first second && sameItems firstRest secondRest
  | _, _ => false

/-- Equal keys and values in the same order. -/
def sameFields : List (String × Value) → List (String × Value) → Bool
  | [], [] => true
  | (firstKey, first) :: firstRest, (secondKey, second) :: secondRest =>
      firstKey == secondKey && same first second && sameFields firstRest secondRest
  | _, _ => false

end

/--
Put a field in its place among fields of increasing keys; a field of the same
key is replaced.
-/
def insertField (key : String) (value : Value) : List (String × Value) → List (String × Value)
  | [] => [(key, value)]
  | (otherKey, other) :: rest =>
      if key < otherKey then
        (key, value) :: (otherKey, other) :: rest
      else if key = otherKey then
        (key, value) :: rest
      else
        (otherKey, other) :: insertField key value rest

mutual

/-- The same value with the fields of its objects sorted by key, the last of each key kept. -/
def normalize : Value → Value
  | .array items => .array (normalizeItems items)
  | .object fields => .object (normalizeFields [] fields)
  | value => value

def normalizeItems : List Value → List Value
  | [] => []
  | item :: rest => normalize item :: normalizeItems rest

/-- The fields normalized and put among fields already sorted. -/
def normalizeFields (sorted : List (String × Value)) :
    List (String × Value) → List (String × Value)
  | [] => sorted
  | (key, value) :: rest => normalizeFields (insertField key (normalize value) sorted) rest

end

/-- An object of the given fields, sorted. -/
def ofFields (fields : List (String × Value)) : Value :=
  .object (fields.foldl (fun sorted field => insertField field.1 field.2 sorted) [])

/-- The value of a key in an object; the last field of the key counts. -/
def field? (key : String) : Value → Option Value
  | .object fields => (fields.reverse.find? fun field => field.1 == key).map Prod.snd
  | _ => none

end Value

end ParserGraph

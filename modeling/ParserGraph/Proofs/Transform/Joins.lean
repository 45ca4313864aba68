import ParserGraph.Proofs.Text.Blanks
import ParserGraph.Transform

/-!
# Values joined to text

Arrays leave no trace in what they are joined to.  The text of a value is put together from
its leaves, which are the values in it that are no arrays, from left to right, and of these
null adds nothing.  Lists of values have the same leaves exactly if one comes from the other
by putting neighbours into an array and by taking an array apart, anywhere and again and
again.

To convert a value that was converted before changes nothing.
-/

namespace ParserGraph

namespace Value

mutual

/-- The values in a value that are no arrays, from left to right. -/
def leaves : Value → List Value
  | .array items => leavesOf items
  | value => [value]

/-- The leaves of all items, one behind the other. -/
def leavesOf : List Value → List Value
  | [] => []
  | item :: rest => leaves item ++ leavesOf rest

end

def isNull : Value → Bool
  | .null => true
  | _ => false

theorem eq_null_of_isNull {value : Value} (null : value.isNull = true) : value = .null := by
  cases value <;> first | rfl | cases null

@[simp]
theorem leaves_array (items : List Value) : leaves (.array items) = leavesOf items := by
  rw [leaves]

@[simp]
theorem leavesOf_append (items others : List Value) :
    leavesOf (items ++ others) = leavesOf items ++ leavesOf others := by
  induction items with
  | nil => simp [leavesOf]
  | cons item rest hypothesis => simp [leavesOf, hypothesis]

/-- Lists of values that differ only in which neighbours are put into arrays, at any depth. -/
inductive Rebrackets : List Value → List Value → Prop where
  | group (front inner back : List Value) :
      Rebrackets (front ++ inner ++ back) (front ++ .array inner :: back)
  | inside (front back : List Value) {inner other : List Value}
      (rebrackets : Rebrackets inner other) :
      Rebrackets (front ++ .array inner :: back) (front ++ .array other :: back)
  | refl (items : List Value) : Rebrackets items items
  | symm {items others : List Value} (rebrackets : Rebrackets items others) :
      Rebrackets others items
  | trans {items others further : List Value} (first : Rebrackets items others)
      (second : Rebrackets others further) : Rebrackets items further

namespace Rebrackets

variable {items others : List Value}

/-- What stands around is left alone. -/
theorem around (rebrackets : Rebrackets items others) (front back : List Value) :
    Rebrackets (front ++ items ++ back) (front ++ others ++ back) := by
  induction rebrackets with
  | group first inner last =>
      have grouped := group (front ++ first) inner (last ++ back)
      simpa using grouped
  | inside first last rebrackets _ =>
      have changed := inside (front ++ first) (last ++ back) rebrackets
      simpa using changed
  | refl items => exact refl _
  | symm _ hypothesis => exact hypothesis.symm
  | trans _ _ first second => exact first.trans second

/-- All arrays may be taken apart, until only leaves are left. -/
theorem leavesOf (items : List Value) : Rebrackets items (Value.leavesOf items) := by
  cases items with
  | nil => exact refl []
  | cons item rest =>
      have behind := (leavesOf rest).around item.leaves []
      simp only [List.append_nil] at behind
      rw [Value.leavesOf]
      refine trans ?_ behind
      cases item with
      | array inner =>
          have taken_apart := (group [] inner rest).symm
          exact trans taken_apart ((leavesOf inner).around [] rest)
      | _ => exact refl _

theorem leavesOf_eq (rebrackets : Rebrackets items others) :
    Value.leavesOf items = Value.leavesOf others := by
  induction rebrackets with
  | group front inner back => simp [Value.leavesOf]
  | inside front back _ hypothesis => simp [Value.leavesOf, hypothesis]
  | refl items => rfl
  | symm _ hypothesis => exact hypothesis.symm
  | trans _ _ first second => exact first.trans second

end Rebrackets

theorem rebrackets_iff {items others : List Value} :
    Rebrackets items others ↔ leavesOf items = leavesOf others := by
  constructor
  · exact Rebrackets.leavesOf_eq
  · intro same
    have taken_apart := Rebrackets.leavesOf items
    rw [same] at taken_apart
    exact taken_apart.trans (Rebrackets.leavesOf others).symm

end Value

namespace Conversion

theorem joined_array (items : List Value) : joined (.array items) = joinedItems items := by
  rw [joined]

theorem joinedItems_append (items others : List Value) :
    joinedItems (items ++ others) = joinedItems items ++ joinedItems others := by
  induction items with
  | nil => simp [joinedItems]
  | cons item rest hypothesis => simp [joinedItems, hypothesis, String.append_assoc]

mutual

/-- A value is joined to what its leaves are joined to, one behind the other. -/
theorem joinedItems_leaves : (value : Value) → joinedItems value.leaves = joined value
  | .array items => by rw [Value.leaves_array, joinedItems_leavesOf items, joined_array]
  | .null | .bool _ | .number _ | .text _ | .object _ => by
      simp [Value.leaves, joinedItems]

theorem joinedItems_leavesOf : (items : List Value) →
    joinedItems (Value.leavesOf items) = joinedItems items
  | [] => rfl
  | item :: rest => by
      rw [Value.leavesOf, joinedItems_append, joinedItems_leaves item, joinedItems_leavesOf rest]
      rfl

end

/-- Null adds nothing. -/
theorem joinedItems_filter_not_isNull (items : List Value) :
    joinedItems (items.filter fun item => !item.isNull) = joinedItems items := by
  induction items with
  | nil => rfl
  | cons item rest hypothesis =>
      cases null : item.isNull with
      | true =>
          rw [List.filter_cons_of_neg (by simp [null]), hypothesis, joinedItems,
            Value.eq_null_of_isNull null, joined, String.empty_append]
      | false => rw [List.filter_cons_of_pos (by simp [null]), joinedItems, hypothesis, joinedItems]

@[simp]
theorem toNumber_toNumber (value : Value) : toNumber (toNumber value) = toNumber value := by
  cases value with
  | text content =>
      rw [toNumber]
      cases read : readNumber? content with
      | none => simp [toNumber, read]
      | some number => rfl
  | _ => rfl

@[simp]
theorem toTrimmed_toTrimmed (value : Value) : toTrimmed (toTrimmed value) = toTrimmed value := by
  cases value with
  | text content => simp [toTrimmed]
  | _ => rfl

/-- The builtin conversions done twice, and values that are joined to one text. -/
structure ConversionLaws : Prop where
  idempotent :
    ∀ conversion ∈ builtins, ∀ value,
      conversion.apply (conversion.apply value) = conversion.apply value
  joined_append :
    ∀ items others,
      joined (.array (items ++ others)) = joined (.array items) ++ joined (.array others)
  /-- Only the leaves count. -/
  joined_of_leaves :
    ∀ value other : Value, value.leaves = other.leaves → joined value = joined other
  /-- Neighbours may be put into an array, and arrays be taken apart, anywhere in an array. -/
  joined_of_rebrackets :
    ∀ items others, Value.Rebrackets items others → joined (.array items) = joined (.array others)
  /-- Of the leaves only those count that are not null. -/
  joined_leaves :
    ∀ value : Value, joined (.array (value.leaves.filter fun leaf => !leaf.isNull)) = joined value

/-- A builtin is done once and for all, and joining respects how arrays are put together. -/
theorem conversionLaws : ConversionLaws where
  idempotent conversion builtin value := by
    simp only [builtins, List.mem_cons, List.not_mem_nil, or_false] at builtin
    rcases builtin with rfl | rfl | rfl
    · exact toNumber_toNumber value
    · simp [join, joined]
    · exact toTrimmed_toTrimmed value
  joined_append := by simp [joined_array, joinedItems_append]
  joined_of_leaves value other same := by
    rw [← joinedItems_leaves, ← joinedItems_leaves, same]
  joined_of_rebrackets items others rebrackets := by
    rw [joined_array, joined_array, ← joinedItems_leavesOf, ← joinedItems_leavesOf others,
      Value.rebrackets_iff.1 rebrackets]
  joined_leaves value := by
    rw [joined_array, joinedItems_filter_not_isNull, joinedItems_leaves]

-- An object is a leaf with all that it holds, and a null in an array is none.
example :
    joined (.array
      [.text "a", .array [.null, .array [.text "b"]], .object [("k", .array [.null])]]) =
        "ab\x7b\"k\":[null]\x7d" := by
  rfl

end Conversion

end ParserGraph

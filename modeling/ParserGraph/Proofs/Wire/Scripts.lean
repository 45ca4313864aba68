import ParserGraph.Proofs.Value.Rereading
import ParserGraph.Proofs.Wire.Edits

/-!
# Edits as the text of a script

A script is a text: the array of its edits, each as the object that it is written as.  What
is read of the text are the edits with the values of their props as these are read, and
nothing is read if one of the values cannot be.  All else that an edit says comes back.
-/

namespace ParserGraph

open Wire

namespace Value

theorem rereadFields?_append (depth : Nat) (fields others : List (String × Value)) :
    rereadFields? depth (fields ++ others) =
      (rereadFields? depth fields).bind fun read =>
        (rereadFields? depth others).map fun behind => read ++ behind := by
  induction fields with
  | nil => simp [rereadFields?]
  | cons field fields hypothesis =>
      rcases field with ⟨key, value⟩
      rw [List.cons_append, rereadFields?, rereadFields?, hypothesis]
      cases reread? depth value <;> cases rereadFields? depth fields <;>
        cases rereadFields? depth others <;> simp

theorem rereadFields?_nil (depth : Nat) : rereadFields? depth [] = some [] := rfl

theorem rereadFields?_cons
    {depth : Nat}
    (key : String)
    {value read : Value}
    {fields others : List (String × Value)}
    (valueRead : value.reread? depth = some read)
    (fieldsRead : rereadFields? depth fields = some others) :
    rereadFields? depth ((key, value) :: fields) = some ((key, read) :: others) := by
  rw [rereadFields?, valueRead, fieldsRead]
  rfl

theorem rereadFields?_eq_none
    {depth : Nat}
    {fields : List (String × Value)}
    (field : String × Value)
    (member : field ∈ fields)
    (refused : field.2.reread? depth = none) :
    rereadFields? depth fields = none := by
  induction fields with
  | nil => cases member
  | cons first fields hypothesis =>
      rcases first with ⟨key, value⟩
      rw [rereadFields?]
      rcases List.mem_cons.1 member with rfl | behind
      · rw [refused, Option.bind_none]
      · rw [hypothesis behind]
        cases reread? depth value <;> rfl

theorem comesBack_null (depth : Nat) : null.ComesBack depth := rfl

/-- A number of 64 bits is an integer, and a greater one is null. -/
theorem comesBack_ofNat (depth number : Nat) : (ofNat number).ComesBack depth := by
  unfold ofNat
  cases made : Number.ofInt? (number : Int) with
  | none => exact comesBack_null depth
  | some amount =>
      have back := Number.reread?_of_ofInt? made
      rw [Option.map_some, Option.getD_some, ComesBack, reread?, back, Option.map_some]

theorem comesBack_ofNat? (depth : Nat) (number? : Option Nat) :
    (ofNat? number?).ComesBack depth := by
  cases number? with
  | none => exact comesBack_null depth
  | some number =>
      rw [ofNat?, Option.map_some, Option.getD_some]
      exact comesBack_ofNat depth number

/-- Slots come back if what they are filled with does. -/
theorem rereadFields?_present
    {depth : Nat}
    {slots : List (String × Option Value)}
    (all : ∀ slot ∈ slots, ∀ value ∈ slot.2, value.ComesBack depth) :
    rereadFields? depth (present slots) = some (present slots) := by
  refine rereadFields?_eq_self_iff.2 fun field member => ?_
  rcases exists_slot_of_mem_present member with ⟨slot, slotMember, _, filled⟩
  exact all slot slotMember field.2 filled

end Value

/-! ## Props -/

theorem Bounds.comesBack_toValue
    {depth : Nat}
    (inside : depth < Value.depthLimit)
    (bounds : Bounds) :
    bounds.toValue.ComesBack depth := by
  rw [toValue_eq_object, Value.comesBack_object_iff, ← Value.rereadFields?_eq_self_iff]
  refine ⟨inside, Value.rereadFields?_present ?_⟩
  simp only [slots, List.forall_mem_cons, List.not_mem_nil, false_implies, implies_true, and_true,
    Option.mem_def, Option.map_eq_some_iff, Option.some.injEq]
  constructor
  · rintro value ⟨most, _, rfl⟩
    exact Value.comesBack_ofNat _ most
  · rintro value rfl
    exact Value.comesBack_ofNat _ bounds.min

namespace Props

/-- What is open around a value in a script: the script, an edit and its props. -/
def valueDepth : Nat := 3

/-- The value of the props can be read where it stands in a script. -/
def isLegible (props : Props) : Bool :=
  props.value.all fun said => (said.value.reread? valueDepth).isSome

/-- The same props with the value as it is read where it stands in a script. -/
def reread (props : Props) : Props :=
  { props with
    value := props.value.bind fun said => (said.value.reread? valueDepth).map Value.normal }

variable {props : Props}

theorem rereadFields?_value (props : Props) :
    Value.rereadFields? valueDepth (present [("value", props.value.map Value.Normal.value)]) =
      if props.isLegible then
        some (present [("value", props.reread.value.map Value.Normal.value)])
      else none := by
  cases value : props.value with
  | none => simp [isLegible, reread, value, present, Value.rereadFields?]
  | some said =>
      cases read : said.value.reread? valueDepth with
      | none => simp [isLegible, value, read, present, Value.rereadFields?]
      | some other =>
          have normal : other.normal.value = other := said.isNormal.reread read
          simp [isLegible, reread, value, read, present, Value.rereadFields?, normal]

/-- Only the value of props may come back as another one, or not at all. -/
theorem reread?_toValue (props : Props) :
    props.toValue.reread? 2 =
      if props.isLegible then some props.reread.toValue else none := by
  have split : ∀ props : Props, props.slots =
      props.slots.take 8 ++ [("value", props.value.map Value.Normal.value)] := fun _ => rfl
  have others : ∀ slot ∈ props.slots.take 8, ∀ value ∈ slot.2, value.ComesBack valueDepth := by
    simp only [slots, List.take_succ_cons, List.take_zero, List.forall_mem_cons, List.not_mem_nil,
      false_implies, implies_true, and_true, Option.mem_def, Option.map_eq_some_iff]
    refine ⟨?_, ?_, ?_, ?_, ?_, ?_, ?_, ?_⟩ <;> rintro value ⟨part, _, rfl⟩
    · rfl
    · rfl
    · exact Value.comesBack_ofNat? _ part
    · exact Value.comesBack_ofNat _ part
    · rfl
    · exact part.comesBack_toValue (by decide)
    · rfl
    · rfl
  have kept : props.reread.slots.take 8 = props.slots.take 8 := rfl
  have depth : 2 + 1 = valueDepth := rfl
  rw [toValue_eq_object, toValue_eq_object, Value.reread?, if_pos (by decide), depth,
    split props, split props.reread, kept, present_append, present_append,
    Value.rereadFields?_append, Value.rereadFields?_present others, rereadFields?_value]
  cases props.isLegible <;> rfl

end Props

/-! ## Edits -/

namespace Edit

/-- The value of the edit's props can be read where it stands in a script. -/
def isLegible (edit : Edit) : Bool :=
  edit.props?.all Props.isLegible

/-- What is written of an edit comes back as what is written of it with its value as read. -/
theorem rereadFields?_parts {edit : Edit} (legible : edit.isLegible = true) :
    Value.rereadFields? 2 (edit.partsBefore ++ ("op", .text edit.name) :: edit.partsBehind) =
      some ((edit.mapProps Props.reread).partsBefore ++
        ("op", .text edit.name) :: (edit.mapProps Props.reread).partsBehind) := by
  have nodeBack : ∀ node : NodeId, node.toValue.reread? 2 = some node.toValue := by
    intro node
    rw [NodeId.toValue]
    exact Value.comesBack_ofNat 2 node.number
  have textBack : ∀ content, (Value.text content).reread? 2 = some (.text content) := fun _ => rfl
  have propsBack : ∀ props : Props, props.isLegible = true →
      props.toValue.reread? 2 = some props.reread.toValue := fun props legible =>
    props.reread?_toValue.trans (if_pos legible)
  have nothing := Value.rereadFields?_nil 2
  have named : ∀ fields others, Value.rereadFields? 2 fields = some others →
      Value.rereadFields? 2 (("op", .text edit.name) :: fields) =
        some (("op", .text edit.name) :: others) := fun _ _ behind =>
    Value.rereadFields?_cons "op" (textBack edit.name) behind
  cases edit with
  | create tag props =>
      have tagBack := Value.rereadFields?_cons "tag" (textBack tag) nothing
      exact named _ _ (Value.rereadFields?_cons "props" (propsBack props legible) tagBack)
  | update node delta =>
      have nodesBack := Value.rereadFields?_cons "node" (nodeBack node) (named _ _ nothing)
      exact Value.rereadFields?_cons "delta" (propsBack delta legible) nodesBack
  | appendChild parent child | removeChild parent child =>
      have parentBack := Value.rereadFields?_cons "parent" (nodeBack parent) nothing
      exact Value.rereadFields?_cons "child" (nodeBack child) (named _ _ parentBack)
  | insertBefore parent child before =>
      have parentBack := Value.rereadFields?_cons "parent" (nodeBack parent) nothing
      have childBack := Value.rereadFields?_cons "child" (nodeBack child) (named _ _ parentBack)
      exact Value.rereadFields?_cons "before" (nodeBack before) childBack
  | destroy node | setRoot node =>
      exact Value.rereadFields?_cons "node" (nodeBack node) (named _ _ nothing)
  | clearRoot => exact named _ _ nothing

theorem rereadFields?_parts_eq_none {edit : Edit} (illegible : edit.isLegible = false) :
    Value.rereadFields? 2 (edit.partsBefore ++ ("op", .text edit.name) :: edit.partsBehind) =
      none := by
  have refused : ∀ props : Props, props.isLegible = false → props.toValue.reread? 2 = none :=
    fun props illegible => props.reread?_toValue.trans (if_neg (by simp [illegible]))
  cases edit with
  | create tag props =>
      exact Value.rereadFields?_eq_none ("props", props.toValue)
        (by simp [partsBefore, partsBehind]) (refused props illegible)
  | update node delta =>
      exact Value.rereadFields?_eq_none ("delta", delta.toValue) (by simp [partsBefore])
        (refused delta illegible)
  | _ => cases illegible

/-- The object of an edit comes back as that of the edit with its value as it is read. -/
theorem reread?_toValue (edit : Edit) :
    edit.toValue.reread? 1 =
      if edit.isLegible then some (edit.mapProps Props.reread).toValue else none := by
  have inside : 1 < Value.depthLimit := by decide
  have name : (edit.mapProps Props.reread).name = edit.name := by cases edit <;> rfl
  rw [toValue_eq_object, toValue_eq_object, Value.reread?, if_pos inside, name]
  cases legible : edit.isLegible with
  | true => rw [if_pos rfl, rereadFields?_parts legible, Option.map_some]
  | false => rw [if_neg Bool.false_ne_true, rereadFields?_parts_eq_none legible, Option.map_none]

/-- The text of a script: the array of its edits. -/
def script (edits : List Edit) : String :=
  (Value.array (edits.map toValue)).compact

/-- A script is read as edits with their values as they are read, or not at all. -/
theorem read?_script (edits : List Edit) :
    Value.read? (script edits) =
      if edits.all isLegible then
        some (.array ((edits.map (mapProps Props.reread)).map toValue))
      else none := by
  have items : Value.rereadItems? 1 (edits.map toValue) =
      if edits.all isLegible then some ((edits.map (mapProps Props.reread)).map toValue)
      else none := by
    induction edits with
    | nil => rfl
    | cons edit edits hypothesis =>
        rw [List.map_cons, Value.rereadItems?, hypothesis, reread?_toValue, List.all_cons]
        cases edit.isLegible <;> cases edits.all isLegible <;> rfl
  rw [script, Value.read?_compact, Value.reread?, if_pos (by decide), items]
  cases edits.all isLegible <;> rfl

end Edit

end ParserGraph

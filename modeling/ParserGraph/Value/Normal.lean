import ParserGraph.Value.Basic

/-!
# Normal values

Fields that are put in their places one after the other end up in the order of their keys,
whatever the order was in which they came.  A value in which all fields stand like that is
normal: it is what normalizing makes of any value, and normalizing leaves it alone.
A value that is said of a node carries that it is normal.
-/

namespace ParserGraph.Value

/-- Fields in the order of their keys, none of which occurs twice. -/
def KeysIncrease (fields : List (String × Value)) : Prop :=
  fields.Pairwise fun field later => field.1 < later.1

/-- A value that normalizing leaves alone. -/
def IsNormal (value : Value) : Prop :=
  value.normalize = value

variable {key : String} {value : Value} {fields : List (String × Value)}

theorem eq_or_mem_of_mem_insertField
    {field : String × Value}
    (member : field ∈ insertField key value fields) :
    field = (key, value) ∨ field ∈ fields := by
  induction fields with
  | nil => exact Or.inl (by simpa [insertField] using member)
  | cons first rest hypothesis =>
      rw [insertField] at member
      split at member
      case isTrue smaller => exact List.mem_cons.1 member
      case isFalse notSmaller =>
        split at member
        case isTrue equal =>
          rcases List.mem_cons.1 member with isNew | behind
          · exact Or.inl isNew
          · exact Or.inr (List.mem_cons_of_mem _ behind)
        case isFalse different =>
          rcases List.mem_cons.1 member with isFirst | behind
          · exact Or.inr (isFirst ▸ List.mem_cons_self)
          · rcases hypothesis behind with isNew | old
            · exact Or.inl isNew
            · exact Or.inr (List.mem_cons_of_mem _ old)

theorem KeysIncrease.insertField (increase : KeysIncrease fields) :
    KeysIncrease (insertField key value fields) := by
  induction fields with
  | nil => simp [Value.insertField, KeysIncrease]
  | cons first rest hypothesis =>
      rcases List.pairwise_cons.1 increase with ⟨firstSmaller, restIncrease⟩
      rw [Value.insertField]
      split
      case isTrue smaller =>
        refine List.pairwise_cons.2 ⟨?_, increase⟩
        intro field member
        rcases List.mem_cons.1 member with rfl | behind
        · exact smaller
        · exact String.lt_trans smaller (firstSmaller field behind)
      case isFalse notSmaller =>
        split
        case isTrue equal =>
          refine List.pairwise_cons.2 ⟨?_, restIncrease⟩
          intro field member
          exact equal ▸ firstSmaller field member
        case isFalse different =>
          refine List.pairwise_cons.2 ⟨?_, hypothesis restIncrease⟩
          intro field member
          rcases eq_or_mem_of_mem_insertField member with rfl | old
          · have atMost : first.1 ≤ key := String.not_lt.1 notSmaller
            exact Decidable.byContradiction fun notGreater =>
              different (String.le_antisymm (String.not_lt.1 notGreater) atMost)
          · exact firstSmaller field old

/-- A field of a new key comes in addition to the others. -/
theorem perm_insertField (isNew : ∀ field ∈ fields, field.1 ≠ key) :
    (insertField key value fields).Perm ((key, value) :: fields) := by
  induction fields with
  | nil => exact List.Perm.refl _
  | cons first rest hypothesis =>
      have newBehind : ∀ field ∈ rest, field.1 ≠ key := fun field member =>
        isNew field (List.mem_cons_of_mem _ member)
      rw [insertField]
      split
      case isTrue smaller => exact List.Perm.refl _
      case isFalse notSmaller =>
        split
        case isTrue equal => exact absurd equal.symm (isNew first List.mem_cons_self)
        case isFalse different =>
          exact ((hypothesis newBehind).cons first).trans (List.Perm.swap _ _ _)

/-- A field with a greater key than all others comes last. -/
theorem insertField_of_forall_lt (greatest : ∀ field ∈ fields, field.1 < key) :
    insertField key value fields = fields ++ [(key, value)] := by
  induction fields with
  | nil => rfl
  | cons first rest hypothesis =>
      have before : first.1 < key := greatest first List.mem_cons_self
      have notSmaller : ¬ key < first.1 := fun smaller =>
        String.lt_irrefl _ (String.lt_trans before smaller)
      have different : key ≠ first.1 := fun equal => String.lt_irrefl _ (equal ▸ before)
      rw [insertField, if_neg notSmaller, if_neg different,
        hypothesis fun field member => greatest field (List.mem_cons_of_mem _ member)]
      rfl

/-- Fields of different keys, put among fields of other keys, all stay. -/
theorem perm_foldl_insertField
    {sorted : List (String × Value)}
    (different : (fields ++ sorted).Pairwise fun field other => field.1 ≠ other.1) :
    (fields.foldl (fun sorted field => insertField field.1 field.2 sorted) sorted).Perm
      (fields ++ sorted) := by
  induction fields generalizing sorted with
  | nil => exact List.Perm.refl _
  | cons first rest hypothesis =>
      rcases List.pairwise_cons.1 different with ⟨firstDifferent, restDifferent⟩
      have placed : (insertField first.1 first.2 sorted).Perm (first :: sorted) :=
        perm_insertField fun field member =>
          (firstDifferent field (List.mem_append_right rest member)).symm
      have arranged : (rest ++ insertField first.1 first.2 sorted).Perm (first :: rest ++ sorted) :=
        (placed.append_left rest).trans List.perm_middle
      have differentStill :
          (rest ++ insertField first.1 first.2 sorted).Pairwise fun field other =>
            field.1 ≠ other.1 :=
        different.perm arranged.symm Ne.symm
      exact (hypothesis differentStill).trans arranged

theorem keysIncrease_foldl_insertField
    {sorted : List (String × Value)}
    (increase : KeysIncrease sorted) :
    KeysIncrease
      (fields.foldl (fun sorted field => insertField field.1 field.2 sorted) sorted) := by
  induction fields generalizing sorted with
  | nil => exact increase
  | cons first rest hypothesis => exact hypothesis increase.insertField

theorem KeysIncrease.ne (increase : KeysIncrease fields) :
    fields.Pairwise fun field other => field.1 ≠ other.1 := by
  refine increase.imp ?_
  intro field other smaller equal
  exact String.lt_irrefl _ (equal ▸ smaller)

/-- The same fields in the order of their keys are one list only. -/
theorem KeysIncrease.eq_of_perm
    {others : List (String × Value)}
    (increase : KeysIncrease fields)
    (othersIncrease : KeysIncrease others)
    (arranged : fields.Perm others) :
    fields = others :=
  List.Perm.eq_of_pairwise
    (fun _ _ _ _ smaller greater => absurd (String.lt_trans smaller greater) (String.lt_irrefl _))
    increase othersIncrease arranged

/-- An object is made of its fields in whatever order they come. -/
theorem ofFields_eq_object
    {sorted : List (String × Value)}
    (arranged : fields.Perm sorted)
    (increase : KeysIncrease sorted) :
    ofFields fields = .object sorted := by
  have different :
      (fields ++ []).Pairwise fun (field other : String × Value) => field.1 ≠ other.1 := by
    rw [List.append_nil]
    exact increase.ne.perm arranged.symm Ne.symm
  have stay := perm_foldl_insertField different
  rw [List.append_nil] at stay
  rw [ofFields, (keysIncrease_foldl_insertField List.Pairwise.nil).eq_of_perm increase
    (stay.trans arranged)]

/-- Normal fields with increasing keys are only put one behind the other. -/
theorem normalizeFields_of_keysIncrease
    {sorted : List (String × Value)}
    (increase : KeysIncrease (sorted ++ fields))
    (normal : ∀ field ∈ fields, field.2.IsNormal) :
    normalizeFields sorted fields = sorted ++ fields := by
  induction fields generalizing sorted with
  | nil => rw [normalizeFields, List.append_nil]
  | cons first rest hypothesis =>
      have greatest : ∀ field ∈ sorted, field.1 < first.1 := fun field member =>
        (List.pairwise_append.1 increase).2.2 field member first List.mem_cons_self
      have firstNormal : first.2.normalize = first.2 := normal first List.mem_cons_self
      rw [normalizeFields, firstNormal, insertField_of_forall_lt greatest]
      rw [List.append_cons sorted first rest] at increase ⊢
      exact hypothesis increase fun field member => normal field (List.mem_cons_of_mem _ member)

theorem isNormal_object
    (increase : KeysIncrease fields)
    (normal : ∀ field ∈ fields, field.2.IsNormal) :
    (Value.object fields).IsNormal := by
  have kept : normalizeFields [] fields = [] ++ fields :=
    normalizeFields_of_keysIncrease increase normal
  rw [IsNormal, normalize, kept, List.nil_append]

theorem isNormal_array
    {items : List Value}
    (normal : ∀ item ∈ items, item.IsNormal) :
    (Value.array items).IsNormal := by
  have itemsNormal : normalizeItems items = items := by
    induction items with
    | nil => rfl
    | cons first rest hypothesis =>
        have firstNormal : first.normalize = first := normal first List.mem_cons_self
        rw [normalizeItems, firstNormal,
          hypothesis fun item member => normal item (List.mem_cons_of_mem _ member)]
  rw [IsNormal, normalize, itemsNormal]

mutual

/-- Normalizing makes a value normal. -/
theorem isNormal_normalize : (value : Value) → value.normalize.IsNormal
  | .null | .bool _ | .number _ | .text _ => rfl
  | .array items => isNormal_array (isNormal_of_mem_normalizeItems items)
  | .object fields => by
      have made := normalizeFields_normal fields List.Pairwise.nil (by simp)
      exact isNormal_object made.1 made.2

theorem isNormal_of_mem_normalizeItems :
    (items : List Value) → ∀ item ∈ normalizeItems items, item.IsNormal
  | [] => fun _ member => absurd member List.not_mem_nil
  | first :: rest => fun item member => by
      rcases List.mem_cons.1 member with rfl | behind
      · exact isNormal_normalize first
      · exact isNormal_of_mem_normalizeItems rest item behind

theorem normalizeFields_normal
    {sorted : List (String × Value)} :
    (fields : List (String × Value)) →
    KeysIncrease sorted →
    (∀ field ∈ sorted, field.2.IsNormal) →
    KeysIncrease (normalizeFields sorted fields) ∧
      ∀ field ∈ normalizeFields sorted fields, field.2.IsNormal
  | [], increase, normal => ⟨increase, normal⟩
  | (key, value) :: rest, increase, normal => by
      refine normalizeFields_normal rest increase.insertField ?_
      intro field member
      rcases eq_or_mem_of_mem_insertField member with rfl | old
      · exact isNormal_normalize value
      · exact normal field old

end

theorem isNormal_array_iff {items : List Value} :
    (Value.array items).IsNormal ↔ ∀ item ∈ items, item.IsNormal := by
  refine ⟨fun normal => ?_, isNormal_array⟩
  have kept : normalizeItems items = items := array.inj normal
  exact kept ▸ isNormal_of_mem_normalizeItems items

theorem isNormal_object_iff :
    (Value.object fields).IsNormal ↔
      KeysIncrease fields ∧ ∀ field ∈ fields, field.2.IsNormal := by
  refine ⟨fun normal => ?_, fun both => isNormal_object both.1 both.2⟩
  have kept : normalizeFields [] fields = fields := object.inj normal
  exact kept ▸ normalizeFields_normal fields List.Pairwise.nil (by simp)

/-- A value in which the fields of all objects stand in the order of their keys, each key once. -/
structure Normal where
  value : Value
  isNormal : value.IsNormal

instance : Coe Normal Value where
  coe := Normal.value

/-- The value with all its fields put in their places. -/
def normal (value : Value) : Normal where
  value := value.normalize
  isNormal := isNormal_normalize value

@[simp]
theorem normal_value (value : Normal) : value.value.normal = value := by
  rcases value with ⟨value, isNormal⟩
  unfold normal
  congr

end ParserGraph.Value

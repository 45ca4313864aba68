import ParserGraph.Proofs.Identities
import ParserGraph.Proofs.Wire.Records

/-!
# Props written and read

Props are written as the fields that they say something in, and they are read back as they
were, except that a transform loses its identity and that a null value is not said at all.
What any value is read as can be written like that: its numbers have 64 bits.
-/

namespace ParserGraph

open Wire

/-- The value, unless it is null. -/
def Value.Normal.notNull? (said : Normal) : Option Normal :=
  match said.value with
  | .null => none
  | _ => some said

theorem Value.Normal.notNull?_eq_some {said : Normal} (notNull : said.value ≠ .null) :
    said.notNull? = some said := by
  rcases said with ⟨value, isNormal⟩
  cases value <;> first | rfl | exact absurd rfl notNull

namespace Bounds

/-- Bounds that are written as they are. -/
structure Fits (bounds : Bounds) : Prop where
  min : Wire.Fits bounds.min
  max : ∀ most ∈ bounds.max, Wire.Fits most

variable {bounds : Bounds}

/-- The slots of bounds in the order of their names. -/
def slots (bounds : Bounds) : List (String × Option Value) :=
  [("max", bounds.max.map .ofNat), ("min", some (.ofNat bounds.min))]

theorem increase_slots (bounds : Bounds) :
    bounds.slots.Pairwise fun slot later => slot.1 < later.1 := by
  have increase : ["max", "min"].Pairwise (· < ·) := by decide
  exact List.pairwise_map.1 increase

theorem toValue_eq_object (bounds : Bounds) : bounds.toValue = .object (present bounds.slots) := by
  have least : [("min", Value.ofNat bounds.min)] = present [("min", some (.ofNat bounds.min))] :=
    rfl
  rw [toValue, least, fieldOf?_eq_present, ← present_append]
  exact Value.ofFields_eq_object (.filterMap _ (.swap _ _ _))
    (keysIncrease_present bounds.increase_slots)

theorem ofValue_toValue (fits : bounds.Fits) : ofValue bounds.toValue = .ok bounds := by
  have most : (bounds.max.map .ofNat).elim (.ok none) (readNullable readNat) = .ok bounds.max := by
    cases isThere : bounds.max with
    | none => rfl
    | some number =>
        rw [Option.map_some, Option.elim_some]
        exact readNullable_ofNat (fits.max number isThere)
  have mostField : field? (present bounds.slots) "max" = bounds.max.map .ofNat :=
    field?_present bounds.increase_slots (by simp [slots])
  have leastField : field? (present bounds.slots) "min" = some (.ofNat bounds.min) :=
    field?_present bounds.increase_slots (by simp [slots])
  rw [toValue_eq_object, ofValue, readRecord_present bounds.increase_slots (by simp [slots]),
    bind_ok, optional_eq, mostField, most, bind_ok, withDefault, leastField]
  exact congrArg (fun read => read >>= fun min => pure ({ min, max := bounds.max } : Bounds))
    (readNat_ofNat fits.min)

/-- Bounds that are read are written as they are. -/
theorem fits_of_ofValue {value : Value} (read : ofValue value = .ok bounds) : bounds.Fits := by
  rw [ofValue, bind_eq_ok_iff] at read
  rcases read with ⟨record, _, read⟩
  rw [bind_eq_ok_iff] at read
  rcases read with ⟨max, maxRead, read⟩
  rw [bind_eq_ok_iff] at read
  rcases read with ⟨min, minRead, read⟩
  cases read
  have noneFits : Wire.Fits 0 := Nat.two_pow_pos 64
  exact
    { min := withDefault_keeps (fun _ _ => fits_of_readNat) noneFits minRead
      max := optional_keeps (fun _ _ => fits_of_readNat) maxRead }

end Bounds

/-- A transform that is known by name is made anew from its name. -/
theorem Transform.ofValue_name
    {transform : Transform}
    (builtin : transform.conversion ∈ Conversion.builtins)
    (identity : Nat) :
    ofValue identity (.text transform.name) = .ok (transform.withIdentity identity) := by
  rw [ofValue, readText, bind_ok, name, Conversion.ofName?_name builtin]
  rfl

theorem Transform.builtin_of_ofValue
    {identity : Nat}
    {value : Value}
    {transform : Transform}
    (read : ofValue identity value = .ok transform) :
    transform.conversion ∈ Conversion.builtins := by
  rw [ofValue, bind_eq_ok_iff] at read
  rcases read with ⟨name, _, read⟩
  cases known : Conversion.ofName? name with
  | none => simp [known] at read
  | some conversion =>
      simp only [known] at read
      cases read
      exact Conversion.mem_builtins_of_ofName? known

namespace Props

/-- Props that are written as they are. -/
structure Recordable (props : Props) : Prop where
  transform : ∀ transform ∈ props.transform, transform.conversion ∈ Conversion.builtins
  repetition : ∀ bounds ∈ props.repetition, bounds.Fits
  min : ∀ least ∈ props.min, Fits least
  max : ∀ most? ∈ props.max, ∀ most ∈ most?, Fits most

/-- Props as they are read: their numbers have 64 bits, and their value is not null. -/
structure AsRead (props : Props) : Prop extends Recordable props where
  notNull : ∀ said ∈ props.value, said.value ≠ .null

/-- The same props; a value that is null is not said. -/
def withoutNull (props : Props) : Props :=
  { props with value := props.value.bind Value.Normal.notNull? }

variable {props : Props} {identity : Nat}

/-- The slots of props in the order of their names. -/
def slots (props : Props) : List (String × Option Value) :=
  [("expected", props.expected.map .text),
   ("label", props.label.map .text),
   ("max", props.max.map Value.ofNat?),
   ("min", props.min.map .ofNat),
   ("pattern", props.pattern.map .text),
   ("repeat", props.repetition.map Bounds.toValue),
   ("text", props.text.map .text),
   ("transform", props.transform.map fun transform => .text transform.name),
   ("value", props.value.map Value.Normal.value)]

theorem increase_slots (props : Props) :
    props.slots.Pairwise fun slot later => slot.1 < later.1 := by
  have increase :
      ["expected", "label", "max", "min", "pattern", "repeat", "text", "transform",
        "value"].Pairwise (· < ·) := by
    decide
  exact List.pairwise_map.1 increase

theorem toValue_eq_object (props : Props) : props.toValue = .object (present props.slots) := by
  rw [toValue]
  refine Value.ofFields_eq_object ?_ (keysIncrease_present props.increase_slots)
  simp only [fieldOf?_eq_present, ← present_append]
  refine List.Perm.filterMap _ ?_
  classical
  rw [List.perm_iff_count]
  intro slot
  simp only [slots, List.cons_append, List.nil_append, List.count_cons, List.count_nil]
  omega

/-- A greatest number that is read is there, be it null or not. -/
theorem readField_max (start : Props) (value : Value) :
    readField identity start ("max", value) =
      ((readNullable readNat value).map some).map fun max => { start with max } := by
  rw [readField]
  cases readNullable readNat value <;> rfl

theorem readNullable_normal (said : Value.Normal) :
    readNullable (fun value => .ok value.normal) said.value = .ok said.notNull? := by
  have same : said.value.normal = said := Value.normal_value said
  rcases said with ⟨value, isNormal⟩
  cases value with
  | null => rfl
  | _ => exact congrArg (Except.ok ∘ some) same

/-- Props are read back without their null, and their transform has a new identity. -/
theorem ofValue_toValue (recordable : props.Recordable) :
    ofValue identity props.toValue = .ok (props.withoutNull.withIdentity identity) := by
  have maxBack : ∀ most? ∈ props.max,
      (readNullable readNat (.ofNat? most?)).map some = .ok (some most?) := by
    intro most? said
    rw [readNullable_ofNat? (recordable.max most? said)]
    rfl
  have minBack : ∀ least ∈ props.min, readNullable readNat (.ofNat least) = .ok (some least) :=
    fun least said => readNullable_ofNat (recordable.min least said)
  have boundsBack : ∀ bounds ∈ props.repetition,
      readNullable Bounds.ofValue bounds.toValue = .ok (some bounds) := fun bounds said =>
    readNullable_written (Bounds.ofValue_toValue (recordable.repetition bounds said)) nofun
  have transformBack : ∀ transform ∈ props.transform,
      readNullable (Transform.ofValue identity) (.text transform.name) =
        .ok (some (transform.withIdentity identity)) := fun transform said =>
    readNullable_written
      (Transform.ofValue_name (recordable.transform transform said) identity) nofun
  have valueBack : ∀ said ∈ props.value,
      readNullable (fun value => .ok value.normal) said.value = .ok said.notNull? :=
    fun said _ => readNullable_normal said
  rw [toValue_eq_object, ofValue, readFields_present props.increase_slots (by simp [slots, names])]
  simp only [slots, List.foldlM_cons, List.foldlM_nil]
  -- One slot after the other: what is read so far is written out in each step.
  refine bind_eq_ok (readSlot_kept (fun expected => { expected })
    (fun _ => rfl) rfl fun _ _ => rfl) ?_
  refine bind_eq_ok (readSlot_kept (fun label => { expected := props.expected, label })
    (fun _ => rfl) rfl fun _ _ => rfl) ?_
  refine bind_eq_ok (readSlot_kept
    (fun max => { expected := props.expected, label := props.label, max })
    (readField_max _) rfl maxBack) ?_
  refine bind_eq_ok (readSlot_kept
    (fun min => { expected := props.expected, label := props.label, max := props.max, min })
    (fun _ => rfl) rfl minBack) ?_
  refine bind_eq_ok (readSlot_kept
    (fun pattern =>
      { props with repetition := none, text := none, transform := none, value := none, pattern })
    (fun _ => rfl) rfl fun _ _ => rfl) ?_
  refine bind_eq_ok (readSlot_kept
    (fun repetition => { props with text := none, transform := none, value := none, repetition })
    (fun _ => rfl) rfl boundsBack) ?_
  refine bind_eq_ok (readSlot_kept
    (fun text => { props with transform := none, value := none, text })
    (fun _ => rfl) rfl fun _ _ => rfl) ?_
  refine bind_eq_ok (readSlot_written
    (fun transform => { props with transform, value := none })
    (fun _ => rfl) rfl transformBack) ?_
  refine bind_eq_ok (readSlot_written
    (fun value =>
      { props with transform := props.transform.bind (some <| ·.withIdentity identity), value })
    (fun _ => rfl) rfl valueBack) ?_
  rw [withIdentity, Option.map_eq_bind]
  rfl

theorem AsRead.withoutNull_eq (asRead : props.AsRead) : props.withoutNull = props := by
  rcases props with ⟨text, pattern, expected, _ | value, label, transform, repetition, min, max⟩
  · rfl
  · rw [withoutNull, Option.bind_some, Value.Normal.notNull?_eq_some (asRead.notNull value rfl)]

/-- A value that is read is there only if it is not null. -/
theorem notNull_of_readNullable
    {value : Value}
    {said? : Option Value.Normal}
    (read : readNullable (fun value => .ok value.normal) value = .ok said?) :
    ∀ said ∈ said?, said.value ≠ .null := by
  intro said isThere
  cases isThere
  cases value with
  | null => cases read
  | _ =>
      cases read
      nofun

theorem asRead_readField
    {field : String × Value}
    {next : Props}
    (asRead : props.AsRead)
    (read : readField identity props field = .ok next) :
    next.AsRead := by
  unfold readField at read
  split at read
  case h_4 =>
      rcases bind_eq_ok_iff.1 read with ⟨said?, valueRead, done⟩
      cases done
      exact { asRead with notNull := notNull_of_readNullable valueRead }
  case h_6 =>
      rcases bind_eq_ok_iff.1 read with ⟨transform?, transformRead, done⟩
      cases done
      have builtin := readNullable_keeps (fun _ _ => Transform.builtin_of_ofValue) transformRead
      exact { asRead with transform := builtin }
  case h_7 =>
      rcases bind_eq_ok_iff.1 read with ⟨bounds?, boundsRead, done⟩
      cases done
      have fits := readNullable_keeps (fun _ _ => Bounds.fits_of_ofValue) boundsRead
      exact { asRead with repetition := fits }
  case h_8 =>
      rcases bind_eq_ok_iff.1 read with ⟨least?, leastRead, done⟩
      cases done
      exact { asRead with min := readNullable_keeps (fun _ _ => fits_of_readNat) leastRead }
  case h_9 =>
      rcases bind_eq_ok_iff.1 read with ⟨most?, mostRead, done⟩
      cases done
      have fits := readNullable_keeps (fun _ _ => fits_of_readNat) mostRead
      exact { asRead with max := fun other said => Option.some.inj said ▸ fits }
  case h_10 =>
      cases read
      exact asRead
  all_goals
    rcases bind_eq_ok_iff.1 read with ⟨part?, _, done⟩
    cases done
    exact { asRead with }

theorem asRead_empty : AsRead {} where
  transform := nofun
  repetition := nofun
  min := nofun
  max := nofun
  notNull := nofun

theorem asRead_ofValue {value : Value} (read : ofValue identity value = .ok props) :
    props.AsRead :=
  readFields_keeps AsRead (fun _ _ _ => asRead_readField) asRead_empty read

end Props

end ParserGraph

import Mathlib.Tactic.SplitIfs
import ParserGraph.Wire.Props

/-!
# Records written and read

A record is written as an object whose fields stand in the order of their keys, and only
the slots that are filled are written.  From such an object the reader takes all fields in
that order, and an empty slot leaves what it reads as it was.
-/

namespace ParserGraph.Wire

variable {Part Result Next : Type}

/-! ## Readers -/

theorem bind_ok (result : Result) (next : Result → Reads Next) :
    ((.ok result : Reads Result) >>= next) = next result := rfl

theorem bind_eq_ok
    {first : Reads Result}
    {next : Result → Reads Next}
    {result : Result}
    {answer : Next}
    (firstRead : first = .ok result)
    (nextRead : next result = .ok answer) :
    first >>= next = .ok answer := by
  rw [firstRead, bind_ok, nextRead]

theorem bind_eq_ok_iff {first : Reads Result} {next : Result → Reads Next} {answer : Next} :
    first >>= next = .ok answer ↔ ∃ result, first = .ok result ∧ next result = .ok answer := by
  cases first with
  | error error =>
      constructor
      · intro read
        cases read
      · rintro ⟨_, read, _⟩
        cases read
  | ok result =>
      constructor
      · intro read
        exact ⟨result, rfl, read⟩
      · rintro ⟨_, equal, read⟩
        cases equal
        exact read

theorem map_eq_ok_iff {read : Reads Result} {change : Result → Next} {answer : Next} :
    read.map change = .ok answer ↔ ∃ result, read = .ok result ∧ change result = answer := by
  cases read <;> simp [Except.map]

/-- What every step keeps holds at the end if it holds at the start. -/
theorem foldlM_keeps
    (Holds : Result → Prop)
    {step : Result → Part → Reads Result}
    (keeps : ∀ start part stop, Holds start → step start part = .ok stop → Holds stop)
    {parts : List Part}
    {start stop : Result}
    (holds : Holds start)
    (read : parts.foldlM step start = .ok stop) :
    Holds stop := by
  induction parts generalizing start with
  | nil =>
      cases read
      exact holds
  | cons first rest hypothesis =>
      rw [List.foldlM_cons, bind_eq_ok_iff] at read
      rcases read with ⟨next, firstRead, restRead⟩
      exact hypothesis (keeps start first next holds firstRead) restRead

theorem readFields_keeps
    (Holds : Result → Prop)
    {read : Result → String × Value → Reads Result}
    (keeps : ∀ start field stop, Holds start → read start field = .ok stop → Holds stop)
    {names : List String}
    {value : Value}
    {start stop : Result}
    (holds : Holds start)
    (done : readFields names value read start = .ok stop) :
    Holds stop := by
  rw [readFields, bind_eq_ok_iff] at done
  rcases done with ⟨fields, _, done⟩
  rw [bind_eq_ok_iff] at done
  rcases done with ⟨result, folded, done⟩
  split_ifs at done
  cases done
  exact foldlM_keeps Holds keeps holds folded

/-! ## Slots -/

/-- The fields of the slots that are filled. -/
def present (slots : List (String × Option Value)) : Record :=
  slots.filterMap fun slot => slot.2.map (slot.1, ·)

theorem present_append (first second : List (String × Option Value)) :
    present (first ++ second) = present first ++ present second :=
  List.filterMap_append

theorem fieldOf?_eq_present (name : String) (write : Part → Value) (part? : Option Part) :
    Value.fieldOf? name write part? = present [(name, part?.map write)] := by
  cases part? <;> rfl

theorem exists_slot_of_mem_present
    {slots : List (String × Option Value)}
    {field : String × Value}
    (member : field ∈ present slots) :
    ∃ slot ∈ slots, slot.1 = field.1 ∧ slot.2 = some field.2 := by
  rcases List.mem_filterMap.1 member with ⟨slot, slotMember, filled⟩
  rcases Option.map_eq_some_iff.1 filled with ⟨value, holds, rfl⟩
  exact ⟨slot, slotMember, rfl, holds⟩

theorem known_present
    {slots : List (String × Option Value)}
    {names : List String}
    (known : ∀ slot ∈ slots, slot.1 ∈ names) :
    ∀ field ∈ present slots, field.1 ∈ names := by
  intro field member
  rcases exists_slot_of_mem_present member with ⟨slot, slotMember, named, _⟩
  exact named ▸ known slot slotMember

theorem keysIncrease_present
    {slots : List (String × Option Value)}
    (increase : slots.Pairwise fun slot later => slot.1 < later.1) :
    Value.KeysIncrease (present slots) := by
  refine List.Pairwise.filterMap _ ?_ increase
  intro slot later smaller field filled laterField laterFilled
  rcases Option.map_eq_some_iff.1 filled with ⟨_, _, rfl⟩
  rcases Option.map_eq_some_iff.1 laterFilled with ⟨_, _, rfl⟩
  exact smaller

/-- The field of a slot is there if the slot is filled. -/
theorem field?_present
    {slots : List (String × Option Value)}
    {name : String}
    {part? : Option Value}
    (increase : slots.Pairwise fun slot later => slot.1 < later.1)
    (member : (name, part?) ∈ slots) :
    field? (present slots) name = part? := by
  induction slots with
  | nil => cases member
  | cons slot rest hypothesis =>
      rcases List.pairwise_cons.1 increase with ⟨smaller, restIncrease⟩
      rcases List.mem_cons.1 member with rfl | behind
      · cases part? with
        | some value => simp [field?, present]
        | none =>
            have absent : (present rest).find? (fun field => field.1 == name) = none := by
              refine List.find?_eq_none.2 fun field fieldMember named => ?_
              rcases exists_slot_of_mem_present fieldMember with ⟨other, otherMember, same, _⟩
              have equal : other.1 = name := same.trans (eq_of_beq named)
              exact String.lt_irrefl _ (equal ▸ smaller other otherMember)
            exact congrArg (Option.map Prod.snd) absent
      · have different : (slot.1 == name) = false := by
          refine beq_false_of_ne fun equal => ?_
          exact String.lt_irrefl _ (equal ▸ smaller _ behind)
        rcases slot with ⟨other, _ | value⟩
        · exact hypothesis restIncrease behind
        · refine Eq.trans ?_ (hypothesis restIncrease behind)
          exact congrArg (Option.map Prod.snd) (List.find?_cons_of_neg (by simpa using different))

/-- One step of a reader of fields for a slot: an empty slot is passed over. -/
def readSlot (read : Result → String × Value → Reads Result) (start : Result)
    (slot : String × Option Value) : Reads Result :=
  slot.2.elim (.ok start) fun value => read start (slot.1, value)

theorem foldlM_present
    (read : Result → String × Value → Reads Result)
    (slots : List (String × Option Value))
    (start : Result) :
    (present slots).foldlM read start = slots.foldlM (readSlot read) start := by
  induction slots generalizing start with
  | nil => rfl
  | cons slot rest hypothesis =>
      rcases slot with ⟨name, _ | value⟩
      · rw [List.foldlM_cons]
        exact hypothesis start
      · rw [List.foldlM_cons]
        have split : present ((name, some value) :: rest) = (name, value) :: present rest := rfl
        rw [split, List.foldlM_cons]
        refine congrArg _ (funext fun next => ?_)
        exact hypothesis next

/-- A slot is read as it was written, up to what the reader keeps of a part. -/
theorem readSlot_written
    {Kept : Type}
    {read : Result → String × Value → Reads Result}
    {readPart : Value → Reads (Option Kept)}
    {write : Part → Value}
    {keep : Part → Option Kept}
    {name : String}
    {start : Result}
    {part? : Option Part}
    (put : Option Kept → Result)
    (reads : ∀ value, read start (name, value) = (readPart value).map put)
    (empty : put none = start)
    (back : ∀ part ∈ part?, readPart (write part) = .ok (keep part)) :
    readSlot read start (name, part?.map write) = .ok (put (part?.bind keep)) := by
  cases part? with
  | none => exact congrArg Except.ok empty.symm
  | some part =>
      rw [readSlot, Option.map_some, Option.elim_some, reads, back part rfl]
      rfl

/-- A slot is read as it was written. -/
theorem readSlot_kept
    {read : Result → String × Value → Reads Result}
    {readPart : Value → Reads (Option Part)}
    {write : Part → Value}
    {name : String}
    {start : Result}
    {part? : Option Part}
    (put : Option Part → Result)
    (reads : ∀ value, read start (name, value) = (readPart value).map put)
    (empty : put none = start)
    (back : ∀ part ∈ part?, readPart (write part) = .ok (some part)) :
    readSlot read start (name, part?.map write) = .ok (put part?) := by
  rw [readSlot_written put reads empty back, Option.bind_fun_some]

/-! ## Objects in the order of their keys -/

variable {names : List String} {fields : List (String × Value)}

theorem not_isRepeated
    (different : fields.Pairwise fun field other => field.1 ≠ other.1)
    (name : String) :
    isRepeated fields name = false := by
  have stillDifferent := different.filter fun field => field.1 == name
  have named : ∀ field ∈ fields.filter (fun field => field.1 == name), field.1 = name :=
    fun field member => eq_of_beq (List.mem_filter.1 member).2
  rw [isRepeated, decide_eq_false_iff_not]
  cases shape : fields.filter fun field => field.1 == name with
  | nil => simp
  | cons first rest =>
      rw [shape] at stillDifferent named
      have alone : rest = [] := by
        refine List.eq_nil_iff_forall_not_mem.2 fun second member => ?_
        have equal := (named first List.mem_cons_self).trans
          (named second (List.mem_cons_of_mem _ member)).symm
        exact (List.pairwise_cons.1 stillDifferent).1 second member equal
      simp [alone]

theorem fieldsOf_object
    (increase : Value.KeysIncrease fields)
    (known : ∀ field ∈ fields, field.1 ∈ names) :
    fieldsOf names (.object fields) = .ok fields := by
  have repeated : names.any (isRepeated fields) = false :=
    List.any_eq_false.2 fun name _ => by simp [not_isRepeated increase.ne]
  have all : (fields.filter fun field => names.contains field.1) = fields :=
    List.filter_eq_self.2 fun field member => List.contains_iff_mem.2 (known field member)
  rw [fieldsOf, repeated, all]
  rfl

theorem readFields_object
    (increase : Value.KeysIncrease fields)
    (known : ∀ field ∈ fields, field.1 ∈ names)
    (read : Result → String × Value → Reads Result)
    (start : Result) :
    readFields names (.object fields) read start = fields.foldlM read start := by
  rw [readFields, fieldsOf_object increase known, bind_ok]
  exact bind_pure _

/-- What is read from the slots of an object, one after the other. -/
theorem readFields_present
    {slots : List (String × Option Value)}
    (increase : slots.Pairwise fun slot later => slot.1 < later.1)
    (known : ∀ slot ∈ slots, slot.1 ∈ names)
    (read : Result → String × Value → Reads Result)
    (start : Result) :
    readFields names (.object (present slots)) read start =
      slots.foldlM (readSlot read) start := by
  rw [readFields_object (keysIncrease_present increase) (known_present known), foldlM_present]

theorem readRecord_object
    (increase : Value.KeysIncrease fields)
    (known : ∀ field ∈ fields, field.1 ∈ names) :
    readRecord names (.object fields) = .ok fields := by
  have gathered : ∀ (front rest : Record),
      rest.foldlM (fun record field => (pure (record ++ [field]) : Reads Record)) front =
        .ok (front ++ rest) := by
    intro front rest
    induction rest generalizing front with
    | nil => rw [List.append_nil]; rfl
    | cons field rest hypothesis =>
        rw [List.foldlM_cons]
        exact (hypothesis _).trans (by rw [List.append_assoc]; rfl)
  rw [readRecord, readFields_object increase known, gathered, List.nil_append]

theorem readRecord_present
    {slots : List (String × Option Value)}
    (increase : slots.Pairwise fun slot later => slot.1 < later.1)
    (known : ∀ slot ∈ slots, slot.1 ∈ names) :
    readRecord names (.object (present slots)) = .ok (present slots) :=
  readRecord_object (keysIncrease_present increase) (known_present known)

/-! ## Parts that must be there -/

theorem required_found
    {record : Record}
    {name : String}
    {value : Value}
    {read : Value → Reads Part}
    {part : Part}
    (found : field? record name = some value)
    (back : read value = .ok part) :
    required record name read = .ok part := by
  rw [required, found]
  exact back

/-- What holds of everything that is read holds of a part that must be there. -/
theorem required_keeps
    {Holds : Part → Prop}
    {read : Value → Reads Part}
    (readHolds : ∀ value part, read value = .ok part → Holds part)
    {record : Record}
    {name : String}
    {part : Part}
    (done : required record name read = .ok part) :
    Holds part := by
  rw [required] at done
  split at done
  · exact readHolds _ part done
  · cases done

/-! ## Numbers -/

/-- A number of 64 bits, which is written as it is. -/
def Fits (number : Nat) : Prop :=
  number < 0x10000000000000000

theorem readNat_ofNat {number : Nat} (fits : Fits number) :
    readNat (.ofNat number) = .ok number := by
  have inRange : -0x8000000000000000 ≤ (number : Int) ∧ (number : Int) < 0x10000000000000000 := by
    rw [Fits] at fits
    omega
  rw [Value.ofNat, Number.ofInt?, dif_pos inRange]
  simp [readNat, Number.toNat?]

theorem fits_of_readNat {value : Value} {number : Nat} (read : readNat value = .ok number) :
    Fits number := by
  cases value with
  | number amount =>
      cases amount with
      | integer value inRange =>
          rw [readNat, Number.toNat?] at read
          split_ifs at read with natural
          cases read
          rw [Fits]
          omega
      | float value => cases read
  | _ => cases read

/-! ## Parts that may be null -/

theorem optional_eq (record : Record) (name : String) (read : Value → Reads Part) :
    Wire.optional record name read =
      (field? record name).elim (.ok none) (readNullable read) := by
  rw [Wire.optional]
  cases field? record name with
  | none => rfl
  | some value => cases value <;> rfl

/-- A part is there if it is not written as null. -/
theorem readNullable_written
    {read : Value → Reads Part}
    {value : Value}
    {part : Part}
    (back : read value = .ok part)
    (notNull : read .null ≠ .ok part) :
    readNullable read value = .ok (some part) := by
  have written : value ≠ .null := fun isNull => notNull (isNull ▸ back)
  have whole : readNullable read value = (read value).map some := by
    cases value <;> first | rfl | exact absurd rfl written
  rw [whole, back]
  rfl

theorem readNullable_ofNat {number : Nat} (fits : Fits number) :
    readNullable readNat (.ofNat number) = .ok (some number) :=
  readNullable_written (readNat_ofNat fits) nofun

theorem readNullable_ofNat? {number? : Option Nat} (fits : ∀ number ∈ number?, Fits number) :
    readNullable readNat (.ofNat? number?) = .ok number? := by
  cases number? with
  | none => rfl
  | some number =>
      rw [Value.ofNat?, Option.map_some, Option.getD_some]
      exact readNullable_ofNat (fits number rfl)

/-- Only null is read as a part that is not there. -/
theorem readNullable_eq_none_iff {read : Value → Reads Part} {value : Value} :
    readNullable read value = .ok none ↔ value = .null := by
  cases value with
  | null => exact iff_of_true rfl rfl
  | _ =>
      rw [readNullable]
      · simp [map_eq_ok_iff]
      · nofun

/-- What holds of everything read holds of a part that is there. -/
theorem readNullable_keeps
    {Holds : Part → Prop}
    {read : Value → Reads Part}
    (readHolds : ∀ value part, read value = .ok part → Holds part)
    {value : Value}
    {part? : Option Part}
    (done : readNullable read value = .ok part?) :
    ∀ part ∈ part?, Holds part := by
  intro part isThere
  cases value with
  | null =>
      cases done
      cases isThere
  | _ =>
      rw [readNullable] at done
      · rcases map_eq_ok_iff.1 done with ⟨other, otherRead, rfl⟩
        cases isThere
        exact readHolds _ _ otherRead
      · nofun

theorem optional_keeps
    {Holds : Part → Prop}
    {read : Value → Reads Part}
    (readHolds : ∀ value part, read value = .ok part → Holds part)
    {record : Record}
    {name : String}
    {part? : Option Part}
    (done : Wire.optional record name read = .ok part?) :
    ∀ part ∈ part?, Holds part := by
  rw [optional_eq] at done
  cases found : field? record name with
  | none =>
      rw [found] at done
      cases done
      exact nofun
  | some value =>
      rw [found] at done
      exact readNullable_keeps readHolds done

theorem withDefault_keeps
    {Holds : Part → Prop}
    {read : Value → Reads Part}
    (readHolds : ∀ value part, read value = .ok part → Holds part)
    {record : Record}
    {name : String}
    {default part : Part}
    (defaultHolds : Holds default)
    (done : withDefault record name read default = .ok part) :
    Holds part := by
  rw [withDefault] at done
  cases found : field? record name with
  | none =>
      rw [found] at done
      cases done
      exact defaultHolds
  | some value =>
      rw [found] at done
      exact readHolds value part done

end ParserGraph.Wire

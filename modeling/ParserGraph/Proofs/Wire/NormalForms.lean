import ParserGraph.Proofs.Wire.Outcomes

/-!
# Normal forms of edits, props and outcomes

Whatever value an edit, props or an outcome are read from, the value that they are written
as is read as the same, and it is written again as it was.  A greatest number that is null
stays apart from one that is missing: the value that is written says of it what the value
says that was read.
-/

namespace ParserGraph

namespace Wire

/-- What a value says under one of the names of a record, if anything. -/
def said? (names : List String) (name : String) (value : Value) : Option Value :=
  (fieldsOf names value).toOption.bind (field? · name)

variable {names : List String} {name : String} {value : Value} {record : Record}

theorem said?_eq (found : fieldsOf names value = .ok record) :
    said? names name value = field? record name := by
  rw [said?, found]
  rfl

theorem fieldsOf_of_readFields
    {Result : Type}
    {read : Result → String × Value → Reads Result}
    {start stop : Result}
    (done : readFields names value read start = .ok stop) :
    ∃ record, fieldsOf names value = .ok record ∧ record.foldlM read start = .ok stop := by
  rw [readFields, bind_eq_ok_iff] at done
  rcases done with ⟨record, found, done⟩
  rcases bind_eq_ok_iff.1 done with ⟨result, folded, done⟩
  split_ifs at done
  cases done
  exact ⟨record, found, folded⟩

theorem zip_different
    (distinct : names.Nodup)
    (items : List Value) :
    (names.zip items).Pairwise fun field other => field.1 ≠ other.1 := by
  induction names generalizing items with
  | nil => exact List.Pairwise.nil
  | cons first rest hypothesis =>
      rcases List.nodup_cons.1 distinct with ⟨firstOnce, restDistinct⟩
      cases items with
      | nil => exact List.Pairwise.nil
      | cons item items =>
          refine List.pairwise_cons.2 ⟨?_, hypothesis restDistinct items⟩
          rintro ⟨other, value⟩ member rfl
          exact firstOnce (List.of_mem_zip member).1

theorem not_isRepeated_of_sublist
    {fields : Record}
    (fewer : record.Sublist fields)
    (once : isRepeated fields name = false) :
    isRepeated record name = false := by
  rw [isRepeated, decide_eq_false_iff_not] at once ⊢
  exact fun repeated => once (Nat.lt_of_lt_of_le repeated (fewer.filter _).length_le)

theorem field?_eq_none_of_once (once : isRepeated ((name, value) :: record) name = false) :
    field? record name = none := by
  rw [isRepeated, decide_eq_false_iff_not] at once
  simp only [List.filter_cons, beq_self_eq_true, if_true, List.length_cons] at once
  have noOther : record.filter (fun field => field.1 == name) = [] :=
    List.length_eq_zero_iff.1 (by omega)
  have absent : record.find? (fun field => field.1 == name) = none :=
    List.find?_eq_none.2 (List.filter_eq_nil_iff.1 noOther)
  rw [field?, absent]
  rfl

/-- No name of a record occurs twice in it. -/
theorem not_isRepeated_fieldsOf
    (distinct : names.Nodup)
    (named : name ∈ names)
    (found : fieldsOf names value = .ok record) :
    isRepeated record name = false := by
  cases value with
  | object fields =>
      rw [fieldsOf] at found
      split_ifs at found with repeated
      cases found
      have notRepeated : isRepeated fields name = false := by
        simpa using fun isRepeated => repeated (List.any_eq_true.2 ⟨name, named, isRepeated⟩)
      exact not_isRepeated_of_sublist List.filter_sublist notRepeated
  | array items =>
      cases found
      exact not_isRepeated (zip_different distinct items) name
  | _ => cases found

end Wire

open Wire

namespace Props

variable {props : Props} {identity : Nat}

/-- The identity of a transform is not written. -/
theorem toValue_withIdentity (props : Props) :
    (props.withIdentity identity).toValue = props.toValue := by
  have written : (props.withIdentity identity).slots = props.slots := by
    simp [slots, withIdentity, Function.comp_def]
  rw [toValue_eq_object, toValue_eq_object, written]

theorem max_readField_of_ne
    {field : String × Value}
    {next : Props}
    (other : field.1 ≠ "max")
    (read : readField identity props field = .ok next) :
    next.max = props.max := by
  unfold readField at read
  split at read
  case h_9 => exact absurd rfl other
  case h_10 => cases read; rfl
  all_goals
    rcases bind_eq_ok_iff.1 read with ⟨_, _, done⟩
    cases done
    rfl

/-- A greatest number is said exactly by the field of its name. -/
theorem max_foldlM
    {record : Record}
    {start : Props}
    (once : isRepeated record "max" = false)
    (read : record.foldlM (readField identity) start = .ok props) :
    (field? record "max" = none → props.max = start.max) ∧
      ∀ value, field? record "max" = some value →
        ∃ most?, readNullable readNat value = .ok most? ∧ props.max = some most? := by
  induction record generalizing start with
  | nil =>
      cases read
      exact ⟨fun _ => rfl, nofun⟩
  | cons field rest hypothesis =>
      rcases field with ⟨name, value⟩
      rw [List.foldlM_cons, bind_eq_ok_iff] at read
      rcases read with ⟨next, fieldRead, restRead⟩
      have restOnce := not_isRepeated_of_sublist (List.sublist_cons_self _ _) once
      have restSaid := hypothesis restOnce restRead
      by_cases isMax : name = "max"
      · subst isMax
        rcases bind_eq_ok_iff.1 fieldRead with ⟨most?, mostRead, done⟩
        cases done
        refine ⟨nofun, fun other isThere => ⟨most?, ?_, ?_⟩⟩
        · cases isThere
          exact mostRead
        · exact restSaid.1 (field?_eq_none_of_once once)
      · have behind : field? ((name, value) :: rest) "max" = field? rest "max" :=
          congrArg (Option.map Prod.snd) (List.find?_cons_of_neg (by simpa using isMax))
        rw [behind, ← max_readField_of_ne isMax fieldRead]
        exact restSaid

theorem max_ofValue
    {value : Value}
    (read : ofValue identity value = .ok props) :
    (props.max = none ↔ said? names "max" value = none) ∧
      (props.max = some none ↔ said? names "max" value = some .null) := by
  rcases fieldsOf_of_readFields read with ⟨record, found, folded⟩
  have once : isRepeated record "max" = false :=
    not_isRepeated_fieldsOf (by decide) (by decide) found
  rcases max_foldlM once folded with ⟨unsaid, said⟩
  rw [said?_eq found]
  cases isThere : field? record "max" with
  | none => simp [unsaid isThere]
  | some value =>
      rcases said value isThere with ⟨most?, mostRead, most⟩
      have noMost : most? = none ↔ value = .null := by
        rw [← readNullable_eq_none_iff, mostRead]
        exact (Except.ok.injEq _ _).symm.to_iff
      rw [most, Option.some_inj, Option.some_inj]
      exact ⟨by simp, noMost⟩

end Props

theorem Edit.toValue_withIdentity (edit : Edit) (identity : Nat) :
    (edit.mapProps (Props.withIdentity identity)).toValue = edit.toValue := by
  cases edit with
  | create tag props =>
      rw [Edit.mapProps, toValue, toValue, fields, fields, props.toValue_withIdentity]
      rfl
  | update node delta =>
      rw [Edit.mapProps, toValue, toValue, fields, fields, delta.toValue_withIdentity]
      rfl
  | _ => rfl

/--
What is written of an edit, of props or of an outcome that was read is read as the same, up
to the identity of a transform, and then written as it was.  Values are read and written
here; which of them come back from their text, `Value.read?_compact_eq_some_iff` tells.
-/
theorem normalizes_in_one_pass (first second : Nat) :
    (∀ value edit, Edit.ofValue first value = .ok edit →
      Edit.ofValue second edit.toValue = .ok (edit.mapProps (Props.withIdentity second)) ∧
        (edit.mapProps (Props.withIdentity second)).toValue = edit.toValue) ∧
    (∀ value props, Props.ofValue first value = .ok props →
      Props.ofValue second props.toValue = .ok (props.withIdentity second) ∧
        (props.withIdentity second).toValue = props.toValue ∧
        (said? Props.names "max" props.toValue = none ↔ said? Props.names "max" value = none) ∧
        (said? Props.names "max" props.toValue = some .null ↔
          said? Props.names "max" value = some .null)) ∧
    (∀ value outcome, Outcome.ofValue value = .ok outcome →
      Outcome.ofValue outcome.toValue = .ok outcome) := by
  refine ⟨?_, ?_, ?_⟩
  · intro value edit read
    have asRead := Edit.asRead_ofValue read
    have back : Edit.ofValue second edit.toValue = _ := Edit.ofValue_toValue asRead.recordable
    rw [asRead.withoutNull_eq] at back
    exact ⟨back, edit.toValue_withIdentity second⟩
  · intro value props read
    have asRead := Props.asRead_ofValue read
    have back : Props.ofValue second props.toValue = _ :=
      Props.ofValue_toValue asRead.toRecordable
    rw [asRead.withoutNull_eq] at back
    rcases Props.max_ofValue read with ⟨unsaid, saidNone⟩
    rcases Props.max_ofValue back with ⟨unsaidBack, saidNoneBack⟩
    exact
      ⟨back, props.toValue_withIdentity, unsaidBack.symm.trans unsaid,
        saidNoneBack.symm.trans saidNone⟩
  · intro value outcome read
    exact Outcome.ofValue_toValue (Outcome.recordable_ofValue read)

/--
A null prop goes except for a greatest number, which stays null; fields that are unknown or
missing, props in an array and labels that are repeated are written in one way.
-/
theorem null_maximum_written_again :
    let created : Edit :=
      .create "sepBy" { transform := some { conversion := .trim, identity := 0 }, max := some none }
    let said : Props :=
      { text := some "a"
        value := some (Value.object [("a", .bool true), ("b", .bool false)]).normal }
    let failed : Outcome :=
      .failure
        { expected := .ofList ["a", "b"]
          position := { offset := 0, line := 1, column := 1 } }
    (Edit.ofValue 3 created.toValue = .ok (created.mapProps (Props.withIdentity 3)) ∧
        (created.mapProps (Props.withIdentity 3)).toValue = created.toValue) ∧
      (Props.ofValue 3 said.toValue = .ok (said.withIdentity 3) ∧
        said? Props.names "max" said.toValue = none) ∧
      Outcome.ofValue failed.toValue = .ok failed := by
  intro created said failed
  have createdRead : Edit.ofValue 0
      (.object
        [("extra", .null),
          ("props", .object [("max", .null), ("value", .null), ("transform", .text "trim")]),
          ("op", .text "create"), ("tag", .text "sepBy")]) = .ok created := rfl
  have saidRead : Props.ofValue 0
      (.array
        [.text "a", .null, .null,
          .object [("b", .null), ("a", .bool true), ("b", .bool false)]]) = .ok said := rfl
  have failedRead : Outcome.ofValue
      (.object
        [("position", .array [.ofNat 0, .ofNat 1, .ofNat 1]), ("type", .text "failure"),
          ("expected", .array [.text "b", .text "a", .text "b"])]) = .ok failed := rfl
  rcases normalizes_in_one_pass 0 3 with ⟨edits, props, outcomes⟩
  rcases props _ said saidRead with ⟨back, _, unsaid, _⟩
  exact ⟨edits _ created createdRead, ⟨back, unsaid.2 rfl⟩, outcomes _ failed failedRead⟩

end ParserGraph

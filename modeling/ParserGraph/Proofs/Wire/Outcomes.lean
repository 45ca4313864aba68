import ParserGraph.Proofs.Parser.Events
import ParserGraph.Proofs.Wire.Edits
import ParserGraph.Wire.Outcome

/-!
# Outcomes written and read

An outcome is read back as it was written, if its numbers have 64 bits and its value is
normal, and any outcome that is read is like that.  Labels are written in increasing order
without repetition, so that they give back the same set.
-/

namespace ParserGraph

open Wire

/-- The labels of a set make up that set. -/
theorem Expectations.ofList_labels (expectations : Expectations) :
    ofList expectations.labels = expectations :=
  ext_of_mem fun _ => mem_ofList

theorem Wire.readList_texts (labels : List String) :
    readList readText (.array (labels.map .text)) = .ok labels := by
  rw [readList]
  induction labels with
  | nil => rfl
  | cons label rest hypothesis =>
      rw [List.map_cons, List.mapM_cons]
      exact bind_eq_ok rfl (bind_eq_ok hypothesis rfl)

namespace Position

/-- A position that is written as it is. -/
structure Fits (position : Position) : Prop where
  offset : Wire.Fits position.offset
  line : Wire.Fits position.line
  column : Wire.Fits position.column

variable {position : Position}

theorem toValue_eq_object (position : Position) :
    position.toValue =
      .object
        [("column", .ofNat position.column), ("line", .ofNat position.line),
          ("offset", .ofNat position.offset)] := by
  simp only [toValue, Value.ofFields, Value.insertField, List.foldl_cons, List.foldl_nil,
    String.reduceLT, ↓reduceIte]

theorem ofValue_toValue (fits : position.Fits) : ofValue position.toValue = .ok position := by
  have offsetBack := readNat_ofNat fits.offset
  have lineBack := readNat_ofNat fits.line
  have columnBack := readNat_ofNat fits.column
  rw [toValue_eq_object, ofValue]
  generalize Value.ofNat position.offset = offset at offsetBack ⊢
  generalize Value.ofNat position.line = line at lineBack ⊢
  generalize Value.ofNat position.column = column at columnBack ⊢
  have increase : ["column", "line", "offset"].Pairwise (· < ·) := by decide
  refine bind_eq_ok (readRecord_object (List.pairwise_map.1 increase) (by simp)) ?_
  refine bind_eq_ok (required_found rfl columnBack) ?_
  exact bind_eq_ok (required_found rfl lineBack) (bind_eq_ok (required_found rfl offsetBack) rfl)

theorem fits_of_ofValue {value : Value} (read : ofValue value = .ok position) : position.Fits := by
  rw [ofValue, bind_eq_ok_iff] at read
  rcases read with ⟨record, _, read⟩
  rcases bind_eq_ok_iff.1 read with ⟨column, columnRead, read⟩
  rcases bind_eq_ok_iff.1 read with ⟨line, lineRead, read⟩
  rcases bind_eq_ok_iff.1 read with ⟨offset, offsetRead, done⟩
  cases done
  exact
    { offset := required_keeps (fun _ _ => fits_of_readNat) offsetRead
      line := required_keeps (fun _ _ => fits_of_readNat) lineRead
      column := required_keeps (fun _ _ => fits_of_readNat) columnRead }

end Position

namespace Outcome

/-- An outcome that is written as it is. -/
def Recordable : Outcome → Prop
  | .success value stop => value.IsNormal ∧ Fits stop
  | .failure reason => reason.position.Fits

variable {outcome : Outcome}

theorem ofValue_toValue (recordable : outcome.Recordable) :
    ofValue outcome.toValue = .ok outcome := by
  cases outcome with
  | success value stop =>
      have written : toValue (.success value stop) =
          .object ([("end", .ofNat stop)] ++ ("type", .text "success") :: [("value", value)]) := by
        simp only [toValue, Value.ofFields, Value.insertField, List.foldl_cons, List.foldl_nil,
          List.cons_append, List.nil_append, String.reduceLT, String.reduceEq, ↓reduceIte]
      have stopBack := readNat_ofNat recordable.2
      have valueBack : (Except.ok value.normalize : Reads Value) = .ok value :=
        congrArg Except.ok recordable.1
      rw [written, ofValue]
      generalize Value.ofNat stop = stopWritten at stopBack ⊢
      refine bind_eq_ok (readTagged_object _ _ (by simp)) ?_
      have increase : ["end", "value"].Pairwise (· < ·) := by decide
      refine bind_eq_ok (readRecord_object (List.pairwise_map.1 increase) (by simp)) ?_
      exact bind_eq_ok (required_found rfl stopBack) (bind_eq_ok (required_found rfl valueBack) rfl)
  | failure reason =>
      have written : toValue (.failure reason) =
          .object
            ([("expected", reason.expected.toValue), ("position", reason.position.toValue)] ++
              ("type", .text "failure") :: []) := by
        simp only [toValue, Value.ofFields, Value.insertField, List.foldl_cons, List.foldl_nil,
          List.cons_append, List.nil_append, String.reduceLT, String.reduceEq, ↓reduceIte]
      have positionBack := Position.ofValue_toValue recordable
      rw [written, ofValue]
      generalize reason.position.toValue = positionWritten at positionBack ⊢
      refine bind_eq_ok (readTagged_object _ _ (by simp)) ?_
      have increase : ["expected", "position"].Pairwise (· < ·) := by decide
      refine bind_eq_ok (readRecord_object (List.pairwise_map.1 increase) (by simp)) ?_
      refine bind_eq_ok (readList_texts reason.expected.labels) (bind_eq_ok positionBack ?_)
      rw [Expectations.ofList_labels]
      rfl

/-- An outcome that is read is written as it is. -/
theorem recordable_ofValue {value : Value} (read : ofValue value = .ok outcome) :
    outcome.Recordable := by
  rw [ofValue, bind_eq_ok_iff] at read
  rcases read with ⟨⟨name, parts⟩, _, read⟩
  dsimp only at read
  split at read
  · rcases bind_eq_ok_iff.1 read with ⟨record, _, read⟩
    rcases bind_eq_ok_iff.1 read with ⟨stop, stopRead, read⟩
    rcases bind_eq_ok_iff.1 read with ⟨value, valueRead, done⟩
    cases done
    have normal : ∀ value part : Value, Except.ok value.normalize = (.ok part : Reads Value) →
        part.IsNormal := by
      intro value part read
      cases read
      exact Value.isNormal_normalize value
    exact ⟨required_keeps normal valueRead, required_keeps (fun _ _ => fits_of_readNat) stopRead⟩
  · rcases bind_eq_ok_iff.1 read with ⟨record, _, read⟩
    rcases bind_eq_ok_iff.1 read with ⟨labels, _, read⟩
    rcases bind_eq_ok_iff.1 read with ⟨position, positionRead, done⟩
    cases done
    exact required_keeps (fun _ _ => Position.fits_of_ofValue) positionRead
  · cases read

end Outcome

end ParserGraph

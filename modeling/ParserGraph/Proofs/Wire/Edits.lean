import ParserGraph.Proofs.Wire.Props
import ParserGraph.Wire.Edit

/-!
# Edits written and read

An edit is read back as it was written, up to the identity of its transform and a null
value in its props, which is not said.
-/

namespace ParserGraph

namespace Wire

/-- A tagged record in which the tag stands somewhere among the other fields. -/
theorem readTagged_object
    {tagName tag : String}
    (front back : List (String × Value))
    (others : ∀ field ∈ front ++ back, field.1 ≠ tagName) :
    readTagged tagName (.object (front ++ (tagName, .text tag) :: back)) =
      .ok (tag, .object (front ++ back)) := by
  have untagged : ∀ fields : List (String × Value), (∀ field ∈ fields, field.1 ≠ tagName) →
      fields.filter (fun field => field.1 == tagName) = [] ∧
        fields.filter (fun field => field.1 != tagName) = fields := by
    intro fields others
    exact ⟨List.filter_eq_nil_iff.2 (by simpa using others),
      List.filter_eq_self.2 (by simpa using others)⟩
  rcases untagged front fun field member => others field (List.mem_append_left _ member)
    with ⟨frontNone, frontAll⟩
  rcases untagged back fun field member => others field (List.mem_append_right _ member)
    with ⟨backNone, backAll⟩
  have tagOnly : (front ++ (tagName, Value.text tag) :: back).filter
      (fun field => field.1 == tagName) = [(tagName, .text tag)] := by
    rw [List.filter_append, List.filter_cons, frontNone, backNone, beq_self_eq_true]
    rfl
  have allOthers : (front ++ (tagName, Value.text tag) :: back).filter
      (fun field => field.1 != tagName) = front ++ back := by
    rw [List.filter_append, List.filter_cons, frontAll, backAll, bne_self_eq_false]
    rfl
  rw [readTagged, tagOnly, allOthers]

end Wire

open Wire

namespace NodeId

variable {node : NodeId}

theorem ofValue_toValue (fits : Fits node.number) : ofValue node.toValue = .ok node := by
  rw [ofValue, toValue, readNat_ofNat fits]
  rfl

theorem fits_of_ofValue {value : Value} (read : ofValue value = .ok node) : Fits node.number := by
  rcases map_eq_ok_iff.1 read with ⟨number, numberRead, rfl⟩
  exact fits_of_readNat numberRead

theorem fits_of_required
    {record : Record}
    {name : String}
    (read : required record name ofValue = .ok node) :
    Fits node.number :=
  required_keeps (fun _ _ => fits_of_ofValue) read

end NodeId

namespace Edit

/-- The nodes that an edit names. -/
def nodes : Edit → List NodeId
  | .create _ _ | .clearRoot => []
  | .update node _ | .destroy node | .setRoot node => [node]
  | .appendChild parent child | .removeChild parent child => [parent, child]
  | .insertBefore parent child before => [parent, child, before]

def props? : Edit → Option Props
  | .create _ props => some props
  | .update _ delta => some delta
  | _ => none

/-- An edit that is written as it is. -/
structure Recordable (edit : Edit) : Prop where
  nodes : ∀ node ∈ edit.nodes, Fits node.number
  props : ∀ props ∈ edit.props?, props.Recordable

variable {edit : Edit} {identity : Nat}

/-- The parts of an edit whose names stand before that of the command, in order. -/
def partsBefore : Edit → List (String × Value)
  | .create _ _ | .clearRoot => []
  | .update node delta => [("delta", delta.toValue), ("node", node.toValue)]
  | .appendChild _ child | .removeChild _ child => [("child", child.toValue)]
  | .insertBefore _ child before => [("before", before.toValue), ("child", child.toValue)]
  | .destroy node | .setRoot node => [("node", node.toValue)]

/-- The parts of an edit whose names stand behind that of the command, in order. -/
def partsBehind : Edit → List (String × Value)
  | .create tag props => [("props", props.toValue), ("tag", .text tag)]
  | .appendChild parent _ | .removeChild parent _ | .insertBefore parent _ _ =>
      [("parent", parent.toValue)]
  | .update _ _ | .destroy _ | .setRoot _ | .clearRoot => []

theorem toValue_eq_object (edit : Edit) :
    edit.toValue =
      .object (edit.partsBefore ++ ("op", .text edit.name) :: edit.partsBehind) := by
  cases edit <;>
    simp only [toValue, fields, partsBefore, partsBehind, Value.ofFields, Value.insertField,
      List.foldl_cons, List.foldl_nil, List.cons_append, List.nil_append, String.reduceLT,
      String.reduceEq, ↓reduceIte]

theorem readTagged_toValue (edit : Edit) :
    readTagged "op" edit.toValue =
      .ok (edit.name, .object (edit.partsBefore ++ edit.partsBehind)) := by
  rw [toValue_eq_object]
  exact readTagged_object _ _ (by cases edit <;> simp [partsBefore, partsBehind])

theorem readNode_object
    {node : NodeId}
    {written : Value}
    (back : NodeId.ofValue written = .ok node) :
    readNode (.object [("node", written)]) = .ok node := by
  rw [readNode, readRecord_object (List.pairwise_singleton _ _) (by simp), bind_ok]
  exact back

theorem readLink_object
    {parent child : NodeId}
    {parentWritten childWritten : Value}
    (parentBack : NodeId.ofValue parentWritten = .ok parent)
    (childBack : NodeId.ofValue childWritten = .ok child) :
    readLink (.object [("child", childWritten), ("parent", parentWritten)]) =
      .ok (parent, child) := by
  have increase : ["child", "parent"].Pairwise (· < ·) := by decide
  rw [readLink]
  refine bind_eq_ok (readRecord_object (List.pairwise_map.1 increase) (by simp)) ?_
  exact bind_eq_ok parentBack (bind_eq_ok childBack rfl)

theorem readWithProps_object
    {Subject : Type}
    {subjectName propsName : String}
    {readSubject : Value → Reads Subject}
    {subject : Subject}
    {written : Value}
    {props : Props}
    (increase : propsName < subjectName)
    (subjectBack : readSubject written = .ok subject)
    (recordable : props.Recordable) :
    readWithProps identity subjectName propsName readSubject
        (.object [(propsName, props.toValue), (subjectName, written)]) =
      .ok (subject, props.withoutNull.withIdentity identity) := by
  have different : (propsName == subjectName) = false :=
    beq_false_of_ne fun equal => String.lt_irrefl _ (equal ▸ increase)
  have propsBack : Props.ofValue identity props.toValue = _ := Props.ofValue_toValue recordable
  rw [readWithProps, readFields_object (by simpa [Value.KeysIncrease] using increase) (by simp)]
  simp only [List.foldlM_cons, List.foldlM_nil, different, beq_self_eq_true, Bool.false_eq_true,
    if_false, if_true, propsBack, subjectBack]
  rfl

/-- An edit is read back as it was written, but for a null and the identity of a transform. -/
theorem ofValue_toValue (recordable : edit.Recordable) :
    ofValue identity edit.toValue =
      .ok ((edit.mapProps Props.withoutNull).mapProps (Props.withIdentity identity)) := by
  have nodeBack : ∀ node ∈ edit.nodes, NodeId.ofValue node.toValue = .ok node :=
    fun node named => NodeId.ofValue_toValue (recordable.nodes node named)
  rw [ofValue, readTagged_toValue, bind_ok]
  cases edit with
  | create tag props =>
      exact bind_eq_ok (readWithProps_object (by decide) rfl (recordable.props props rfl)) rfl
  | update node delta =>
      exact bind_eq_ok
        (readWithProps_object (by decide) (nodeBack node (by simp [nodes]))
          (recordable.props delta rfl))
        rfl
  | appendChild parent child | removeChild parent child =>
      exact bind_eq_ok
        (readLink_object (nodeBack parent (by simp [nodes])) (nodeBack child (by simp [nodes])))
        rfl
  | insertBefore parent child before =>
      have parentBack := nodeBack parent (by simp [nodes])
      have childBack := nodeBack child (by simp [nodes])
      have beforeBack := nodeBack before (by simp [nodes])
      simp only [name, partsBefore, partsBehind, List.cons_append, List.nil_append]
      generalize parent.toValue = parentWritten at parentBack ⊢
      generalize child.toValue = childWritten at childBack ⊢
      generalize before.toValue = beforeWritten at beforeBack ⊢
      have increase : ["before", "child", "parent"].Pairwise (· < ·) := by decide
      refine bind_eq_ok (readRecord_object (List.pairwise_map.1 increase) (by simp)) ?_
      exact bind_eq_ok parentBack (bind_eq_ok childBack (bind_eq_ok beforeBack rfl))
  | destroy node | setRoot node =>
      exact bind_eq_ok (readNode_object (nodeBack node (by simp [nodes]))) rfl
  | clearRoot => rfl

/-- An edit as it is read: it can be written as it is, and its props say no null. -/
structure AsRead (edit : Edit) : Prop where
  nodes : ∀ node ∈ edit.nodes, Fits node.number
  props : ∀ props ∈ edit.props?, props.AsRead

theorem AsRead.recordable (asRead : edit.AsRead) : edit.Recordable where
  nodes := asRead.nodes
  props := fun props said => (asRead.props props said).toRecordable

theorem AsRead.withoutNull_eq (asRead : edit.AsRead) : edit.mapProps Props.withoutNull = edit := by
  cases edit with
  | create tag props => exact congrArg (create tag) (asRead.props props rfl).withoutNull_eq
  | update node delta => exact congrArg (update node) (asRead.props delta rfl).withoutNull_eq
  | _ => rfl

theorem asRead_readWithProps
    {Subject : Type}
    (Holds : Subject → Prop)
    {subjectName propsName : String}
    {readSubject : Value → Reads Subject}
    {value : Value}
    {subject : Subject}
    {props : Props}
    (readHolds : ∀ value subject, readSubject value = .ok subject → Holds subject)
    (read : readWithProps identity subjectName propsName readSubject value = .ok (subject, props)) :
    Holds subject ∧ props.AsRead := by
  rw [readWithProps, bind_eq_ok_iff] at read
  rcases read with ⟨⟨subject?, readProps⟩, fieldsRead, read⟩
  have kept : (∀ subject ∈ subject?, Holds subject) ∧ readProps.AsRead := by
    refine readFields_keeps
      (fun found : Option Subject × Props =>
        (∀ subject ∈ found.1, Holds subject) ∧ found.2.AsRead)
      ?_ ⟨by simp, Props.asRead_empty⟩ fieldsRead
    rintro ⟨found?, foundProps⟩ ⟨name, part⟩ next ⟨foundHolds, foundAsRead⟩ step
    dsimp only at step
    split_ifs at step with isSubject
    · rcases bind_eq_ok_iff.1 step with ⟨newSubject, subjectRead, done⟩
      cases done
      exact ⟨fun other isThere => Option.some.inj isThere ▸ readHolds part _ subjectRead,
        foundAsRead⟩
    · rcases bind_eq_ok_iff.1 step with ⟨newProps, propsRead, done⟩
      cases done
      exact ⟨foundHolds, Props.asRead_ofValue propsRead⟩
  cases subject? with
  | none => cases read
  | some found =>
      cases read
      exact ⟨kept.1 subject rfl, kept.2⟩

theorem fits_of_readNode {value : Value} {node : NodeId} (read : readNode value = .ok node) :
    Fits node.number := by
  rw [readNode, bind_eq_ok_iff] at read
  rcases read with ⟨record, _, nodeRead⟩
  exact NodeId.fits_of_required nodeRead

theorem fits_of_readLink
    {value : Value}
    {parent child : NodeId}
    (read : readLink value = .ok (parent, child)) :
    Fits parent.number ∧ Fits child.number := by
  rw [readLink, bind_eq_ok_iff] at read
  rcases read with ⟨record, _, read⟩
  rcases bind_eq_ok_iff.1 read with ⟨foundParent, parentRead, read⟩
  rcases bind_eq_ok_iff.1 read with ⟨foundChild, childRead, done⟩
  cases done
  exact ⟨NodeId.fits_of_required parentRead, NodeId.fits_of_required childRead⟩

theorem asRead_ofValue
    {value : Value}
    (read : ofValue identity value = .ok edit) :
    edit.AsRead := by
  rw [ofValue, bind_eq_ok_iff] at read
  rcases read with ⟨⟨name, parts⟩, _, read⟩
  dsimp only at read
  split at read
  · rcases bind_eq_ok_iff.1 read with ⟨⟨tag, props⟩, partsRead, done⟩
    cases done
    have kept := asRead_readWithProps (fun _ => True) (fun _ _ _ => trivial) partsRead
    exact { nodes := by simp [nodes], props := by simpa [props?] using kept }
  · rcases bind_eq_ok_iff.1 read with ⟨⟨node, delta⟩, partsRead, done⟩
    cases done
    have kept := asRead_readWithProps (Fits ·.number) (fun _ _ => NodeId.fits_of_ofValue) partsRead
    exact { nodes := by simpa [nodes] using kept.1, props := by simpa [props?] using kept.2 }
  · rcases bind_eq_ok_iff.1 read with ⟨⟨parent, child⟩, partsRead, done⟩
    cases done
    have fits := fits_of_readLink partsRead
    exact { nodes := by simpa [nodes] using fits, props := by simp [props?] }
  · rcases bind_eq_ok_iff.1 read with ⟨record, _, read⟩
    rcases bind_eq_ok_iff.1 read with ⟨parent, parentRead, read⟩
    rcases bind_eq_ok_iff.1 read with ⟨child, childRead, read⟩
    rcases bind_eq_ok_iff.1 read with ⟨before, beforeRead, done⟩
    cases done
    have parentFits := NodeId.fits_of_required parentRead
    have childFits := NodeId.fits_of_required childRead
    have beforeFits := NodeId.fits_of_required beforeRead
    exact
      { nodes := by simpa [nodes] using ⟨parentFits, childFits, beforeFits⟩
        props := by simp [props?] }
  · rcases bind_eq_ok_iff.1 read with ⟨⟨parent, child⟩, partsRead, done⟩
    cases done
    have fits := fits_of_readLink partsRead
    exact { nodes := by simpa [nodes] using fits, props := by simp [props?] }
  · rcases bind_eq_ok_iff.1 read with ⟨node, nodeRead, done⟩
    cases done
    exact { nodes := by simpa [nodes] using fits_of_readNode nodeRead, props := by simp [props?] }
  · rcases bind_eq_ok_iff.1 read with ⟨node, nodeRead, done⟩
    cases done
    exact { nodes := by simpa [nodes] using fits_of_readNode nodeRead, props := by simp [props?] }
  · rcases bind_eq_ok_iff.1 read with ⟨_, _, done⟩
    cases done
    exact { nodes := by simp [nodes], props := by simp [props?] }
  · cases read

end Edit

end ParserGraph

import ParserGraph.Proofs.Blueprint.Forest

/-!
# Rules of blueprints

What each rule lets through, in terms of the nodes that an edit names.
-/

namespace ParserGraph

section Except

variable {Result Next : Type}

/-- After a step that is passed the next one decides. -/
@[simp]
theorem Except.bind_ok (result : Result) (next : Result → Except EditError Next) :
    (Except.ok result >>= next) = next result := rfl

/-- After a step that fails there is nothing more. -/
@[simp]
theorem Except.bind_error (error : EditError) (next : Result → Except EditError Next) :
    (Except.error error >>= next) = .error error := rfl

end Except

namespace Blueprint

variable {plan : Blueprint} {id other child parent : NodeId}

/-! ## What the rules let through -/

theorem checkAttachable_eq_ok_iff :
    plan.checkAttachable parent child = .ok () ↔
      ∃ parentEntry childEntry,
        plan.entryOf? parent = some parentEntry ∧ plan.entryOf? child = some childEntry ∧
          parentEntry.kind.isLeaf = false ∧ childEntry.parent = none ∧
          plan.root ≠ some child ∧ child ∉ plan.lineage parent := by
  unfold checkAttachable Blueprint.entry
  cases plan.entryOf? parent with
  | none => simp
  | some parentEntry =>
      cases plan.entryOf? child with
      | none => simp
      | some childEntry =>
          simp only [Except.bind_ok]
          split_ifs with leaf attached below
          · simp_all
          · grind
          · simp_all
          · simp_all

theorem checkCapacity_eq_ok_iff :
    plan.checkCapacity parent = .ok () ↔
      ∃ entry, plan.entryOf? parent = some entry ∧
        entry.children.length < entry.kind.maxChildren plan.options := by
  rw [checkCapacity, Blueprint.entry]
  cases plan.entryOf? parent with
  | none => simp
  | some entry =>
      simp only [Except.bind_ok]
      split_ifs with full <;> simp_all

theorem checkAppend_eq_ok_iff :
    plan.checkAppend parent child = .ok () ↔
      plan.checkAttachable parent child = .ok () ∧ plan.checkCapacity parent = .ok () := by
  rw [checkAppend]
  cases plan.checkAttachable parent child <;> simp

theorem checkInsert_eq_ok_iff {before : NodeId} :
    plan.checkInsert parent child before = .ok () ↔
      ∃ parentEntry childEntry,
        plan.entryOf? parent = some parentEntry ∧ plan.entryOf? child = some childEntry ∧
          parentEntry.kind.isLeaf = false ∧ before ∈ parentEntry.children ∧
          (child ∈ parentEntry.children ∨ plan.checkAppend parent child = .ok ()) := by
  unfold checkInsert Blueprint.entry
  cases plan.entryOf? parent with
  | none => simp
  | some parentEntry =>
      cases plan.entryOf? child with
      | none => cases leaf : parentEntry.kind.isLeaf <;> simp [leaf]
      | some childEntry =>
          simp only [Except.bind_ok]
          split_ifs with leaf missing moved <;> simp_all

theorem checkDetach_eq_ok_iff {derived? : NodeId → Option Parser} :
    plan.checkDetach derived? parent child = .ok () ↔
      ∃ entry, plan.entryOf? parent = some entry ∧ child ∈ entry.children ∧
        ((derived? parent).isSome = true → entry.children.length ≠ 1) := by
  rw [checkDetach, Blueprint.entry]
  cases plan.entryOf? parent with
  | none => simp
  | some entry =>
      simp only [Except.bind_ok]
      split_ifs with missing last <;> simp_all

theorem checkDestroy_eq_ok_iff {derived? : NodeId → Option Parser} :
    plan.checkDestroy derived? id = .ok () ↔
      ∃ entry, plan.entryOf? id = some entry ∧
        ∀ parent, entry.parent = some parent →
          plan.checkDetach derived? parent id = .ok () := by
  rw [checkDestroy, Blueprint.entry]
  cases plan.entryOf? id with
  | none => simp
  | some entry => cases above : entry.parent <;> simp [above]

theorem present_of_checkUpdate
    {derived? : NodeId → Option Parser}
    {delta : Props}
    (allowed : plan.checkUpdate derived? id delta = .ok ()) :
    plan.Present id := by
  unfold checkUpdate Blueprint.entry at allowed
  cases found : plan.entryOf? id with
  | none => simp [found] at allowed
  | some entry => exact present_of_entryOf? found

theorem checkRoot_eq_ok_iff :
    plan.checkRoot id = .ok () ↔
      ∃ entry, plan.entryOf? id = some entry ∧ entry.parent = none := by
  rw [checkRoot, Blueprint.entry]
  cases plan.entryOf? id with
  | none => simp
  | some entry => cases entry.parent <;> simp

/-- An edit is accepted if its check is passed. -/
theorem answer_eq_ok_iff
    {check : Except EditError Unit}
    {answer result : Option NodeId} :
    check.map (fun _ => answer) = .ok result ↔ check = .ok () ∧ answer = result := by
  cases check <;> simp [Except.map]

end Blueprint

end ParserGraph

import ParserGraph.Proofs.Tree.Runs

/-!
# Refused edits

An edit that is refused leaves the tree as it was.  It is refused for its place in
the tree, for a kind that it does not describe, or for a pattern that it names itself
and that is none.  Compiling anew what lies above a change never refuses it.
-/

namespace ParserGraph

/-- The error is one that combining parsers may have. -/
def EditError.ofCombining : EditError → Bool
  | .incompleteCombinator _ | .notCompiled _ | .invalidPattern _ => true
  | _ => false

/-! ## Checks of the place -/

section Placing

variable {Result Next : Type}

/-- A check whose errors do not come from combining parsers. -/
def Placing (check : Except EditError Result) : Prop :=
  ∀ error, check = .error error → error.ofCombining = false

namespace Placing

theorem ok (result : Result) : Placing (.ok result) := by
  intro error refused
  cases refused

theorem error {error : EditError} (placing : error.ofCombining = false) :
    Placing (.error error : Except EditError Result) := by
  intro other refused
  cases refused
  exact placing

theorem bind
    {first : Except EditError Result}
    {next : Result → Except EditError Next}
    (checked : Placing first)
    (onwards : ∀ result, Placing (next result)) :
    Placing (first >>= next) := by
  intro error refused
  cases passed : first with
  | error other =>
      rw [passed] at refused
      cases refused
      exact checked error passed
  | ok result =>
      rw [passed] at refused
      exact onwards result error refused

theorem map
    {check : Except EditError Result}
    (checked : Placing check)
    (answer : Result → Next) :
    Placing (check.map answer) := by
  intro error refused
  cases passed : check with
  | error other =>
      rw [passed] at refused
      cases refused
      exact checked error passed
  | ok result =>
      rw [passed] at refused
      cases refused

theorem ite
    {condition : Prop}
    [Decidable condition]
    {first second : Except EditError Result}
    (whenTrue : Placing first)
    (whenFalse : Placing second) :
    Placing (if condition then first else second) := by
  split
  · exact whenTrue
  · exact whenFalse

end Placing

end Placing

namespace Blueprint

variable {plan : Blueprint} {id parent child before : NodeId} {derived? : NodeId → Option Parser}

theorem placing_entry : Placing (plan.entry id) := by
  rw [Blueprint.entry]
  split
  · exact Placing.ok _
  · exact Placing.error rfl

theorem placing_checkAttachable : Placing (plan.checkAttachable parent child) := by
  refine placing_entry.bind fun parentEntry => placing_entry.bind fun childEntry => ?_
  exact .ite (.error rfl) (.ite (.error rfl) (.ite (.error rfl) (.ok ())))

theorem placing_checkAppend : Placing (plan.checkAppend parent child) := by
  refine placing_checkAttachable.bind fun _ => placing_entry.bind fun entry => ?_
  exact .ite (.error rfl) (.ok ())

theorem placing_checkInsert : Placing (plan.checkInsert parent child before) := by
  refine placing_entry.bind fun parentEntry => .ite (.error rfl) ?_
  refine placing_entry.bind fun childEntry => .ite (.error rfl) ?_
  exact .ite (.ok ()) placing_checkAppend

theorem placing_checkDetach : Placing (plan.checkDetach derived? parent child) := by
  refine placing_entry.bind fun entry => .ite (.error rfl) ?_
  exact .ite (.error rfl) (.ok ())

theorem placing_checkDestroy : Placing (plan.checkDestroy derived? id) := by
  refine placing_entry.bind fun entry => ?_
  split
  · exact placing_checkDetach
  · exact Placing.ok ()

theorem placing_checkRoot : Placing (plan.checkRoot id) := by
  refine placing_entry.bind fun entry => ?_
  exact .ite (.error rfl) (.ok ())

end Blueprint

namespace Kind

theorem placing_resolve (tag : String) (props : Props) : Placing (resolve tag props) := by
  have required : ∀ prop content, Placing (required tag prop content) := by
    intro prop content
    cases content with
    | none => exact Placing.error rfl
    | some text => exact Placing.ok text
  unfold resolve
  split
  case h_1 => exact (required "text" props.text).map _
  case h_2 => exact (required "pattern" props.pattern).map _
  case h_13 => exact Placing.error rfl
  all_goals exact Placing.ok _

/-- Only props for a pattern make a pattern leaf. -/
theorem resolve_eq_pattern
    {tag source : String}
    {props : Props}
    {expected : Option String}
    (resolved : resolve tag props = .ok (.pattern source expected)) :
    tag = "match" ∧ props.pattern = some source ∧ props.expected = expected := by
  unfold resolve at resolved
  split at resolved
  case h_2 =>
    cases pattern : props.pattern <;> simp_all [required, Except.map]
  all_goals simp [required, Except.map] at resolved
  cases text : props.text <;> simp [text] at resolved

end Kind

namespace Tree

variable {tree : Tree} {id : NodeId}

/-- The edit itself gives a pattern leaf the source, and that is no pattern. -/
def NamesNoPattern (tree : Tree) (source : String) : Edit → Prop
  | .create tag props =>
      tag = "match" ∧ props.pattern = some source ∧
        Pattern.ofSource? source props.expected = none
  | .update id delta =>
      ∃ node expected,
        tree.get? id = some node ∧ node.kind.withProps delta = .pattern source expected ∧
          Pattern.ofSource? source expected = none
  | _ => False

/-- A new node is refused for its kind or for its pattern. -/
theorem namesNoPattern_of_checkCreate
    {tag : String}
    {props : Props}
    {error : EditError}
    (refused : Blueprint.checkCreate tag props = .error error)
    (combining : error.ofCombining = true) :
    ∃ source, error = .invalidPattern source ∧ tree.NamesNoPattern source (.create tag props) := by
  unfold Blueprint.checkCreate at refused
  cases resolved : Kind.resolve tag props with
  | error other =>
      rw [resolved] at refused
      cases refused
      rw [Kind.placing_resolve tag props error resolved] at combining
      cases combining
  | ok kind =>
      simp only [resolved, Except.bind_ok] at refused
      split_ifs at refused with leaf
      rcases Kind.combine_nil_of_isLeaf leaf with
        ⟨base, combined⟩ | ⟨source, expected, rfl, missing, failed⟩
      · rw [combined] at refused
        cases refused
      · rw [failed] at refused
        cases refused
        rcases Kind.resolve_eq_pattern resolved with ⟨named, pattern, rfl⟩
        exact ⟨source, rfl, named, pattern, missing⟩

/-- A compiled node takes props unless they make its pattern none. -/
theorem Consistent.namesNoPattern_of_checkUpdate
    (consistent : tree.Consistent)
    {delta : Props}
    {error : EditError}
    (refused : tree.blueprint.checkUpdate tree.derived? id delta = .error error)
    (combining : error.ofCombining = true) :
    ∃ source, error = .invalidPattern source ∧ tree.NamesNoPattern source (.update id delta) := by
  cases found : tree.get? id with
  | none =>
      simp only [Blueprint.checkUpdate, Blueprint.entry, entryOf?_blueprint_eq_none found,
        Except.bind_error] at refused
      cases refused
      cases combining
  | some node =>
      have settled := consistent.coherent id node found List.not_mem_nil
      rw [checkUpdate_blueprint found settled] at refused
      split_ifs at refused with compiled
      cases kind : node.kind.isLeaf with
      | false =>
          have whole : node.combined.isSome = true := settled.isSome_derived.symm.trans compiled
          rw [Node.updated_of_combinator kind (settled.assembled kind) whole] at refused
          cases refused
      | true =>
          have leaf : (node.kind.withProps delta).isLeaf = true :=
            (Kind.isLeaf_withProps delta node.kind).trans kind
          have childless := consistent.wellFormed.children_of_isLeaf
            ((id_of_get? found).symm ▸ found) kind
          have none_asked : node.children.mapM tree.derived? = some [] := by
            rw [childless]
            rfl
          unfold Node.updated at refused
          simp only [none_asked] at refused
          split_ifs at refused with same
          · cases refused
          · rcases Kind.combine_nil_of_isLeaf leaf with
              ⟨base, combined⟩ | ⟨source, expected, named, missing, failed⟩
            · rw [combined] at refused
              cases refused
            · rw [failed] at refused
              cases refused
              exact ⟨source, rfl, node, expected, found, named, missing⟩

/-- Where combining parsers refuses an edit, the edit names a pattern that is none. -/
theorem Consistent.namesNoPattern
    (consistent : tree.Consistent)
    {edit : Edit}
    {error : EditError}
    (refused : tree.blueprint.verdict tree.derived? edit = .error error)
    (combining : error.ofCombining = true) :
    ∃ source, error = .invalidPattern source ∧ tree.NamesNoPattern source edit := by
  have placed : ∀ {check : Except EditError Unit} {answer : Option NodeId}, Placing check →
      check.map (fun _ => answer) = .error error → False := by
    intro check answer placing failed
    rw [placing.map _ error failed] at combining
    cases combining
  have failed : ∀ {check : Except EditError Unit} {answer : Option NodeId},
      check.map (fun _ => answer) = .error error → check = .error error := by
    intro check answer failed
    cases check with
    | error other => simpa [Except.map] using failed
    | ok _ => cases failed
  cases edit with
  | create tag props => exact namesNoPattern_of_checkCreate (failed refused) combining
  | update node delta => exact consistent.namesNoPattern_of_checkUpdate (failed refused) combining
  | appendChild parent child => exact (placed Blueprint.placing_checkAppend refused).elim
  | insertBefore parent child before => exact (placed Blueprint.placing_checkInsert refused).elim
  | removeChild parent child => exact (placed Blueprint.placing_checkDetach refused).elim
  | destroy node => exact (placed Blueprint.placing_checkDestroy refused).elim
  | setRoot node => exact (placed Blueprint.placing_checkRoot refused).elim
  | clearRoot => cases refused

/--
On every tree that a run comes to, an edit that is refused leaves the whole tree as it
was, and one that is accepted is counted.  No edit is refused because compiling anew
failed: there is nothing incomplete, nothing is not compiled, and a pattern is refused
only where the edit itself names it.
-/
theorem apply_refused_or_counted (options : TreeOptions) (edits : List Edit) (edit : Edit) :
    match ((withOptions options).after edits).apply edit with
    | (.ok _, next) => next.version = ((withOptions options).after edits).version + 1
    | (.error error, next) =>
        next = (withOptions options).after edits ∧
          (∀ tag, error ≠ .incompleteCombinator tag) ∧ (∀ id, error ≠ .notCompiled id) ∧
            ∀ source, error = .invalidPattern source →
              ((withOptions options).after edits).NamesNoPattern source edit := by
  have consistent := (consistent_withOptions options).after edits
  generalize (withOptions options).after edits = tree at consistent ⊢
  rw [consistent.apply_eq]
  cases decided : tree.blueprint.verdict tree.derived? edit with
  | ok result =>
      show (tree.perform edit).version + 1 = tree.version + 1
      rw [version_perform]
  | error error =>
      have named := consistent.namesNoPattern decided
      refine ⟨rfl, ?_, ?_, ?_⟩
      · rintro tag rfl
        rcases named rfl with ⟨source, other, _⟩
        cases other
      · rintro id rfl
        rcases named rfl with ⟨source, other, _⟩
        cases other
      · rintro source rfl
        rcases named rfl with ⟨other, same, names⟩
        cases same
        exact names

end Tree

end ParserGraph

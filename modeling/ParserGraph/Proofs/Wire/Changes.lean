import ParserGraph.Proofs.Tree.Commuting
import ParserGraph.Proofs.Tree.Shortcut
import ParserGraph.Proofs.Wire.Scripts

/-!
# Values that are said otherwise

If a script says another value than the edit that it was made from, or none as null is not
said, this changes what the edit does only where the value would have been seen: of a
constant that is created or updated, and of a node that is not compiled, which keeps what it
is told.  There the tree looks different afterwards.
-/

namespace ParserGraph

/-- What is seen of a node, with transforms told apart by their names only. -/
structure Appearance where
  kind : Kind
  decoration : Decoration
  staged : Option Props
  children : List NodeId

def Node.appearance (node : Node) : Appearance :=
  { kind := node.kind
    decoration := node.decoration.withIdentity 0
    staged := node.staged.map (Props.withIdentity 0)
    children := node.children }

/-- The same nodes are there, and each of them appears alike. -/
def Tree.LooksAlike (first second : Tree) : Prop :=
  ∀ id, (first.get? id).map Node.appearance = (second.get? id).map Node.appearance

/-- The props as a script says them: their value is the one that is read, and null is not said. -/
def Props.replayed (props : Props) : Props :=
  props.reread.withoutNull

/-- What a value that may be said makes of another one. -/
def Value.overlay (value : Value) (said? : Option Value.Normal) : Value :=
  (said?.map Value.Normal.value).getD value

/-- If the other value is said to the node instead of the one, something else is seen of it. -/
def Node.TellsApart (node : Node) (said? other? : Option Value.Normal) : Prop :=
  if node.isCompiled then
    ∃ value, node.kind = .constant value ∧ value.overlay said? ≠ value.overlay other?
  else
    said?.or (node.staged.getD {}).value ≠ other?.or (node.staged.getD {}).value

/-- The edit says a value that the script does not say, and the value is seen. -/
inductive Edit.ShowsChange (tree : Tree) : Edit → Prop where
  | create {props : Props} :
      Value.overlay .null props.value ≠ Value.overlay .null props.replayed.value →
        Edit.ShowsChange tree (.create "noop" props)
  | update {id : NodeId} {delta : Props} {node : Node} :
      tree.get? id = some node → node.TellsApart delta.value delta.replayed.value →
        Edit.ShowsChange tree (.update id delta)

/-! ## Values that nobody sees -/

variable {delta : Props} {other? : Option Value.Normal}

namespace Kind

/-- Only a constant starts with the value that it is told. -/
theorem resolve_otherValue
    {tag : String}
    {props : Props}
    (unseen : tag = "noop" → Value.overlay .null props.value = Value.overlay .null other?) :
    resolve tag { props with value := other? } = resolve tag props := by
  unfold resolve
  split
  case h_3 => exact congrArg (Except.ok ∘ constant) (unseen rfl).symm
  all_goals rfl

/-- Another value is seen of a constant only. -/
theorem withProps_otherValue
    {kind : Kind}
    (unseen : ∀ value, kind = .constant value →
      value.overlay delta.value = value.overlay other?) :
    kind.withProps { delta with value := other? } = kind.withProps delta := by
  cases kind with
  | constant value => exact congrArg constant (unseen value rfl).symm
  | _ => rfl

end Kind

namespace Node

variable {node : Node}

theorem updated_otherValue
    (unseen : ¬ node.TellsApart delta.value other?)
    (compiled : node.isCompiled = true)
    (derived? : NodeId → Option Parser) :
    node.updated derived? { delta with value := other? } = node.updated derived? delta := by
  have hidden : ∀ value, node.kind = .constant value →
      value.overlay delta.value = value.overlay other? := by
    intro value constant
    by_contra different
    exact unseen (by simpa [TellsApart, compiled] using ⟨value, constant, different⟩)
  have kind := Kind.withProps_otherValue hidden
  have merged : node.merged { delta with value := other? } = node.merged delta := by
    rw [merged, merged, kind]
    rfl
  simp only [updated, kind, merged]

theorem stage_otherValue
    (unseen : ¬ node.TellsApart delta.value other?)
    (waits : node.isCompiled = false) :
    node.stage { delta with value := other? } = node.stage delta := by
  have kept : delta.value.or (node.staged.getD {}).value =
      other?.or (node.staged.getD {}).value := by
    by_contra different
    exact unseen (by simpa [TellsApart, waits] using different)
  have overlaid : (node.staged.getD {}).overlay { delta with value := other? } =
      (node.staged.getD {}).overlay delta := by
    rw [Props.overlay, Props.overlay, kept]
  rw [stage, stage, overlaid]

end Node

namespace Tree

variable {tree : Tree} {id : NodeId} {node : Node}

/-- What an update does is known from what it does to its node. -/
theorem Consistent.apply_update_congr
    (consistent : tree.Consistent)
    {other : Props}
    (found : tree.get? id = some node)
    (merged : node.isCompiled = true →
      node.updated tree.derived? delta = node.updated tree.derived? other)
    (staged : node.isCompiled = false → node.stage delta = node.stage other) :
    tree.apply (.update id delta) = tree.apply (.update id other) := by
  have settled := consistent.coherent id node found List.not_mem_nil
  have distinct := consistent.wellFormed.distinct
  rw [consistent.apply_eq, consistent.apply_eq]
  simp only [Blueprint.verdict, checkUpdate_blueprint found settled, Tree.perform, Tree.updated,
    found]
  cases compiled : node.isCompiled with
  | true => simp only [if_true, merged compiled]
  | false =>
      simp only [Bool.false_eq_true, if_false, modify_congr distinct found (staged compiled)]

/-- An update of a node that does not tell the values apart does the same with either. -/
theorem Consistent.apply_update_otherValue
    (consistent : tree.Consistent)
    (unseen : ∀ node, tree.get? id = some node → ¬ node.TellsApart delta.value other?) :
    tree.apply (.update id { delta with value := other? }) = tree.apply (.update id delta) := by
  cases found : tree.get? id with
  | none =>
      rw [consistent.apply_eq, consistent.apply_eq]
      simp only [Blueprint.verdict, Blueprint.checkUpdate, Blueprint.entry,
        entryOf?_blueprint_eq_none found]
      rfl
  | some node =>
      have hidden := unseen node found
      exact consistent.apply_update_congr found
        (fun compiled => node.updated_otherValue hidden compiled tree.derived?)
        (node.stage_otherValue hidden)

/-- A change that nobody sees makes no difference. -/
theorem Consistent.apply_replayed
    (consistent : tree.Consistent)
    {edit : Edit}
    (unseen : ¬ edit.ShowsChange tree) :
    tree.apply (edit.mapProps Props.replayed) = tree.apply edit := by
  cases edit with
  | create tag props =>
      have resolved : Kind.resolve tag props.replayed = Kind.resolve tag props := by
        show Kind.resolve tag { props with value := props.replayed.value } = _
        refine Kind.resolve_otherValue ?_
        rintro rfl
        by_contra different
        exact unseen (.create different)
      rw [consistent.apply_eq, consistent.apply_eq]
      simp only [Edit.mapProps, Blueprint.verdict, Blueprint.checkCreate, Tree.perform, resolved]
      rfl
  | update id delta =>
      exact consistent.apply_update_otherValue fun node found apart => unseen (.update found apart)
  | _ => rfl

/-! ## Values that are missed -/

theorem Consistent.get?_apply_update_of_waiting
    (consistent : tree.Consistent)
    (found : tree.get? id = some node)
    (waits : node.isCompiled = false)
    (delta : Props) :
    (tree.apply (.update id delta)).2.get? id = some (node.stage delta) := by
  have settled := consistent.coherent id node found List.not_mem_nil
  have named := id_of_get? found
  have after : tree.perform (.update id delta) = tree.put (node.stage delta) := by
    simp only [Tree.perform, Tree.updated, found, waits, Bool.false_eq_true, if_false]
    exact modify_eq_put consistent.wellFormed.distinct found rfl
  rw [consistent.apply_eq]
  simp only [Blueprint.verdict, checkUpdate_blueprint found settled, waits, after]
  have there : (tree.put (node.stage delta)).get? (node.stage delta).id =
      some (node.stage delta) :=
    get?_put_self (named.symm ▸ found)
  exact named ▸ there

theorem Consistent.apply_update_constant
    (consistent : tree.Consistent)
    (found : tree.get? id = some node)
    (compiled : node.isCompiled = true)
    {value : Value}
    (constant : node.kind = .constant value)
    (delta : Props) :
    ∃ next, (tree.apply (.update id delta)).2.get? id = some next ∧
      next.kind = .constant (value.overlay delta.value) := by
  have settled := consistent.coherent id node found List.not_mem_nil
  have kind : node.entry.kind = .constant value := by
    simp [Node.entry, settled.staged_eq_none compiled, constant]
  have accepted : (tree.apply (.update id delta)).1 = .ok (some id) := by
    rw [consistent.fst_apply]
    simp only [Blueprint.verdict, consistent.checkUpdate_eq, Blueprint.entry,
      entryOf?_blueprint found, Except.bind_ok, kind, Kind.checkProps]
    split_ifs <;> rfl
  rcases consistent.exists_updated found compiled accepted with ⟨next, nextFound, _, nextKind, _⟩
  exact ⟨next, nextFound, nextKind.trans (by rw [constant]; rfl)⟩

/-- A constant that is created shows the value that it is told. -/
theorem Consistent.apply_create_constant
    (consistent : tree.Consistent)
    (props : Props) :
    ∃ next, (tree.apply (.create "noop" props)).2.get? { number := tree.issued + 1 } = some next ∧
      next.kind = .constant (Value.overlay .null props.value) := by
  let kind : Kind := .constant (Value.overlay .null props.value)
  let next : Node := .created { number := tree.issued + 1 } kind props
  have fresh := consistent.wellFormed.get?_next
  rw [← Node.id_created { number := tree.issued + 1 } kind props] at fresh
  have found : (tree.added next).get? { number := tree.issued + 1 } = some next := by
    rw [get?_added fresh, Node.id_created, if_pos rfl]
  refine ⟨next, ?_, rfl⟩
  rw [consistent.apply_eq]
  exact found

/-- Where a value is seen, saying another one is seen as well. -/
theorem Consistent.looks_different
    (consistent : tree.Consistent)
    {edit : Edit}
    (seen : edit.ShowsChange tree) :
    ¬ (tree.apply edit).2.LooksAlike (tree.apply (edit.mapProps Props.replayed)).2 := by
  intro alike
  cases seen with
  | @create props different =>
      rcases consistent.apply_create_constant props with ⟨next, nextFound, nextKind⟩
      rcases consistent.apply_create_constant props.replayed with ⟨other, otherFound, otherKind⟩
      have here := alike { number := tree.issued + 1 }
      rw [Edit.mapProps, nextFound, otherFound] at here
      have kinds : next.kind = other.kind := congrArg Appearance.kind (Option.some.inj here)
      rw [nextKind, otherKind] at kinds
      exact different (Kind.constant.inj kinds)
  | @update id delta node found apart =>
      have here := alike id
      rw [Node.TellsApart] at apart
      split_ifs at apart with compiled
      · rcases apart with ⟨value, constant, different⟩
        rcases consistent.apply_update_constant found compiled constant delta with
          ⟨next, nextFound, nextKind⟩
        rcases consistent.apply_update_constant found compiled constant delta.replayed with
          ⟨other, otherFound, otherKind⟩
        rw [Edit.mapProps, nextFound, otherFound] at here
        have kinds : next.kind = other.kind := congrArg Appearance.kind (Option.some.inj here)
        rw [nextKind, otherKind] at kinds
        exact different (Kind.constant.inj kinds)
      · have waits : node.isCompiled = false := by simpa using compiled
        rw [Edit.mapProps, consistent.get?_apply_update_of_waiting found waits,
          consistent.get?_apply_update_of_waiting found waits] at here
        have staged := congrArg Appearance.staged (Option.some.inj here)
        exact apart (congrArg (fun props? : Option Props => props?.bind Props.value) staged)

end Tree

end ParserGraph

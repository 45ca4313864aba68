import ParserGraph.Proofs.Blueprint.Commuting
import ParserGraph.Proofs.Tree.Frames
import ParserGraph.Proofs.Tree.Refinement

/-!
# Updates and other edits in either order

An update of a node and an edit that neither updates the node nor drops it can be applied
in either order.  Depending on the order, the props are merged at once, or kept aside and
merged on the way up from the place of the other edit, or kept aside for good.  The
blueprint does not tell these ways apart, and it determines all parsers but those that
the leaves have kept.  A leaf in turn is changed by its own updates only.
-/

namespace ParserGraph

namespace Tree

variable {tree first second : Tree} {id : NodeId} {edit : Edit} {delta : Props}

/-! ## What determines the parsers -/

theorem derived?_eq_own? (tree : Tree) (id : NodeId) :
    tree.derived? id = (tree.own? id).bind Node.derived := by
  rw [derived?, own?]
  cases tree.get? id <;> rfl

/-- Consistent trees of one blueprint have the same parsers if their leaves are the same. -/
theorem Consistent.derived?_congr
    (consistent : first.Consistent)
    (other : second.Consistent)
    (alike : first.blueprint = second.blueprint)
    (leaves : ∀ id, ¬ first.Combines id → first.own? id = second.own? id)
    (id : NodeId) :
    first.derived? id = second.derived? id := by
  induction id using consistent.wellFormed.forest.children_induction with
  | step id hypothesis =>
    by_cases combines : first.Combines id
    · rcases combines with ⟨node, found, combinator⟩
      have entry := entryOf?_blueprint found
      rw [alike] at entry
      rcases Option.map_eq_some_iff.1 entry with ⟨node', found', same⟩
      have combinator' : node'.kind.isLeaf = false := by
        rw [← Node.isLeaf_entry, same, Node.isLeaf_entry, combinator]
      have settled := consistent.coherent id node found List.not_mem_nil
      have settled' := other.coherent id node' found' List.not_mem_nil
      rw [derived?, found, derived?, found', Option.bind_some, Option.bind_some,
        settled.derived_of_combinator combinator, settled'.derived_of_combinator combinator', same]
      congr 1
      refine Kind.assemble?_congr ?_
      intro child member
      rw [Node.children_entry, ← childrenOf_blueprint found] at member
      exact hypothesis child member
    · rw [derived?_eq_own?, derived?_eq_own?, leaves id combines]

/-- A node is compiled exactly if it is a leaf or has children, all of which are compiled. -/
theorem Consistent.isSome_derived?_iff (consistent : tree.Consistent) (id : NodeId) :
    (tree.derived? id).isSome = true ↔
      ∃ entry, tree.blueprint.entryOf? id = some entry ∧
        (entry.kind.isLeaf = true ∨ entry.children ≠ []) ∧
          ∀ child ∈ entry.children, (tree.derived? child).isSome = true := by
  cases found : tree.get? id with
  | none => simp [derived?, found, entryOf?_blueprint_eq_none found]
  | some node =>
      have compiled := consistent.isCompiled_iff (mem_of_get? found)
      rw [derived?, found, entryOf?_blueprint found]
      simpa [Node.isCompiled] using compiled

/-- Props do not change which nodes are compiled. -/
theorem Consistent.isSome_derived?_withProps
    (consistent : first.Consistent)
    (other : second.Consistent)
    (merged : second.blueprint = first.blueprint.alter id (Entry.withProps delta))
    (node : NodeId) :
    (second.derived? node).isSome = (first.derived? node).isSome := by
  induction node using consistent.wellFormed.forest.children_induction with
  | step node hypothesis =>
    rw [Bool.eq_iff_iff, consistent.isSome_derived?_iff, other.isSome_derived?_iff, merged,
      Blueprint.entryOf?_alter]
    cases found : first.blueprint.entryOf? node with
    | none => simp
    | some entry =>
        rw [Blueprint.childrenOf_eq found] at hypothesis
        have below : (∀ child ∈ entry.children, (second.derived? child).isSome = true) ↔
            ∀ child ∈ entry.children, (first.derived? child).isSome = true :=
          forall₂_congr fun child member => by rw [hypothesis child member]
        split_ifs <;> simp [Entry.withProps, below]

/-! ## What determines the answers -/

end Tree

/-- Props are refused only if they make a pattern of a leaf that cannot be compiled. -/
def Kind.checkProps (kind : Kind) (delta : Props) : Except EditError Unit :=
  if kind.isLeaf && !(kind.withProps delta).same kind then
    ((kind.withProps delta).combine []).map fun _ => ()
  else
    .ok ()

namespace Tree

variable {tree first second : Tree} {id : NodeId} {edit : Edit} {delta : Props}

/-- The rule for an update looks at nothing but the kind of the node. -/
theorem Consistent.checkUpdate_eq (consistent : tree.Consistent) (id : NodeId) (delta : Props) :
    tree.blueprint.checkUpdate tree.derived? id delta =
      tree.blueprint.entry id >>= fun entry => entry.kind.checkProps delta := by
  cases found : tree.get? id with
  | none =>
      rw [Blueprint.checkUpdate, Blueprint.entry, entryOf?_blueprint_eq_none found]
      rfl
  | some node =>
      have settled := consistent.coherent id node found List.not_mem_nil
      rw [checkUpdate_blueprint found settled, Blueprint.entry, entryOf?_blueprint found]
      simp only [Except.bind_ok, Kind.checkProps, Node.isLeaf_entry]
      cases leaf : node.kind.isLeaf with
      | true =>
          have compiled := settled.isCompiled_of_isLeaf leaf
          have kind : node.entry.kind = node.kind := by
            simp [Node.entry, settled.staged_eq_none compiled]
          have childless := consistent.wellFormed.children_of_isLeaf found leaf
          rw [if_pos compiled, kind, Node.updated, childless]
          cases (node.kind.withProps delta).same node.kind with
          | true => rfl
          | false =>
              have parsers : ([] : List NodeId).mapM tree.derived? = some [] := rfl
              simp only [parsers, Bool.false_eq_true, if_false]
              cases (node.kind.withProps delta).combine [] <;> rfl
      | false =>
          simp only [Bool.false_and, Bool.false_eq_true, if_false]
          split_ifs with compiled
          · have whole : node.combined.isSome = true :=
              settled.isSome_derived.symm.trans compiled
            rw [Node.updated_of_combinator leaf (settled.assembled leaf) whole]
            rfl
          · rfl

/-- So an update is answered alike wherever the node is of the same kind. -/
theorem Consistent.verdict_update_congr
    (consistent : first.Consistent)
    (other : second.Consistent)
    (kinds : (first.blueprint.entryOf? id).map Entry.kind =
      (second.blueprint.entryOf? id).map Entry.kind)
    (delta : Props) :
    first.blueprint.verdict first.derived? (.update id delta) =
      second.blueprint.verdict second.derived? (.update id delta) := by
  simp only [Blueprint.verdict, consistent.checkUpdate_eq, other.checkUpdate_eq, Blueprint.entry]
  cases found : first.blueprint.entryOf? id with
  | none =>
      rw [found] at kinds
      rw [Option.map_eq_none_iff.1 kinds.symm]
  | some entry =>
      rw [found] at kinds
      rcases Option.map_eq_some_iff.1 kinds.symm with ⟨entry', found', same⟩
      rw [found', Except.bind_ok, Except.bind_ok, same]

/-- Merged props change no answer to an edit that is no update of the same node. -/
theorem Consistent.verdict_withProps
    (consistent : first.Consistent)
    (other : second.Consistent)
    (merged : second.blueprint = first.blueprint.alter id (Entry.withProps delta))
    (spared : ∀ delta, edit ≠ .update id delta) :
    second.blueprint.verdict second.derived? edit =
      first.blueprint.verdict first.derived? edit := by
  rw [merged]
  refine Blueprint.verdict_withProps (consistent.isSome_derived?_withProps other merged) ?_
  rintro node given rfl
  have different : node ≠ id := by
    rintro rfl
    exact spared given rfl
  rw [← merged, consistent.checkUpdate_eq, other.checkUpdate_eq, merged,
    Blueprint.entry_withProps, Blueprint.entry]
  cases first.blueprint.entryOf? node with
  | none => rfl
  | some entry => simp [Except.map, different]

/-! ## Both orders -/

/-- A tree is what an accepted edit makes of another one, as far as edits after it can tell. -/
structure Performs (tree : Tree) (edit : Edit) (next : Tree) : Prop where
  consistent : next.Consistent
  blueprint : next.blueprint = tree.blueprint.perform edit
  leaves : ∀ id, ¬ tree.Combines id →
    (∀ node, edit = .destroy node → next.blueprint.Present id) →
      next.own? id = edit.remade tree.issued id (tree.own? id)

theorem Consistent.performs
    (consistent : tree.Consistent)
    {result : Option NodeId}
    (accepted : tree.blueprint.verdict tree.derived? edit = .ok result) :
    tree.Performs edit (tree.apply edit).2 := by
  have next := consistent.apply edit
  rw [consistent.snd_apply_of_ok accepted] at next ⊢
  exact ⟨next, (consistent.perform accepted).2, fun _ => consistent.own?_perform accepted⟩

/-- An edit makes no combinator a leaf. -/
theorem Performs.not_combines
    (performs : tree.Performs edit first)
    (consistent : tree.Consistent)
    (present : first.blueprint.Present id)
    (leaf : ¬ first.Combines id) :
    ¬ tree.Combines id := by
  intro combines
  rcases combines_iff.1 combines with ⟨entry, found, combinator⟩
  rcases present.exists_entryOf? with ⟨next, later⟩
  apply leaf
  refine combines_iff.2 ⟨next, later, ?_⟩
  rw [performs.blueprint] at later
  rcases Blueprint.kind_perform consistent.wellFormed.forest found later with
    same | ⟨delta, _, changed⟩
  · rw [same, combinator]
  · rw [changed, Kind.isLeaf_withProps, combinator]

/-- What an update and another edit make of a tree, in this order and in the other one. -/
structure BothOrders
    (tree : Tree)
    (id : NodeId)
    (delta : Props)
    (edit : Edit)
    (updated edited first second : Tree) : Prop where
  consistent : tree.Consistent
  present : tree.blueprint.Present id
  spared : ∀ delta, edit ≠ .update id delta
  updates : tree.Performs (.update id delta) updated
  edits : tree.Performs edit edited
  editsThen : updated.Performs edit first
  updatesThen : edited.Performs (.update id delta) second

namespace BothOrders

variable {updated edited : Tree}

theorem blueprint_eq (orders : tree.BothOrders id delta edit updated edited first second) :
    first.blueprint = second.blueprint := by
  rw [orders.editsThen.blueprint, orders.updates.blueprint, orders.updatesThen.blueprint,
    orders.edits.blueprint]
  exact Blueprint.perform_withProps orders.consistent.wellFormed.forest orders.present
    orders.spared

/-- A leaf that is there at the end has become what it is by the same steps in both orders. -/
theorem own?_eq_of_present
    (orders : tree.BothOrders id delta edit updated edited first second)
    {leaf : NodeId}
    (there : first.blueprint.Present leaf)
    (bare : ¬ first.Combines leaf) :
    first.own? leaf = second.own? leaf := by
  have plans := orders.blueprint_eq
  have bareThen : ¬ second.Combines leaf := by
    rwa [combines_iff, ← plans, ← combines_iff]
  have thereThen : second.blueprint.Present leaf := plans ▸ there
  have thereEdited : edited.blueprint.Present leaf := by
    rw [orders.updatesThen.blueprint] at thereThen
    exact Blueprint.present_alter.1 thereThen
  have bareUpdated := orders.editsThen.not_combines orders.updates.consistent there bare
  have bareEdited := orders.updatesThen.not_combines orders.edits.consistent thereThen bareThen
  have bareBefore := orders.edits.not_combines orders.consistent thereEdited bareEdited
  have issued : updated.issued = tree.issued :=
    congrArg Blueprint.issued orders.updates.blueprint
  rw [orders.editsThen.leaves leaf bareUpdated fun _ _ => there,
    orders.updatesThen.leaves leaf bareEdited fun _ _ => thereThen,
    orders.updates.leaves leaf bareBefore (by rintro node ⟨⟩),
    orders.edits.leaves leaf bareBefore fun _ _ => thereEdited, issued]
  by_cases itself : leaf = id
  · subst itself
    have old : leaf.number ≤ tree.issued :=
      (orders.consistent.wellFormed.forest.numbered orders.present).2
    rw [Edit.remade_of_spared old orders.spared, Edit.remade_of_spared old orders.spared]
    rfl
  · simp only [Edit.remade, if_neg itself]

theorem derived?_eq
    (orders : tree.BothOrders id delta edit updated edited first second)
    (node : NodeId) :
    first.derived? node = second.derived? node := by
  have plans := orders.blueprint_eq
  refine orders.editsThen.consistent.derived?_congr orders.updatesThen.consistent plans ?_ node
  intro leaf bare
  by_cases there : first.blueprint.Present leaf
  · exact orders.own?_eq_of_present there bare
  · have nowhere : ∀ tree : Tree, ¬ tree.blueprint.Present leaf → tree.own? leaf = none := by
      intro tree absent
      rw [own?, Option.map_eq_none_iff]
      cases found : tree.get? leaf with
      | none => rfl
      | some node => exact absurd (present_blueprint found) absent
    rw [nowhere first there, nowhere second (plans ▸ there)]

end BothOrders

/--
Two trees look alike if they have the same root and the same nodes, where props that are
kept aside count as merged.
-/
structure Alike (first second : Tree) : Prop where
  root : first.root = second.root
  nodes : ∀ id,
    (first.get? id).map (fun node => (node.entry, node.derived)) =
      (second.get? id).map fun node => (node.entry, node.derived)

theorem alike_of_blueprint
    (plans : first.blueprint = second.blueprint)
    (parsers : ∀ id, first.derived? id = second.derived? id) :
    first.Alike second := by
  refine ⟨congrArg Blueprint.root plans, ?_⟩
  intro id
  have entries : (first.get? id).map Node.entry = (second.get? id).map Node.entry :=
    congrFun (congrArg Blueprint.entryOf? plans) id
  have derived := parsers id
  rw [derived?, derived?] at derived
  cases found : first.get? id <;> cases found' : second.get? id <;>
    simp_all

end Tree

/-- The edit is no update of the node, and drops neither it nor a node above it. -/
def Edit.Spares (edit : Edit) (tree : Tree) (id : NodeId) : Prop :=
  match edit with
  | .update node _ => node ≠ id
  | .destroy node => node ∉ tree.lineage id
  | _ => True

namespace Tree

variable {tree : Tree} {id : NodeId} {edit : Edit} {delta : Props}

namespace Consistent

/-- The answer to an edit is the verdict of the rules. -/
theorem fst_apply (consistent : tree.Consistent) (edit : Edit) :
    (tree.apply edit).1 = tree.blueprint.verdict tree.derived? edit := by
  rw [consistent.apply_eq]
  cases tree.blueprint.verdict tree.derived? edit <;> rfl

theorem snd_apply_of_error
    (consistent : tree.Consistent)
    {error : EditError}
    (refused : tree.blueprint.verdict tree.derived? edit = .error error) :
    (tree.apply edit).2 = tree := by
  rw [consistent.apply_eq, refused]
  rfl

theorem present_apply
    (consistent : tree.Consistent)
    {result : Option NodeId}
    (present : tree.blueprint.Present id)
    (spares : edit.Spares tree id)
    (accepted : tree.blueprint.verdict tree.derived? edit = .ok result) :
    (tree.apply edit).2.blueprint.Present id := by
  rw [(consistent.performs accepted).blueprint]
  refine Blueprint.present_perform consistent.wellFormed.forest present ?_
  rintro node rfl
  rcases Blueprint.checkDestroy_eq_ok_iff.1 (Blueprint.answer_eq_ok_iff.1 accepted).1 with
    ⟨entry, found, _⟩
  refine ⟨Blueprint.present_of_entryOf? found, ?_⟩
  rw [← consistent.wellFormed.lineage_eq present]
  exact spares

/-- An edit that spares a node does not change the answer to an update of it. -/
theorem fst_apply_update_after
    (consistent : tree.Consistent)
    (present : tree.blueprint.Present id)
    (spares : edit.Spares tree id)
    (spared : ∀ delta, edit ≠ .update id delta)
    (delta : Props) :
    ((tree.apply edit).2.apply (.update id delta)).1 = (tree.apply (.update id delta)).1 := by
  cases accepted : tree.blueprint.verdict tree.derived? edit with
  | error error => rw [consistent.snd_apply_of_error accepted]
  | ok result =>
      have performs := consistent.performs accepted
      have stays := consistent.present_apply present spares accepted
      rw [performs.consistent.fst_apply, consistent.fst_apply]
      refine performs.consistent.verdict_update_congr consistent ?_ delta
      rcases stays.exists_entryOf? with ⟨next, later⟩
      rcases present.exists_entryOf? with ⟨entry, found⟩
      rw [later, found, Option.map_some, Option.map_some]
      rw [performs.blueprint] at later
      rcases Blueprint.kind_perform consistent.wellFormed.forest found later with
        same | ⟨given, itself, _⟩
      · rw [same]
      · exact absurd itself (spared given)

/-- An update does not change the answer to an edit that is no update of the same node. -/
theorem fst_apply_after_update
    (consistent : tree.Consistent)
    (spared : ∀ delta, edit ≠ .update id delta)
    (delta : Props) :
    ((tree.apply (.update id delta)).2.apply edit).1 = (tree.apply edit).1 := by
  cases accepted : tree.blueprint.verdict tree.derived? (.update id delta) with
  | error error => rw [consistent.snd_apply_of_error accepted]
  | ok result =>
      have performs := consistent.performs accepted
      rw [performs.consistent.fst_apply, consistent.fst_apply]
      exact consistent.verdict_withProps performs.consistent performs.blueprint spared

/-- An update and an edit that spares its node do the same in both orders. -/
theorem alike_apply_update
    (consistent : tree.Consistent)
    (present : tree.blueprint.Present id)
    (spares : edit.Spares tree id)
    (spared : ∀ delta, edit ≠ .update id delta)
    (delta : Props) :
    ((tree.apply (.update id delta)).2.apply edit).2.Alike
      ((tree.apply edit).2.apply (.update id delta)).2 := by
  have updated := consistent.apply (.update id delta)
  have edited := consistent.apply edit
  have updatesThen := consistent.fst_apply_update_after present spares spared delta
  have editsThen := consistent.fst_apply_after_update spared delta
  rw [edited.fst_apply, consistent.fst_apply] at updatesThen
  rw [updated.fst_apply, consistent.fst_apply] at editsThen
  cases updates : tree.blueprint.verdict tree.derived? (.update id delta) with
  | error error =>
      rw [updates] at updatesThen
      rw [consistent.snd_apply_of_error updates, edited.snd_apply_of_error updatesThen]
      exact alike_of_blueprint rfl fun _ => rfl
  | ok answer =>
      rw [updates] at updatesThen
      cases edits : tree.blueprint.verdict tree.derived? edit with
      | error error =>
          rw [edits] at editsThen
          rw [consistent.snd_apply_of_error edits, updated.snd_apply_of_error editsThen]
          exact alike_of_blueprint rfl fun _ => rfl
      | ok result =>
          rw [edits] at editsThen
          have orders : tree.BothOrders id delta edit _ _ _ _ :=
            { consistent
              present
              spared
              updates := consistent.performs updates
              edits := consistent.performs edits
              editsThen := updated.performs editsThen
              updatesThen := edited.performs updatesThen }
          exact alike_of_blueprint orders.blueprint_eq orders.derived?_eq

end Consistent

/--
An update of a node commutes with every edit that is no update of that node and drops
neither it nor a node above it.  In both orders both edits get the same answers, and at
the end the same nodes are there, with the same children, parents and parsers, and with
the same kinds and decorations, if props that are kept aside are counted as merged.
-/
theorem update_commutes
    (options : TreeOptions)
    (edits : List Edit)
    (id : NodeId)
    (delta : Props)
    (edit : Edit)
    (live : (((withOptions options).after edits).get? id).isSome = true)
    (spares : edit.Spares ((withOptions options).after edits) id) :
    let tree := (withOptions options).after edits
    let update := Edit.update id delta
    ((tree.apply edit).2.apply update).1 = (tree.apply update).1 ∧
      ((tree.apply update).2.apply edit).1 = (tree.apply edit).1 ∧
      ((tree.apply update).2.apply edit).2.Alike ((tree.apply edit).2.apply update).2 := by
  intro tree update
  have consistent : tree.Consistent := (consistent_withOptions options).after edits
  have present : tree.blueprint.Present id := by
    rcases Option.isSome_iff_exists.1 live with ⟨node, found⟩
    exact present_blueprint found
  have spared : ∀ given, edit ≠ .update id given := by
    rintro given rfl
    exact spares rfl
  refine ⟨?_, ?_, ?_⟩
  · exact consistent.fst_apply_update_after present spares spared delta
  · exact consistent.fst_apply_after_update spared delta
  · exact consistent.alike_apply_update present spares spared delta

/-- A label is kept aside until there is a child, or it is merged when the child is there. -/
theorem update_commutes_with_first_child :
    let edits : List Edit := [.create "string" { text := some "a" }, .create "and" {}]
    let tree := (withOptions {}).after edits
    let update := Edit.update { number := 2 } { label := some "pair" }
    let edit := Edit.appendChild { number := 2 } { number := 1 }
    (tree.get? { number := 2 }).isSome = true ∧ edit.Spares tree { number := 2 } ∧
      (tree.apply edit).1 = .ok (some { number := 2 }) ∧
      ((tree.apply update).2.apply edit).2.Alike ((tree.apply edit).2.apply update).2 := by
  intro edits tree update edit
  refine ⟨rfl, trivial, rfl, ?_⟩
  exact (update_commutes {} edits { number := 2 } { label := some "pair" } edit rfl trivial).2.2

end Tree

end ParserGraph

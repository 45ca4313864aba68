import ParserGraph.Proofs.Tree.Runs

/-!
# What an edit leaves alone

Compiling anew reaches the nodes on the way up and no others.  So a node that an update
merges props into is not touched again by the same update, and a leaf keeps all that it
is made of until it is updated itself: nothing but its parent may change.
-/

namespace ParserGraph

/-- No node lies on the way up from its parent. -/
theorem Blueprint.IsForest.not_mem_lineageFrom_parent?
    {plan : Blueprint}
    {id : NodeId}
    (forest : plan.IsForest)
    (present : plan.Present id) :
    id ∉ plan.lineageFrom (plan.parent? id) := by
  have distinct : (plan.lineage id).Nodup := forest.nodup_lineageFrom (some id)
  rw [forest.lineage_eq present] at distinct
  exact (List.nodup_cons.1 distinct).1

namespace Tree

variable {tree : Tree} {id other parent child : NodeId} {place : Option NodeId}

/-! ## Compiling anew -/

theorem get?_refreshedAt_of_ne (different : other ≠ id) :
    (tree.refreshedAt id).get? other = tree.get? other := by
  cases found : tree.get? id with
  | none => rw [refreshedAt, found]
  | some node =>
      have named : (node.refreshed tree.derived?).id = id := by
        rw [Node.id_refreshed, id_of_get? found]
      have there : tree.get? (node.refreshed tree.derived?).id = some node := by
        rw [named, found]
      rw [refreshedAt_eq found, get?_put there, named, if_neg different]

theorem get?_foldl_refreshedAt
    {ids : List NodeId}
    (unreached : id ∉ ids) :
    (ids.foldl refreshedAt tree).get? id = tree.get? id := by
  induction ids generalizing tree with
  | nil => rfl
  | cons first rest hypothesis =>
      rcases not_or.1 (mt List.mem_cons.2 unreached) with ⟨different, later⟩
      rw [List.foldl_cons, hypothesis later, get?_refreshedAt_of_ne different]

/-- What does not lie on the way up is not touched. -/
theorem get?_recompiledFrom (unreached : other ∉ tree.blueprint.lineageFrom place) :
    (tree.recompiledFrom place).get? other = tree.get? other := by
  rw [recompiledFrom, get?_foldl_refreshedAt unreached]

/-- A compiled node with props merged is not touched again on the way up from its parent. -/
theorem Consistent.get?_updated
    (consistent : tree.Consistent)
    {node next : Node}
    {delta : Props}
    (found : tree.get? id = some node)
    (compiled : node.isCompiled = true)
    (done : node.updated tree.derived? delta = .ok next) :
    (tree.updated id delta).get? id = some next := by
  have settled := consistent.coherent id node found List.not_mem_nil
  have named := id_of_get? found
  have same : next.id = id :=
    (Node.entry_updated (settled.staged_eq_none compiled) done).1.trans named
  have there : tree.get? next.id = some node := by rw [same, found]
  have unreached : id ∉ (tree.put next).blueprint.lineageFrom node.parent := by
    rw [consistent.blueprint_merged found compiled done, Blueprint.lineageFrom_withProps]
    have above : tree.blueprint.parent? id = node.parent :=
      Blueprint.parent?_eq (entryOf?_blueprint found)
    rw [← above]
    exact consistent.wellFormed.forest.not_mem_lineageFrom_parent? (present_blueprint found)
  have result : tree.updated id delta = (tree.put next).recompiledFrom node.parent := by
    simp [Tree.updated, found, compiled, done]
  rw [result, get?_recompiledFrom unreached, get?_put there, if_pos same.symm]

/-! ## Placing children and linking them -/

theorem get?_arranged_of_ne (different : id ≠ parent) (arrange : List NodeId → List NodeId) :
    (tree.arranged parent arrange).get? id = tree.get? id := by
  refine (get?_modify ?_ id).trans (if_neg different)
  intro node named
  exact named

theorem get?_arranged (parent : NodeId) (arrange : List NodeId → List NodeId) (id : NodeId) :
    (tree.arranged parent arrange).get? id =
      (tree.get? id).map fun node =>
        { node with children := if id = parent then arrange node.children else node.children } := by
  rw [Tree.arranged, get?_modify]
  · split_ifs
    · rfl
    · simp
  · intro node named
    exact named

theorem get?_linked (child : NodeId) (above : Option NodeId) (id : NodeId) :
    (tree.linked child above).get? id =
      (tree.get? id).map fun node =>
        { node with parent := if id = child then above else node.parent } := by
  rw [Tree.linked, get?_modify]
  · split_ifs
    · rfl
    · simp
  · intro node named
    exact named

/-! ## Leaves -/

/-- The node of an id, apart from its parent. -/
def own? (tree : Tree) (id : NodeId) : Option Node :=
  (tree.get? id).map fun node => { node with parent := none }

theorem own?_congr {first second : Tree} (same : first.get? id = second.get? id) :
    first.own? id = second.own? id := by
  rw [own?, own?, same]

@[simp]
theorem own?_linked (child : NodeId) (above : Option NodeId) (id : NodeId) :
    (tree.linked child above).own? id = tree.own? id := by
  rw [own?, get?_linked, Option.map_map]
  rfl

theorem own?_arranged_of_ne (different : id ≠ parent) (arrange : List NodeId → List NodeId) :
    (tree.arranged parent arrange).own? id = tree.own? id :=
  own?_congr (get?_arranged_of_ne different arrange)

/-- No leaf lies on the way up from a combinator. -/
theorem WellFormed.not_mem_lineageFrom
    (wellFormed : tree.WellFormed)
    (leaf : ¬ tree.Combines id)
    (combines : ∀ upper, place = some upper → tree.Combines upper) :
    id ∉ tree.blueprint.lineageFrom place := by
  cases place with
  | none => simp
  | some upper =>
      intro member
      exact leaf (wellFormed.combines_of_mem_lineage (combines upper rfl) id member)

/-- Children that are placed anew leave the leaves. -/
theorem Consistent.own?_relinked
    (consistent : tree.Consistent)
    {arrange : List NodeId → List NodeId}
    {above : Option NodeId}
    (forest : ((tree.blueprint.arranged parent arrange).linked child above).IsForest)
    (combines : tree.Combines parent)
    (leaf : ¬ tree.Combines id) :
    (((tree.arranged parent arrange).linked child above).recompiledFrom (some parent)).own? id =
      tree.own? id := by
  have different : id ≠ parent := by
    rintro rfl
    exact leaf combines
  have unreached := (consistent.wellFormed.relinked forest).not_mem_lineageFrom
    (mt (combines_linked.trans combines_arranged).1 leaf)
    (fun _ same => Option.some.inj same ▸ combines_linked.2 (combines_arranged.2 combines))
  rw [own?_congr (get?_recompiledFrom unreached), own?_linked, own?_arranged_of_ne different]

theorem Consistent.own?_rearranged
    (consistent : tree.Consistent)
    {arrange : List NodeId → List NodeId}
    (forest : (tree.blueprint.arranged parent arrange).IsForest)
    (combines : tree.Combines parent)
    (leaf : ¬ tree.Combines id) :
    ((tree.arranged parent arrange).recompiledFrom (some parent)).own? id = tree.own? id := by
  have different : id ≠ parent := by
    rintro rfl
    exact leaf combines
  have unreached := (consistent.wellFormed.arranged forest).not_mem_lineageFrom
    (mt combines_arranged.1 leaf)
    (fun _ same => Option.some.inj same ▸ combines_arranged.2 combines)
  rw [own?_congr (get?_recompiledFrom unreached), own?_arranged_of_ne different]

theorem Consistent.own?_detached
    (consistent : tree.Consistent)
    (member : child ∈ tree.blueprint.childrenOf parent)
    (leaf : ¬ tree.Combines id) :
    (tree.detached parent child).own? id = tree.own? id :=
  consistent.own?_relinked (consistent.wellFormed.forest.detached member)
    (consistent.wellFormed.combines_of_mem member) leaf

theorem Consistent.own?_freed
    (consistent : tree.Consistent)
    (node : NodeId)
    (leaf : ¬ tree.Combines id) :
    (tree.freed node).own? id = tree.own? id := by
  rw [Tree.freed, ← parent?_blueprint]
  cases above : tree.blueprint.parent? node with
  | none => rfl
  | some parent =>
      exact consistent.own?_detached (consistent.wellFormed.forest.mem_childrenOf.2 above) leaf

theorem combines_congr {first second : Tree} (same : first.get? id = second.get? id) :
    first.Combines id ↔ second.Combines id := by
  rw [Combines, Combines, same]

/-- Without a combinator there, what is found is a leaf. -/
theorem isLeaf_of_not_combines
    {node : Node}
    (leaf : ¬ tree.Combines id)
    (found : tree.get? id = some node) :
    node.kind.isLeaf = true := by
  cases kind : node.kind.isLeaf with
  | true => rfl
  | false => exact absurd ⟨node, found, kind⟩ leaf

/-- An update of another node leaves a leaf. -/
theorem Consistent.own?_updated_of_ne
    (consistent : tree.Consistent)
    {delta : Props}
    (different : id ≠ other)
    (leaf : ¬ tree.Combines id) :
    (tree.updated other delta).own? id = tree.own? id := by
  rw [Tree.updated]
  cases found : tree.get? other with
  | none => rfl
  | some node =>
      have named := id_of_get? found
      simp only
      split_ifs with compiled
      · cases done : node.updated tree.derived? delta with
        | error error => rfl
        | ok next =>
            have settled := consistent.coherent other node found List.not_mem_nil
            have same : next.id = other :=
              (Node.entry_updated (settled.staged_eq_none compiled) done).1.trans named
            have there : tree.get? next.id = some node := by rw [same, found]
            have kept : (tree.put next).get? id = tree.get? id := by
              rw [get?_put there, same, if_neg different]
            have unreached : id ∉ (tree.put next).blueprint.lineageFrom node.parent :=
              (consistent.wellFormed_merged found compiled done).not_mem_lineageFrom
                (mt (combines_congr kept).1 leaf)
                fun _ above => consistent.combines_merged found compiled done above
            exact own?_congr ((get?_recompiledFrom unreached).trans kept)
      · refine own?_congr ((get?_modify ?_ id).trans (if_neg different))
        intro node named
        exact named

end Tree

/-! ## What an edit makes of a leaf -/

/-- An update of a node without children does not look at any parser. -/
theorem Node.updated_of_childless
    {node : Node}
    (childless : node.children = [])
    (first second : NodeId → Option Parser)
    (delta : Props) :
    node.updated first delta = node.updated second delta := by
  simp only [updated, childless]
  rfl

/-- An update leaves the parent. -/
theorem Node.updated_alone (node : Node) (derived? : NodeId → Option Parser) (delta : Props) :
    ({ node with parent := none } : Node).updated derived? delta =
      (node.updated derived? delta).map fun next => { next with parent := none } := by
  simp only [updated]
  split_ifs
  · rfl
  · cases node.children.mapM derived? with
    | none => rfl
    | some parsers =>
        simp only
        cases (node.kind.withProps delta).combine parsers with
        | error error => rfl
        | ok base => rfl

/-- What an accepted edit makes of a leaf that stays, or of no node, apart from the parent. -/
def Edit.remade (edit : Edit) (issued : Nat) (id : NodeId) (own : Option Node) : Option Node :=
  match edit with
  | .create tag props =>
      if id = { number := issued + 1 } then
        (Kind.resolve tag props).toOption.map fun kind => .created id kind props
      else own
  | .update node delta =>
      if id = node then
        own.bind fun node => (node.updated (fun _ => none) delta).toOption
      else own
  | _ => own

/-- Only its own updates make something else of a leaf. -/
theorem Edit.remade_of_spared
    {edit : Edit}
    {issued : Nat}
    {id : NodeId}
    (old : id.number ≤ issued)
    (spared : ∀ delta, edit ≠ .update id delta)
    (own : Option Node) :
    edit.remade issued id own = own := by
  cases edit with
  | create tag props =>
      refine if_neg ?_
      rintro rfl
      exact absurd old (Nat.not_succ_le_self issued)
  | update node delta =>
      refine if_neg ?_
      rintro rfl
      exact spared delta rfl
  | _ => rfl

namespace Tree

variable {tree : Tree} {id : NodeId} {edit : Edit}

/-- An update of a leaf looks at nothing but the leaf. -/
theorem Consistent.own?_updated_self
    (consistent : tree.Consistent)
    {delta : Props}
    (leaf : ¬ tree.Combines id)
    (allowed : tree.blueprint.checkUpdate tree.derived? id delta = .ok ()) :
    (tree.updated id delta).own? id =
      (tree.own? id).bind fun node => (node.updated (fun _ => none) delta).toOption := by
  rcases exists_get?_of_present (Blueprint.present_of_checkUpdate allowed) with ⟨node, found⟩
  have settled := consistent.coherent id node found List.not_mem_nil
  have isLeaf := isLeaf_of_not_combines leaf found
  have childless := consistent.wellFormed.children_of_isLeaf found isLeaf
  have compiled := settled.isCompiled_of_isLeaf isLeaf
  rw [checkUpdate_blueprint found settled, if_pos compiled] at allowed
  cases done : node.updated tree.derived? delta with
  | error error => simp [done, Except.map] at allowed
  | ok next =>
      rw [own?, own?, consistent.get?_updated found compiled done, found, Option.map_some,
        Option.map_some, Option.bind_some, Node.updated_alone,
        Node.updated_of_childless childless _ tree.derived?, done]
      rfl

/-- A new node has no parent. -/
theorem WellFormed.own?_created (wellFormed : tree.WellFormed) (kind : Kind) (props : Props) :
    (tree.added (Node.created { number := tree.issued + 1 } kind props)).own? id =
      if id = { number := tree.issued + 1 } then some (.created id kind props)
      else tree.own? id := by
  have fresh := wellFormed.get?_next
  rw [← Node.id_created { number := tree.issued + 1 } kind props] at fresh
  rw [own?, get?_added fresh, Node.id_created]
  split_ifs with new
  · subst new
    rw [Option.map_some, Node.created]
    split_ifs <;> rfl
  · rfl

/-- What an accepted edit makes of a leaf depends on the leaf and the number of nodes only. -/
theorem Consistent.own?_perform
    (consistent : tree.Consistent)
    {result : Option NodeId}
    (accepted : tree.blueprint.verdict tree.derived? edit = .ok result)
    (leaf : ¬ tree.Combines id)
    (stays : ∀ node, edit = .destroy node → (tree.perform edit).blueprint.Present id) :
    (tree.perform edit).own? id = edit.remade tree.issued id (tree.own? id) := by
  have wellFormed := consistent.wellFormed
  have nextForest := wellFormed.forest.perform accepted
  cases edit with
  | create tag props =>
      simp only [Tree.perform, Edit.remade]
      cases resolved : Kind.resolve tag props with
      | error error =>
          simp [Blueprint.verdict, Blueprint.checkCreate, resolved, Except.map] at accepted
      | ok kind => exact wellFormed.own?_created kind props
  | update node delta =>
      have allowed := (Blueprint.answer_eq_ok_iff.1 accepted).1
      simp only [Tree.perform, Edit.remade]
      split_ifs with same
      · subst same
        exact consistent.own?_updated_self leaf allowed
      · exact consistent.own?_updated_of_ne same leaf
  | appendChild parent child =>
      rcases Blueprint.checkAppend_eq_ok_iff.1 (Blueprint.answer_eq_ok_iff.1 accepted).1 with
        ⟨attachable, _⟩
      rcases Blueprint.checkAttachable_eq_ok_iff.1 attachable with
        ⟨entry, _, found, _, combinator, _, _, _⟩
      exact consistent.own?_relinked nextForest (combines_iff.2 ⟨entry, found, combinator⟩) leaf
  | insertBefore parent child before =>
      rcases Blueprint.checkInsert_eq_ok_iff.1 (Blueprint.answer_eq_ok_iff.1 accepted).1 with
        ⟨entry, _, found, _, combinator, _, _⟩
      have combines : tree.Combines parent := combines_iff.2 ⟨entry, found, combinator⟩
      simp only [Tree.perform, Blueprint.perform, Edit.remade] at nextForest ⊢
      split_ifs at nextForest ⊢ with moved still
      · apply own?_congr
        apply get?_recompiledFrom
        exact wellFormed.not_mem_lineageFrom leaf
          fun _ same => Option.some.inj same ▸ combines
      · exact consistent.own?_rearranged nextForest combines leaf
      · exact consistent.own?_relinked nextForest combines leaf
  | removeChild parent child =>
      rcases Blueprint.checkDetach_eq_ok_iff.1 (Blueprint.answer_eq_ok_iff.1 accepted).1 with
        ⟨entry, found, member, _⟩
      rw [← Blueprint.childrenOf_eq found] at member
      exact consistent.own?_detached member leaf
  | destroy node =>
      rcases exists_get?_of_present (stays node rfl) with ⟨later, found⟩
      simp only [Tree.perform, Edit.remade] at found ⊢
      rw [(consistent.freed node).wellFormed.get?_without] at found
      split_ifs at found with dropped
      rw [← consistent.own?_freed node leaf]
      apply own?_congr
      rw [(consistent.freed node).wellFormed.get?_without, if_neg dropped]
  | setRoot node => rfl
  | clearRoot => rfl

end Tree

end ParserGraph

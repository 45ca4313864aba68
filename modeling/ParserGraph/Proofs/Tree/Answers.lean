import ParserGraph.Proofs.Tree.Consistency

/-!
# Answers to edits

On a consistent tree an edit is answered as the rules on the blueprint say, with the
parsers that the tree has kept.  If it is refused, the tree is as it was before, since
nothing fails once the tree has been changed.  Otherwise the tree is what the edit
makes of it.
-/

namespace ParserGraph

namespace Change

variable {Result Next : Type} {tree : Tree} {id parent child : NodeId} {found : Node}

/-- What is answered where a check decides, and the tree behind it. -/
def outcome
    (check : Except EditError Result)
    (tree after : Tree) :
    Except EditError Result × Tree :=
  match check with
  | .ok result => (.ok result, after)
  | .error error => (.error error, tree)

@[simp]
theorem outcome_ok (result : Result) (tree after : Tree) :
    outcome (.ok result) tree after = (.ok result, after) := rfl

@[simp]
theorem outcome_error (error : EditError) (tree after : Tree) :
    outcome (.error error : Except EditError Result) tree after = (.error error, tree) := rfl

/-- What is answered may be put differently at the end. -/
theorem on_answer
    {first : Change Result}
    {check : Except EditError Result}
    {after : Tree}
    (done : first.on tree = outcome check tree after)
    (answer : Result → Next) :
    (first >>= fun result => pure (answer result)).on tree =
      outcome (check.map answer) tree after := by
  rw [on_bind, done]
  cases check <;> rfl

/-! ## Checks -/

theorem on_passBelow_self (child : NodeId) :
    (passBelow child child).on tree = (.error .cycleDetected, tree) := by
  simp [passBelow]

theorem on_passBelow_of_ne (there : tree.get? id = some found) (different : id ≠ child) :
    (passBelow child id).on tree = (.ok (), tree) := by
  simp [passBelow, on_map, different, on_node there]

/-- A walk up is stopped where it comes to the child. -/
theorem on_forM_passBelow
    {ids : List NodeId}
    (present : ∀ id ∈ ids, tree.blueprint.Present id) :
    (ids.forM (passBelow child)).on tree =
      (if child ∈ ids then .error .cycleDetected else .ok (), tree) := by
  induction ids with
  | nil => rfl
  | cons id rest hypothesis =>
      have others := hypothesis fun other member => present other (List.mem_cons_of_mem id member)
      rcases Tree.exists_get?_of_present (present id List.mem_cons_self) with ⟨node, found⟩
      by_cases stopped : id = child
      · rw [stopped, if_pos List.mem_cons_self]
        exact on_bind_error (on_passBelow_self child)
      · apply (on_bind_ok (on_passBelow_of_ne found stopped)).trans
        simp only [others, List.mem_cons, Ne.symm stopped, false_or]

theorem on_checkAttachable (wellFormed : tree.WellFormed) (parent child : NodeId) :
    (checkAttachable parent child).on tree =
      (tree.blueprint.checkAttachable parent child, tree) := by
  have root : tree.blueprint.root = tree.root := rfl
  rw [checkAttachable]
  simp only [Blueprint.checkAttachable, Blueprint.entry, root]
  cases parentFound : tree.get? parent with
  | none =>
      rw [on_bind_error (on_node_of_missing parentFound),
        Tree.entryOf?_blueprint_eq_none parentFound]
      rfl
  | some parentNode =>
      rw [on_bind_ok (on_node parentFound), Tree.entryOf?_blueprint parentFound]
      cases childFound : tree.get? child with
      | none =>
          rw [on_bind_error (on_node_of_missing childFound),
            Tree.entryOf?_blueprint_eq_none childFound]
          rfl
      | some childNode =>
          have parentThere := Tree.present_blueprint parentFound
          have present : ∀ id ∈ tree.blueprint.lineage parent, tree.blueprint.Present id :=
            fun _ member => wellFormed.forest.present_of_mem_lineage parentThere member
          rw [on_bind_ok (on_node childFound), Tree.entryOf?_blueprint childFound]
          simp only [Except.bind_ok, Node.isLeaf_entry, Node.parent_entry]
          split_ifs with leaf attached
          · rfl
          · rw [on_bind_ok on_get]
            simp only [attached, if_true]
            rfl
          · rw [on_bind_ok on_get, wellFormed.lineage_eq parentThere]
            simp only [attached]
            exact on_forM_passBelow present

theorem on_checkCapacity (parent : NodeId) :
    (checkCapacity parent).on tree = (tree.blueprint.checkCapacity parent, tree) := by
  rw [checkCapacity, Blueprint.checkCapacity, Blueprint.entry]
  cases found : tree.get? parent with
  | none =>
      rw [on_bind_error (on_node_of_missing found), Tree.entryOf?_blueprint_eq_none found]
      rfl
  | some node =>
      have options : tree.blueprint.options = tree.options := rfl
      rw [on_bind_ok (on_node found), on_bind_ok on_get, Tree.entryOf?_blueprint found]
      simp only [Except.bind_ok, Node.maxChildren_entry, Node.children_entry, Node.tag_entry,
        options]
      split_ifs <;> rfl

/-! ## Moving children -/

theorem on_modifyNode_of_present
    (present : tree.blueprint.Present id)
    (change : Node → Node) :
    (modifyNode id change).on tree = (.ok (), tree.modify id change) := by
  rcases Tree.exists_get?_of_present present with ⟨node, found⟩
  rw [modifyNode, on_bind_ok (on_node found), on_modify]

/-- Children are placed anew, and a node gets another parent. -/
theorem on_relink
    (presentParent : tree.blueprint.Present parent)
    (presentChild : tree.blueprint.Present child)
    (place : List NodeId → List NodeId)
    (above : Option NodeId) :
    (do
      modifyNode parent fun node => { node with children := place node.children }
      modifyNode child fun node => { node with parent := above } : Change Unit).on tree =
        (.ok (), (tree.arranged parent place).linked child above) := by
  have arranged := on_modifyNode_of_present presentParent fun node =>
    { node with children := place node.children }
  have present : (tree.arranged parent place).blueprint.Present child := by
    rw [Tree.blueprint_arranged]
    exact Blueprint.present_arranged.2 presentChild
  rw [on_bind_ok arranged]
  exact on_modifyNode_of_present present fun node => { node with parent := above }

/-- Where a child was put in front of another one, all can be compiled anew from their parent. -/
theorem wellFormed_rearranged
    (wellFormed : tree.WellFormed)
    (combines : tree.Combines parent)
    (moved : child ∈ tree.blueprint.childrenOf parent)
    (before : NodeId) :
    (tree.arranged parent fun children =>
        Node.insertChild (children.erase child) child before).WellFormed ∧
      (tree.arranged parent fun children =>
        Node.insertChild (children.erase child) child before).Combines parent := by
  have reordered := (Node.insertChild_perm ((tree.blueprint.childrenOf parent).erase child)
    child before).trans (List.perm_cons_erase moved).symm
  have present := Blueprint.present_of_mem_childrenOf moved
  refine ⟨wellFormed.arranged (wellFormed.forest.arranged present reordered), ?_⟩
  exact Tree.combines_arranged.2 combines

/-- A child is put in front of another one of the same parent. -/
theorem on_rearrange
    (wellFormed : tree.WellFormed)
    (combines : tree.Combines parent)
    (moved : child ∈ tree.blueprint.childrenOf parent)
    (before : NodeId) :
    (do
      modifyNode parent fun node =>
        { node with children := Node.insertChild (node.children.erase child) child before }
      recompileUpwards parent
      accept : Change Unit).on tree =
        (.ok (), ((tree.arranged parent fun children =>
          Node.insertChild (children.erase child) child before).recompiledFrom
            (some parent)).accepted) := by
  have present := Blueprint.present_of_mem_childrenOf moved
  have arranged := on_modifyNode_of_present present fun node =>
    { node with children := Node.insertChild (node.children.erase child) child before }
  rcases wellFormed_rearranged wellFormed combines moved before with ⟨next, still⟩
  rw [on_bind_ok arranged]
  exact on_bind_ok (on_recompileUpwards next still)

/-- A child that may come below a parent is put there; nothing is compiled anew yet. -/
def link (parent child : NodeId) (place : List NodeId → List NodeId) : Change Unit := do
  checkAttachable parent child
  checkCapacity parent
  modifyNode parent fun node => { node with children := place node.children }
  modifyNode child fun node => { node with parent := some parent }

/-- A child that its parent can do without is taken from it; nothing is compiled anew yet. -/
def unlink (parent child : NodeId) : Change Unit := do
  let node ← node parent
  if !node.children.contains child then
    throw (.childNotFound parent child)
  if node.isCompiled && node.children.length == 1 then
    throw (.arityUnderflow parent node.kind.tag)
  modifyNode parent fun node => { node with children := node.children.erase child }
  modifyNode child fun node => { node with parent := none }

theorem detach_eq (parent child : NodeId) :
    detach parent child = (do
      unlink parent child
      recompileUpwards parent) := by
  rw [detach, unlink, bind_assoc]
  congr 1
  funext node
  split_ifs <;> simp only [bind_assoc]

theorem on_link
    (wellFormed : tree.WellFormed)
    (parent child : NodeId)
    (place : List NodeId → List NodeId) :
    (link parent child place).on tree =
      outcome (tree.blueprint.checkAppend parent child) tree
        ((tree.arranged parent place).linked child (some parent)) := by
  have first := on_checkAttachable wellFormed parent child
  have second : (checkCapacity parent).on tree = (tree.blueprint.checkCapacity parent, tree) :=
    on_checkCapacity parent
  rw [link, Blueprint.checkAppend]
  cases attachable : tree.blueprint.checkAttachable parent child with
  | error error =>
      rw [attachable] at first
      exact on_bind_error first
  | ok _ =>
      rcases Blueprint.checkAttachable_eq_ok_iff.1 attachable with
        ⟨parentEntry, childEntry, parentFound, childFound, _⟩
      rw [attachable] at first
      rw [on_bind_ok first, Except.bind_ok]
      cases capable : tree.blueprint.checkCapacity parent with
      | error error =>
          rw [capable] at second
          exact on_bind_error second
      | ok _ =>
          rw [capable] at second
          rw [on_bind_ok second]
          exact on_relink (Blueprint.present_of_entryOf? parentFound)
            (Blueprint.present_of_entryOf? childFound) place (some parent)

theorem on_unlink (wellFormed : tree.WellFormed) (parent child : NodeId) :
    (unlink parent child).on tree =
      outcome (tree.blueprint.checkDetach tree.derived? parent child) tree
        ((tree.arranged parent fun children => children.erase child).linked child none) := by
  rw [unlink]
  simp only [Blueprint.checkDetach, Blueprint.entry]
  cases found : tree.get? parent with
  | none =>
      rw [on_bind_error (on_node_of_missing found), Tree.entryOf?_blueprint_eq_none found]
      rfl
  | some node =>
      have own : (tree.derived? parent).isSome = node.isCompiled := by
        simp [Tree.derived?, found, Node.isCompiled]
      rw [on_bind_ok (on_node found), Tree.entryOf?_blueprint found]
      simp only [Except.bind_ok, Node.children_entry, Node.tag_entry, own]
      by_cases member : child ∈ node.children
      · have listed : child ∈ tree.blueprint.childrenOf parent := by
          rw [Tree.childrenOf_blueprint found]
          exact member
        have moved := on_relink (Tree.present_blueprint found)
          (Blueprint.present_of_parent? (wellFormed.forest.mem_childrenOf.1 listed))
          (fun children => children.erase child) none
        by_cases last : (node.isCompiled && node.children.length == 1) = true
        · simp [member, last]
        · simpa [member, last] using moved
      · simp [member]

/-- Where a child was put below a parent, all can be compiled anew from there. -/
theorem wellFormed_linked
    (wellFormed : tree.WellFormed)
    {place : List NodeId → List NodeId}
    (placed : (place (tree.blueprint.childrenOf parent)).Perm
      (child :: tree.blueprint.childrenOf parent))
    (allowed : tree.blueprint.checkAppend parent child = .ok ()) :
    ((tree.arranged parent place).linked child (some parent)).WellFormed ∧
      ((tree.arranged parent place).linked child (some parent)).Combines parent := by
  rcases Blueprint.checkAppend_eq_ok_iff.1 allowed with ⟨attachable, _⟩
  rcases Blueprint.checkAttachable_eq_ok_iff.1 attachable with
    ⟨parentEntry, _, parentFound, _, combinator, _⟩
  refine ⟨wellFormed.relinked (wellFormed.forest.appended allowed placed), ?_⟩
  rw [Tree.combines_linked, Tree.combines_arranged]
  exact Tree.combines_iff.2 ⟨parentEntry, parentFound, combinator⟩

/-- Where a child was taken from its parent, all can be compiled anew from there. -/
theorem wellFormed_unlinked
    (wellFormed : tree.WellFormed)
    (allowed : tree.blueprint.checkDetach tree.derived? parent child = .ok ()) :
    ((tree.arranged parent fun children => children.erase child).linked child none).WellFormed ∧
      ((tree.arranged parent fun children => children.erase child).linked child none).Combines
        parent := by
  rcases Blueprint.checkDetach_eq_ok_iff.1 allowed with ⟨entry, found, listed, _⟩
  rw [← Blueprint.childrenOf_eq found] at listed
  refine ⟨wellFormed.relinked (wellFormed.forest.detached listed), ?_⟩
  rw [Tree.combines_linked, Tree.combines_arranged]
  exact wellFormed.combines_of_mem listed

/-- A child is put below a parent by the rules for that. -/
theorem on_attach
    (wellFormed : tree.WellFormed)
    (place : List NodeId → List NodeId)
    (placed : (place (tree.blueprint.childrenOf parent)).Perm
      (child :: tree.blueprint.childrenOf parent)) :
    (do
      checkAttachable parent child
      checkCapacity parent
      modifyNode parent fun node => { node with children := place node.children }
      modifyNode child fun node => { node with parent := some parent }
      recompileUpwards parent
      accept : Change Unit).on tree =
        outcome (tree.blueprint.checkAppend parent child) tree
          (tree.attached parent child place).accepted := by
  have linked := on_link wellFormed parent child place
  have stages : (do
      checkAttachable parent child
      checkCapacity parent
      modifyNode parent fun node => { node with children := place node.children }
      modifyNode child fun node => { node with parent := some parent }
      recompileUpwards parent
      accept : Change Unit) = (do
        link parent child place
        recompileUpwards parent
        accept) := by
    simp only [link, bind_assoc]
  rw [stages]
  cases allowed : tree.blueprint.checkAppend parent child with
  | error error =>
      rw [allowed] at linked
      exact on_bind_error linked
  | ok _ =>
      rw [allowed] at linked
      rcases wellFormed_linked wellFormed placed allowed with ⟨next, combines⟩
      apply (on_bind_ok linked).trans
      exact on_bind_ok (on_recompileUpwards next combines)

/-- A child is taken from its parent by the rules for that. -/
theorem on_detach (wellFormed : tree.WellFormed) (parent child : NodeId) :
    (detach parent child).on tree =
      outcome (tree.blueprint.checkDetach tree.derived? parent child) tree
        (tree.detached parent child) := by
  have unlinked := on_unlink wellFormed parent child
  rw [detach_eq]
  cases allowed : tree.blueprint.checkDetach tree.derived? parent child with
  | error error =>
      rw [allowed] at unlinked
      exact on_bind_error unlinked
  | ok _ =>
      rw [allowed] at unlinked
      rcases wellFormed_unlinked wellFormed allowed with ⟨next, combines⟩
      exact (on_bind_ok unlinked).trans (on_recompileUpwards next combines)

/-! ## Edits -/

theorem on_create (tag : String) (props : Props) :
    (create tag props).on tree =
      outcome
        ((Blueprint.checkCreate tag props).map fun _ => { number := tree.issued + 1 }) tree
        (tree.perform (.create tag props)).accepted := by
  rw [create, Blueprint.checkCreate]
  cases resolved : Kind.resolve tag props with
  | error error => simp [on_bind, Except.map]
  | ok kind =>
      rw [on_bind_ok (on_ofExcept _)]
      simp only [Except.bind_ok, Tree.perform, resolved, Node.created]
      cases leaf : kind.isLeaf with
      | false => rfl
      | true =>
          simp only [if_true]
          cases combined : kind.combine [] with
          | error error => rfl
          | ok base => rfl

theorem on_update (consistent : tree.Consistent) (id : NodeId) (delta : Props) :
    (update id delta).on tree =
      outcome (tree.blueprint.checkUpdate tree.derived? id delta) tree
        (tree.updated id delta).accepted := by
  rw [update]
  cases found : tree.get? id with
  | none =>
      rw [on_bind_error (on_node_of_missing found), Blueprint.checkUpdate, Blueprint.entry,
        Tree.entryOf?_blueprint_eq_none found]
      rfl
  | some node =>
      have settled := consistent.coherent id node found List.not_mem_nil
      rw [on_bind_ok (on_node found), Tree.checkUpdate_blueprint found settled, Tree.updated, found]
      simp only
      split_ifs with compiled
      · have distinct := consistent.wellFormed.distinct
        cases done : node.updated tree.derived? delta with
        | error error =>
            apply on_bind_error
            rw [on_applyUpdate distinct found, done]
        | ok next =>
            have applied : (applyUpdate id delta).on tree = (.ok (), tree.put next) := by
              rw [on_applyUpdate distinct found, done]
            rw [on_bind_ok applied]
            cases above : node.parent with
            | none =>
                simp only [Tree.recompiledFrom_none]
                rfl
            | some parent =>
                have recompiled := on_recompileUpwards
                  (consistent.wellFormed_merged found compiled done)
                  (consistent.combines_merged found compiled done above)
                exact on_bind_ok recompiled
      · exact on_bind_ok (on_modifyNode_of_present (Tree.present_blueprint found) _)

theorem on_appendChild (wellFormed : tree.WellFormed) (parent child : NodeId) :
    (appendChild parent child).on tree =
      outcome (tree.blueprint.checkAppend parent child) tree
        (tree.perform (.appendChild parent child)).accepted :=
  on_attach wellFormed (fun children => children ++ [child]) (List.perm_append_singleton child _)

theorem on_removeChild (wellFormed : tree.WellFormed) (parent child : NodeId) :
    (removeChild parent child).on tree =
      outcome (tree.blueprint.checkDetach tree.derived? parent child) tree
        (tree.perform (.removeChild parent child)).accepted := by
  rw [removeChild, on_bind, on_detach wellFormed]
  cases tree.blueprint.checkDetach tree.derived? parent child <;> rfl

theorem on_insertBefore (consistent : tree.Consistent) (parent child before : NodeId) :
    (insertBefore parent child before).on tree =
      outcome (tree.blueprint.checkInsert parent child before) tree
        (tree.perform (.insertBefore parent child before)).accepted := by
  rw [insertBefore]
  simp only [Blueprint.checkInsert, Blueprint.entry]
  cases parentFound : tree.get? parent with
  | none =>
      rw [on_bind_error (on_node_of_missing parentFound),
        Tree.entryOf?_blueprint_eq_none parentFound]
      rfl
  | some parentNode =>
      rw [on_bind_ok (on_node parentFound), Tree.entryOf?_blueprint parentFound]
      simp only [Except.bind_ok, Node.isLeaf_entry]
      cases leaf : parentNode.kind.isLeaf with
      | true => rfl
      | false =>
          simp only [Bool.false_eq_true, if_false]
          cases childFound : tree.get? child with
          | none =>
              rw [on_bind_error (on_node_of_missing childFound),
                Tree.entryOf?_blueprint_eq_none childFound]
              rfl
          | some childNode =>
              rw [on_bind_ok (on_node childFound), Tree.entryOf?_blueprint childFound]
              have children := Tree.childrenOf_blueprint parentFound
              have combines : tree.Combines parent := ⟨parentNode, parentFound, leaf⟩
              have present := Tree.present_blueprint parentFound
              simp only [Except.bind_ok, Tree.perform, children]
              by_cases anchored : before ∈ parentNode.children
              · by_cases moved : child ∈ parentNode.children
                · by_cases still : child = before
                  · have done : (do recompileUpwards parent; accept : Change Unit).on tree =
                        (.ok (), (tree.recompiledFrom (some parent)).accepted) :=
                      on_bind_ok (on_recompileUpwards consistent.wellFormed combines)
                    simpa [anchored, moved, still] using done
                  · have done :=
                      on_rearrange consistent.wellFormed combines (children ▸ moved) before
                    simpa [anchored, moved, still] using done
                · have done := on_attach consistent.wellFormed
                    (fun children => Node.insertChild children child before)
                    (Node.insertChild_perm (tree.blueprint.childrenOf parent) child before)
                  simpa [anchored, moved] using done
              · simp [anchored]

theorem on_destroy (consistent : tree.Consistent) (id : NodeId) :
    (destroy id).on tree =
      outcome (tree.blueprint.checkDestroy tree.derived? id) tree
        (tree.perform (.destroy id)).accepted := by
  rw [destroy]
  simp only [Blueprint.checkDestroy, Blueprint.entry]
  cases found : tree.get? id with
  | none =>
      rw [on_bind_error (on_node_of_missing found), Tree.entryOf?_blueprint_eq_none found]
      rfl
  | some node =>
      have above : tree.parent? id = node.parent := by simp [Tree.parent?, found]
      rw [on_bind_ok (on_node found), Tree.entryOf?_blueprint found]
      simp only [Except.bind_ok, Node.parent_entry, Tree.perform, Tree.freed, above]
      cases node.parent with
      | none => rfl
      | some parent =>
          have detached := on_detach consistent.wellFormed parent id
          simp only
          cases allowed : tree.blueprint.checkDetach tree.derived? parent id with
          | error error =>
              rw [allowed] at detached
              exact on_bind_error detached
          | ok _ =>
              rw [allowed] at detached
              exact on_bind_ok detached

theorem on_setRoot (id : NodeId) :
    (setRoot id).on tree =
      outcome (tree.blueprint.checkRoot id) tree (tree.perform (.setRoot id)).accepted := by
  rw [setRoot]
  simp only [Blueprint.checkRoot, Blueprint.entry]
  cases found : tree.get? id with
  | none =>
      rw [on_bind_error (on_node_of_missing found), Tree.entryOf?_blueprint_eq_none found]
      rfl
  | some node =>
      rw [on_bind_ok (on_node found), Tree.entryOf?_blueprint found]
      cases above : node.parent with
      | none =>
          simp [above]
          rfl
      | some parent => simp [above]

/-- An edit is answered as the rules say, and if it is accepted, it is performed. -/
theorem on_edit (consistent : tree.Consistent) (command : Edit) :
    (edit command).on tree =
      outcome (tree.blueprint.verdict tree.derived? command) tree
        (tree.perform command).accepted := by
  cases command with
  | create tag props =>
      have done := on_answer (on_create tag props : _ = outcome _ tree _) some
      rw [bind_pure_comp] at done
      apply done.trans
      cases checked : Blueprint.checkCreate tag props <;>
        simp [Blueprint.verdict, checked, Except.map, Tree.blueprint]
  | update node delta => exact on_answer (on_update consistent node delta) fun _ => some node
  | appendChild parent child =>
      exact on_answer (on_appendChild consistent.wellFormed parent child) fun _ => some parent
  | insertBefore parent child before =>
      exact on_answer (on_insertBefore consistent parent child before) fun _ => some parent
  | removeChild parent child =>
      exact on_answer (on_removeChild consistent.wellFormed parent child) fun _ => some parent
  | destroy node => exact on_answer (on_destroy consistent node) fun _ => none
  | setRoot node => exact on_answer (on_setRoot node) fun _ => some node
  | clearRoot => rfl

end Change

namespace Tree

variable {tree : Tree}

/-- On a consistent tree the rules decide, and nothing fails behind them. -/
theorem Consistent.apply_eq (consistent : tree.Consistent) (edit : Edit) :
    tree.apply edit =
      Change.outcome (tree.blueprint.verdict tree.derived? edit) tree
        (tree.perform edit).accepted :=
  Change.on_edit consistent edit

/-- An accepted edit is performed and counted. -/
theorem Consistent.snd_apply_of_ok
    (consistent : tree.Consistent)
    {edit : Edit}
    {result : Option NodeId}
    (accepted : tree.blueprint.verdict tree.derived? edit = .ok result) :
    (tree.apply edit).2 = (tree.perform edit).accepted := by
  rw [consistent.apply_eq, accepted]
  rfl

/-- An edit leaves a tree consistent, whether it is accepted or not. -/
theorem Consistent.apply (consistent : tree.Consistent) (edit : Edit) :
    (tree.apply edit).2.Consistent := by
  rw [consistent.apply_eq]
  cases accepted : tree.blueprint.verdict tree.derived? edit with
  | error error => exact consistent
  | ok result =>
      have whole := (consistent.perform accepted).1
      exact ⟨⟨whole.wellFormed.distinct, whole.wellFormed.forest⟩, whole.coherent⟩

end Tree

end ParserGraph

import ParserGraph.Proofs.Tree.Runs

/-!
# Edits in stages

Every edit goes through three stages: it is checked and changes the tree at one place, the
nodes from there upwards are compiled anew, and what is left to do is done.  Between the first
two the children of a parent and the parent of a child have been changed, but their parsers
are still those from before.  The tree is a forest already, and only combinators lie on the
way up from the place of the change.
-/

namespace ParserGraph

namespace Change

variable {Result Next : Type} {tree next : Tree} {id parent child place : NodeId}

/-- What goes through went through at each step. -/
theorem exists_of_on_bind
    {first : Change Result}
    {second : Result → Change Next}
    {result : Next}
    (done : (first >>= second).on tree = (.ok result, next)) :
    ∃ between middle,
      first.on tree = (.ok between, middle) ∧ (second between).on middle = (.ok result, next) := by
  rw [on_bind] at done
  rcases answered : first.on tree with ⟨outcome, middle⟩
  cases outcome with
  | error error => simp [answered] at done
  | ok between => exact ⟨between, middle, rfl, by simpa [answered] using done⟩

theorem get?_of_on_node {found : Node} (there : (node id).on tree = (.ok found, next)) :
    tree.get? id = some found ∧ next = tree := by
  cases looked : tree.get? id with
  | none => simp [on_node_of_missing looked] at there
  | some node =>
      rw [on_node looked] at there
      cases there
      exact ⟨rfl, rfl⟩

/-- What a check lets through is as it decides, and leaves what it says. -/
theorem eq_of_outcome_eq_ok
    {check : Except EditError Result}
    {after : Tree}
    {result : Result}
    (done : outcome check tree after = (.ok result, next)) :
    check = .ok result ∧ next = after := by
  cases check with
  | error error => simp at done
  | ok answer =>
      cases done
      exact ⟨rfl, rfl⟩

/-! ## Stages -/

/-- A step is run at a node and at all nodes above it, upwards. -/
def climbUp (step : NodeId → Change Unit) (start : NodeId) : Change Unit := do
  ((← get).lineage start).forM step

/-- What is asked of a parent and of a child before the way up from the parent is walked. -/
def approach (parent child : NodeId) : Change Unit := do
  let parentNode ← node parent
  let childNode ← node child
  if parentNode.kind.isLeaf then
    throw (.leafChild parent)
  if childNode.parent.isSome || (← get).root == some child then
    throw (.alreadyAttached child)

/-- A child comes to stand in front of another one, be it moved there or put below the parent. -/
def comeBefore (parent child before : NodeId) (children : List NodeId) : Change Unit := do
  if children.contains child then
    if child != before then
      modifyNode parent fun node =>
        { node with children := Node.insertChild (node.children.erase child) child before }
  else
    link parent child fun children => Node.insertChild children child before

/-- An edit up to where nodes are compiled anew: the place from which on they are, if any. -/
def prepare : Edit → Change (Option NodeId)
  | .update id delta => do
      let node ← node id
      if node.isCompiled then
        applyUpdate id delta
        pure node.parent
      else
        modifyNode id (Node.stage delta)
        pure none
  | .appendChild parent child => do
      link parent child fun children => children ++ [child]
      pure (some parent)
  | .insertBefore parent child before => do
      let parentNode ← node parent
      if parentNode.kind.isLeaf then
        throw (.leafChild parent)
      let _ ← node child
      if !parentNode.children.contains before then
        throw (.childNotFound parent before)
      comeBefore parent child before parentNode.children
      pure (some parent)
  | .removeChild parent child => do
      unlink parent child
      pure (some parent)
  | .destroy id => do
      match (← node id).parent with
      | some parent => do
          unlink parent id
          pure (some parent)
      | none => pure none
  | _ => pure none

/-- All nodes from a place upwards are compiled anew. -/
def recompile : Option NodeId → Change Unit
  | some place => climbUp refresh place
  | none => pure ()

/-- What is left of an edit once all nodes are compiled anew. -/
def conclude : Edit → Change (Option NodeId)
  | .create tag props => some <$> create tag props
  | .update node _ => do accept; pure (some node)
  | .appendChild parent _ => do accept; pure (some parent)
  | .insertBefore parent _ _ => do accept; pure (some parent)
  | .removeChild parent _ => do accept; pure (some parent)
  | .destroy id => do
      modify fun tree => tree.without id
      accept
      pure none
  | .setRoot node => do setRoot node; pure (some node)
  | .clearRoot => do clearRoot; pure none

theorem recompile_some (place : NodeId) : recompile (some place) = recompileUpwards place := rfl

theorem checkAttachable_eq (parent child : NodeId) :
    checkAttachable parent child = (do
      approach parent child
      climbUp (passBelow child) parent) := by
  simp only [checkAttachable, approach, bind_assoc]
  congr 1
  funext parentNode
  congr 1
  funext childNode
  split_ifs
  · rfl
  · funext tree
    simp only [bind_assoc]
    apply (on_bind_ok on_get).trans
    refine Eq.trans ?_ (on_bind_ok on_get).symm
    split_ifs <;> rfl

/-- Each edit is its three stages, one behind the other. -/
theorem edit_eq (command : Edit) :
    edit command = (do
      let place ← prepare command
      recompile place
      conclude command) := by
  cases command with
  | create tag props => rfl
  | update id delta =>
      simp only [edit, update, prepare, conclude, bind_assoc]
      congr 1
      funext node
      split_ifs
      · simp only [bind_assoc, pure_bind]
        congr 1
        funext _
        cases node.parent with
        | none => rfl
        | some parent => simp only [recompile_some, bind_assoc]
      · simp only [bind_assoc, pure_bind]
        rfl
  | appendChild parent child =>
      simp only [edit, appendChild, prepare, conclude, link, bind_assoc, pure_bind, recompile_some]
  | insertBefore parent child before =>
      simp only [edit, insertBefore, prepare, comeBefore, conclude, bind_assoc]
      congr 1
      funext parentNode
      split_ifs <;> simp only [link, bind_assoc, pure_bind, recompile_some]
  | removeChild parent child =>
      simp only [edit, removeChild, detach_eq, prepare, conclude, bind_assoc, pure_bind,
        recompile_some]
  | destroy id =>
      simp only [edit, destroy, detach_eq, prepare, conclude, bind_assoc]
      congr 1
      funext node
      cases node.parent with
      | none => rfl
      | some parent =>
          simp only [bind_assoc, pure_bind, recompile_some]
          rfl
  | setRoot id => rfl
  | clearRoot => rfl

/-! ## Between the stages -/

/-- A child that was put below a parent leaves a forest. -/
theorem wellFormed_of_on_link
    (wellFormed : tree.WellFormed)
    {arrange : List NodeId → List NodeId}
    (placed : (arrange (tree.blueprint.childrenOf parent)).Perm
      (child :: tree.blueprint.childrenOf parent))
    {result : Unit}
    (done : (link parent child arrange).on tree = (.ok result, next)) :
    next.WellFormed ∧ next.Combines parent := by
  rw [on_link wellFormed] at done
  rcases eq_of_outcome_eq_ok done with ⟨allowed, rfl⟩
  exact wellFormed_linked wellFormed placed allowed

theorem wellFormed_of_on_unlink
    (wellFormed : tree.WellFormed)
    {result : Unit}
    (done : (unlink parent child).on tree = (.ok result, next)) :
    next.WellFormed ∧ next.Combines parent := by
  rw [on_unlink wellFormed] at done
  rcases eq_of_outcome_eq_ok done with ⟨allowed, rfl⟩
  exact wellFormed_unlinked wellFormed allowed

theorem wellFormed_of_on_comeBefore
    (wellFormed : tree.WellFormed)
    (combines : tree.Combines parent)
    {before : NodeId}
    {result : Unit}
    (done : (comeBefore parent child before (tree.blueprint.childrenOf parent)).on tree =
      (.ok result, next)) :
    next.WellFormed ∧ next.Combines parent := by
  rw [comeBefore] at done
  split_ifs at done with listed different
  · rw [List.contains_iff_mem] at listed
    rw [on_modifyNode_of_present (Blueprint.present_of_mem_childrenOf listed)] at done
    cases done
    exact wellFormed_rearranged wellFormed combines listed before
  · cases done
    exact ⟨wellFormed, combines⟩
  · exact wellFormed_of_on_link wellFormed (Node.insertChild_perm _ child before) done

/-- Where nodes are compiled anew, the tree is a forest and the place is one of a combinator. -/
theorem wellFormed_of_on_prepare
    (consistent : tree.Consistent)
    {command : Edit}
    (done : (prepare command).on tree = (.ok (some place), next)) :
    next.WellFormed ∧ next.Combines place := by
  have wellFormed := consistent.wellFormed
  cases command with
  | update id delta =>
      rcases exists_of_on_bind done with ⟨node, middle, first, second⟩
      rcases get?_of_on_node first with ⟨found, rfl⟩
      split_ifs at second with compiled
      · rcases exists_of_on_bind second with ⟨_, merged, applied, last⟩
        rw [on_applyUpdate wellFormed.distinct found] at applied
        cases updated : node.updated middle.derived? delta with
        | error error => simp [updated] at applied
        | ok after =>
            simp only [updated, Prod.mk.injEq, true_and] at applied
            simp only [on_pure, Prod.mk.injEq, Except.ok.injEq] at last
            rcases last with ⟨above, rfl⟩
            rw [← applied]
            exact ⟨consistent.wellFormed_merged found compiled updated,
              consistent.combines_merged found compiled updated above⟩
      · rcases exists_of_on_bind second with ⟨_, _, _, last⟩
        cases last
  | appendChild parent child =>
      rcases exists_of_on_bind done with ⟨_, _, linked, last⟩
      cases last
      exact wellFormed_of_on_link wellFormed (List.perm_append_singleton child _) linked
  | insertBefore parent child before =>
      rcases exists_of_on_bind done with ⟨node, middle, first, second⟩
      rcases get?_of_on_node first with ⟨found, rfl⟩
      cases leaf : node.kind.isLeaf with
      | true =>
          rw [leaf] at second
          cases second
      | false =>
          simp only [leaf, Bool.false_eq_true, if_false] at second
          rcases exists_of_on_bind second with ⟨_, _, there, third⟩
          rcases get?_of_on_node there with ⟨_, rfl⟩
          split_ifs at third with missing
          · cases third
          · rcases exists_of_on_bind third with ⟨_, _, came, last⟩
            cases last
            rw [← Tree.childrenOf_blueprint found] at came
            exact wellFormed_of_on_comeBefore wellFormed ⟨node, found, leaf⟩ came
  | removeChild parent child =>
      rcases exists_of_on_bind done with ⟨_, _, unlinked, last⟩
      cases last
      exact wellFormed_of_on_unlink wellFormed unlinked
  | destroy id =>
      rcases exists_of_on_bind done with ⟨node, middle, first, second⟩
      rcases get?_of_on_node first with ⟨found, rfl⟩
      cases above : node.parent with
      | none =>
          rw [above] at second
          cases second
      | some parent =>
          rw [above] at second
          rcases exists_of_on_bind second with ⟨_, _, unlinked, last⟩
          cases last
          exact wellFormed_of_on_unlink wellFormed unlinked
  | create tag props => cases done
  | setRoot id => cases done
  | clearRoot => cases done

-- A text that is put below a series is linked already while the series is compiled anew.
example :
    let tree := (Tree.withOptions {}).after
      [.create "all" {}, .create "string" { text := some "a" }]
    let prepared := (prepare (.appendChild { number := 1 } { number := 2 })).on tree
    prepared.1 = .ok (some { number := 1 }) ∧
      prepared.2.parent? { number := 2 } = some { number := 1 } ∧
        prepared.2.derived? { number := 1 } = none := by
  exact ⟨rfl, rfl, rfl⟩

end Change

end ParserGraph

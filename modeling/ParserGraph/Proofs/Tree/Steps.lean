import ParserGraph.Proofs.Blueprint.Scratch
import ParserGraph.Proofs.Tree.Lookup
import ParserGraph.Tree.Apply

/-!
# Steps of a change

What each step of a change does to a well-formed tree, as a plain function: the
checks leave the tree as it is and answer as the rules on its blueprint do, merging
props puts one node into its place, and combining anew never fails.
-/

namespace ParserGraph

/-! ## Nodes -/

namespace Node

/-- The node with props merged into its kind and its decoration. -/
def merged (delta : Props) (node : Node) : Node :=
  { node with
    kind := node.kind.withProps delta
    decoration := node.decoration.overlay delta }

/-- A compiled node with props merged, if it can still be combined. -/
def updated
    (derived? : NodeId → Option Parser)
    (delta : Props)
    (node : Node) :
    Except EditError Node :=
  let kind := node.kind.withProps delta
  if kind.same node.kind then
    .ok ((node.merged delta).withCombined node.combined)
  else
    match node.children.mapM derived? with
    | some parsers =>
        (kind.combine parsers).map fun base => (node.merged delta).withCombined (some base)
    | none => .error (.notCompiled node.id)

/-- The node with the props merged that were kept aside. -/
def absorbed (node : Node) : Node :=
  { node.merged (node.staged.getD {}) with staged := none }

/--
The node combined anew.  If its children have parsers, the props that were kept
aside are merged, and otherwise it has no parser and goes on keeping them.
-/
def refreshed (derived? : NodeId → Option Parser) (node : Node) : Node :=
  if (node.kind.assemble? node.children derived?).isSome then
    node.absorbed.withCombined (node.absorbed.kind.assemble? node.children derived?)
  else
    node.withCombined none

/-- The node with props kept aside until it is compiled. -/
def stage (delta : Props) (node : Node) : Node :=
  { node with staged := some ((node.staged.getD {}).overlay delta) }

variable {node : Node} {derived? : NodeId → Option Parser}

@[simp]
theorem entry_withCombined (node : Node) (combined : Option Parser) :
    (node.withCombined combined).entry = node.entry := rfl

@[simp]
theorem entry_absorbed (node : Node) : node.absorbed.entry = node.entry := by
  simp [absorbed, merged, entry]

@[simp]
theorem entry_refreshed : (node.refreshed derived?).entry = node.entry := by
  rw [refreshed]
  split <;> simp

@[simp]
theorem id_refreshed : (node.refreshed derived?).id = node.id := by
  rw [refreshed]
  split <;> rfl

/-- Props kept aside count in the blueprint as merged ones do. -/
theorem entry_stage (delta : Props) (node : Node) :
    (node.stage delta).entry = node.entry.withProps delta := by
  simp [stage, entry, Entry.withProps, Kind.withProps_withProps, Decoration.overlay_overlay]

/-- Merged props count in the blueprint, if nothing is kept aside over them. -/
theorem entry_merged (settled : node.staged = none) (delta : Props) :
    (node.merged delta).entry = node.entry.withProps delta := by
  simp [merged, entry, Entry.withProps, settled]

/-- An update that goes through merges the props, and what had a parser still has one. -/
theorem exists_withCombined_of_updated
    {delta : Props}
    {next : Node}
    (done : node.updated derived? delta = .ok next) :
    ∃ combined, next = (node.merged delta).withCombined combined ∧
      (node.combined.isSome = true → combined.isSome = true) := by
  unfold updated at done
  simp only at done
  split at done
  · cases done
    exact ⟨_, rfl, fun whole => whole⟩
  · split at done
    · cases combined : (node.kind.withProps delta).combine ‹List Parser› with
      | error error => simp [combined, Except.map] at done
      | ok base =>
          simp only [combined, Except.map] at done
          cases done
          exact ⟨some base, rfl, fun _ => rfl⟩
    · cases done

/-- What a successful update makes of a node that keeps nothing aside. -/
theorem entry_updated
    {delta : Props}
    {next : Node}
    (settled : node.staged = none)
    (done : node.updated derived? delta = .ok next) :
    next.id = node.id ∧ next.entry = node.entry.withProps delta := by
  rcases exists_withCombined_of_updated done with ⟨combined, rfl, _⟩
  exact ⟨rfl, entry_merged settled delta⟩

theorem absorbed_of_staged (settled : node.staged = none) : node.absorbed = node := by
  rcases node with ⟨id, kind, decoration, children, parent, combined, derived, staged⟩
  cases settled
  simp [absorbed, merged]

/-- A combinator that has a parser still has one when props are merged. -/
theorem updated_of_combinator
    (combinator : node.kind.isLeaf = false)
    (combined : node.combined = node.kind.assemble? node.children derived?)
    (compiled : node.combined.isSome = true)
    (delta : Props) :
    node.updated derived? delta =
      .ok ((node.merged delta).withCombined
        ((node.kind.withProps delta).assemble? node.children derived?)) := by
  unfold updated
  simp only
  split_ifs with alike
  · rw [Kind.eq_of_same combinator alike, ← combined]
  · have remains :=
      Kind.isSome_assemble?_withProps combinator delta node.children derived?
    rw [← combined, compiled] at remains
    unfold Kind.assemble? at remains ⊢
    cases parsers : node.children.mapM derived? with
    | none => simp [parsers] at remains
    | some list =>
        simp only [parsers, Option.bind_some] at remains ⊢
        cases result : (node.kind.withProps delta).combine list with
        | error error => simp [result, Except.toOption] at remains
        | ok base => rfl

end Node

/-! ## Running a change -/

namespace Change

variable {Result Next : Type} {tree : Tree} {id : NodeId} {found : Node}

/-- What a change answers on a tree, and the tree behind it. -/
def on (change : Change Result) (tree : Tree) : Except EditError Result × Tree :=
  change.run.run tree

@[simp]
theorem on_pure (result : Result) :
    (pure result : Change Result).on tree = (.ok result, tree) := rfl

@[simp]
theorem on_throw (error : EditError) :
    (throw error : Change Result).on tree = (.error error, tree) := rfl

@[simp]
theorem on_get : (get : Change Tree).on tree = (.ok tree, tree) := rfl

@[simp]
theorem on_modify (change : Tree → Tree) :
    (modify change : Change Unit).on tree = (.ok (), change tree) := rfl

@[simp]
theorem on_ofExcept (result : Except EditError Result) :
    (ofExcept result : Change Result).on tree = (result, tree) := by
  cases result <;> rfl

theorem on_bind (first : Change Result) (next : Result → Change Next) :
    (first >>= next).on tree =
      match first.on tree with
      | (.ok result, after) => (next result).on after
      | (.error error, after) => (.error error, after) := by
  unfold on
  rw [ExceptT.run_bind, StateT.run_bind]
  rcases StateT.run (ExceptT.run first) tree with ⟨result, after⟩
  cases result <;> rfl

theorem on_bind_ok
    {first : Change Result}
    {next : Result → Change Next}
    {result : Result}
    {after : Tree}
    (done : first.on tree = (.ok result, after)) :
    (first >>= next).on tree = (next result).on after := by
  rw [on_bind, done]

theorem on_bind_error
    {first : Change Result}
    {next : Result → Change Next}
    {error : EditError}
    {after : Tree}
    (failed : first.on tree = (.error error, after)) :
    (first >>= next).on tree = (.error error, after) := by
  rw [on_bind, failed]

theorem on_map (first : Change Result) (next : Result → Next) :
    (next <$> first).on tree =
      match first.on tree with
      | (.ok result, after) => (.ok (next result), after)
      | (.error error, after) => (.error error, after) := by
  rw [← bind_pure_comp, on_bind]
  rfl

theorem on_node (there : tree.get? id = some found) :
    (node id).on tree = (.ok found, tree) := by
  simp [node, on_bind, there]

theorem on_node_of_missing (missing : tree.get? id = none) :
    (node id).on tree = (.error (.nodeNotFound id), tree) := by
  simp [node, on_bind, missing]

theorem on_modifyNode
    (distinct : (tree.nodes.map Node.id).Nodup)
    (there : tree.get? id = some found)
    {change : Node → Node}
    (keeps : (change found).id = found.id) :
    (modifyNode id change).on tree = (.ok (), tree.put (change found)) := by
  rw [modifyNode, on_bind_ok (on_node there), on_modify, Tree.modify_eq_put distinct there keeps]

/-! ## Merging props and combining anew -/

theorem on_applyUpdate
    (distinct : (tree.nodes.map Node.id).Nodup)
    (there : tree.get? id = some found)
    (delta : Props) :
    (applyUpdate id delta).on tree =
      match found.updated tree.derived? delta with
      | .ok next => (.ok (), tree.put next)
      | .error error => (.error error, tree) := by
  have named := Tree.id_of_get? there
  rw [applyUpdate, on_bind_ok (on_node there)]
  simp only [Node.updated]
  split_ifs with alike
  · rw [on_bind_ok (on_pure _), on_modifyNode distinct there rfl]
    rfl
  · rw [on_bind_ok on_get]
    simp only [Tree.childParsers?]
    cases found.children.mapM tree.derived? with
    | none => simp [named]
    | some parsers =>
        simp only [on_bind, on_map, on_ofExcept]
        cases (found.kind.withProps delta).combine parsers with
        | error error => rfl
        | ok base =>
            simp only
            rw [on_modifyNode distinct there rfl]
            rfl

/-- Props are merged into a combinator that has just been combined. -/
theorem on_applyUpdate_of_combinator
    (distinct : (tree.nodes.map Node.id).Nodup)
    (there : tree.get? id = some found)
    (combinator : found.kind.isLeaf = false)
    (combined : found.combined = found.kind.assemble? found.children tree.derived?)
    (compiled : found.combined.isSome = true)
    (delta : Props) :
    (applyUpdate id delta).on tree =
      (.ok (), tree.put ((found.merged delta).withCombined
        ((found.kind.withProps delta).assemble? found.children tree.derived?))) := by
  rw [on_applyUpdate distinct there, Node.updated_of_combinator combinator combined compiled]

/-- The props that a combinator kept aside are merged once it has got its parser. -/
theorem on_replay
    (distinct : (tree.nodes.map Node.id).Nodup)
    (there : tree.get? id = some found)
    (combinator : found.kind.isLeaf = false)
    (proper : id ∉ found.children)
    {base : Parser}
    (assembled : some base = found.kind.assemble? found.children tree.derived?)
    {staged : Props}
    (kept : found.staged = some staged) :
    (do
      modifyNode id fun node => { node with staged := none }
      applyUpdate id staged : Change Unit).on (tree.put (found.withCombined (some base))) =
        (.ok (), tree.put (found.absorbed.withCombined
          (found.absorbed.kind.assemble? found.children tree.derived?))) := by
  have named := Tree.id_of_get? there
  let ready : Node := { found.withCombined (some base) with staged := none }
  have place : tree.get? ready.id = some found := named.symm ▸ there
  have readyThere : (tree.put ready).get? id = some ready := named ▸ Tree.get?_put_self place
  have readyDistinct : ((tree.put ready).nodes.map Node.id).Nodup := by
    rwa [Tree.ids_put]
  have readyPut : (tree.put (found.withCombined (some base))).put ready = tree.put ready :=
    Tree.put_put tree rfl
  have cleared : (modifyNode id fun node => { node with staged := none }).on
      (tree.put (found.withCombined (some base))) = (.ok (), tree.put ready) := by
    rw [← readyPut]
    refine on_modifyNode (by rwa [Tree.ids_put]) ?_ rfl
    exact named ▸ Tree.get?_put_self (named.symm ▸ there)
  -- The node is no child of its own, so its children keep their parsers.
  have others : ∀ child ∈ found.children,
      tree.derived? child = (tree.put ready).derived? child := by
    intro child member
    refine (Tree.derived?_put_of_ne place ?_).symm
    rintro rfl
    exact proper (named ▸ member)
  have readyCombinator : ready.kind.isLeaf = false := combinator
  have readyAssembled : ready.combined =
      ready.kind.assemble? ready.children (tree.put ready).derived? :=
    assembled.trans (Kind.assemble?_congr others)
  have kind : found.absorbed.kind = found.kind.withProps staged := by
    simp [Node.absorbed, Node.merged, kept]
  rw [on_bind_ok cleared,
    on_applyUpdate_of_combinator readyDistinct readyThere readyCombinator readyAssembled rfl,
    Tree.put_put, kind, Kind.assemble?_congr others]
  · simp [Node.absorbed, Node.merged, Node.withCombined, kept, ready]
  · rfl

/-- A node gets what it was combined to, and with its first parser the props it kept aside. -/
def settle (id : NodeId) (staged : Option Props) (combined : Option Parser) : Change Unit := do
  modifyNode id fun node => node.withCombined combined
  match combined, staged with
  | some _, some staged => do
      modifyNode id fun node => { node with staged := none }
      applyUpdate id staged
  | _, _ => pure ()

theorem on_settle
    (distinct : (tree.nodes.map Node.id).Nodup)
    (there : tree.get? id = some found)
    (combinator : found.kind.isLeaf = false)
    (proper : id ∉ found.children)
    {combined : Option Parser}
    (assembled : combined = found.kind.assemble? found.children tree.derived?) :
    (settle id found.staged combined).on tree =
      (.ok (), tree.put (found.refreshed tree.derived?)) := by
  unfold settle Node.refreshed
  rw [on_bind_ok (on_modifyNode distinct there rfl), ← assembled]
  cases combined with
  | none => rfl
  | some base =>
      simp only [Option.isSome_some, if_true]
      cases kept : found.staged with
      | none => simp only [on_pure, Node.absorbed_of_staged kept, ← assembled]
      | some staged => exact on_replay distinct there combinator proper assembled kept

/-- A combinator is combined anew. -/
theorem on_refresh
    (distinct : (tree.nodes.map Node.id).Nodup)
    (there : tree.get? id = some found)
    (combinator : found.kind.isLeaf = false)
    (proper : id ∉ found.children) :
    (refresh id).on tree = (.ok (), tree.put (found.refreshed tree.derived?)) := by
  rw [refresh, on_bind_ok (on_node there)]
  split_ifs with childless
  · rw [on_bind_ok (on_pure _)]
    apply on_settle distinct there combinator proper
    have empty : found.children = [] := by simpa [combinator] using childless
    rw [empty, Kind.assemble?_nil, Kind.combine_nil combinator]
    rfl
  · rw [on_bind_ok on_get]
    have nonempty : found.children ≠ [] := by simpa [combinator] using childless
    simp only [Tree.childParsers?]
    cases parsers : found.children.mapM tree.derived? with
    | none =>
        rw [on_bind_ok (on_pure _)]
        apply on_settle distinct there combinator proper
        simp [Kind.assemble?, parsers]
    | some list =>
        cases list with
        | nil =>
            have length := length_of_mapM parsers
            exact absurd (List.length_eq_zero_iff.1 length.symm) nonempty
        | cons first others =>
            rcases Kind.combine_cons combinator first others with ⟨base, combined⟩
            have lifted : (some <$> ofExcept (found.kind.combine (first :: others)) :
                Change (Option Parser)).on tree = (.ok (some base), tree) := by
              rw [on_map, on_ofExcept, combined]
            simp only
            rw [on_bind_ok lifted]
            apply on_settle distinct there combinator proper
            simp [Kind.assemble?, parsers, combined, Except.toOption]

end Change

end ParserGraph

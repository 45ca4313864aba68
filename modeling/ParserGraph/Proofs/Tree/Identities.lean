import ParserGraph.Proofs.Identities
import ParserGraph.Proofs.Tree.Answers

/-!
# Trees up to the identities of their transforms

No edit looks at the identity of a transform.  Trees that are equal up to identities answer
edits alike that are equal up to identities, and they stay equal in this way: giving one
identity to all transforms commutes with the checks of an edit and with what it makes of
the tree.
-/

namespace ParserGraph

variable {identity : Nat}

/-! ## Nodes -/

namespace Node

/-- The node with one identity for all its transforms. -/
def withIdentity (identity : Nat) (node : Node) : Node :=
  { node with
    decoration := node.decoration.withIdentity identity
    combined := node.combined.map (Parser.withIdentity identity)
    derived := node.derived.map (Parser.withIdentity identity)
    staged := node.staged.map (Props.withIdentity identity) }

variable {derived? : NodeId → Option Parser}

theorem withIdentity_withCombined (node : Node) (combined : Option Parser) :
    (node.withCombined combined).withIdentity identity =
      (node.withIdentity identity).withCombined
        (combined.map (Parser.withIdentity identity)) := by
  simp [withCombined, withIdentity, Function.comp_def, Decoration.withIdentity_apply]

theorem withIdentity_merged (node : Node) (delta : Props) :
    (node.merged delta).withIdentity identity =
      (node.withIdentity identity).merged (delta.withIdentity identity) := by
  simp [merged, withIdentity, Decoration.withIdentity_overlay]

theorem withIdentity_getD_staged (node : Node) :
    (node.withIdentity identity).staged.getD {} =
      (node.staged.getD {}).withIdentity identity := by
  rw [withIdentity]
  cases node.staged <;> rfl

theorem withIdentity_absorbed (node : Node) :
    node.absorbed.withIdentity identity = (node.withIdentity identity).absorbed := by
  rw [absorbed, absorbed, withIdentity_getD_staged, ← withIdentity_merged]
  rfl

theorem withIdentity_stage (node : Node) (delta : Props) :
    (node.stage delta).withIdentity identity =
      (node.withIdentity identity).stage (delta.withIdentity identity) := by
  rw [stage, stage, withIdentity_getD_staged, ← Props.withIdentity_overlay]
  rfl

theorem entry_withIdentity (node : Node) :
    (node.withIdentity identity).entry =
      { node.entry with decoration := node.entry.decoration.withIdentity identity } := by
  rw [entry, entry, withIdentity_getD_staged, Kind.withProps_withIdentity,
    Decoration.withIdentity_overlay]
  rfl

theorem withIdentity_created (id : NodeId) (kind : Kind) (props : Props) :
    (created id kind props).withIdentity identity =
      created id kind (props.withIdentity identity) := by
  have decorated : (Decoration.overlay {} props).withIdentity identity =
      Decoration.overlay {} (props.withIdentity identity) :=
    Decoration.withIdentity_overlay {} props
  have decoration : (props.withIdentity identity).decoration =
      props.decoration.withIdentity identity := rfl
  rw [created, created, decoration, Props.isEmpty_withIdentity]
  split_ifs with leaf undecorated
  · have alone : ((kind.combine []).toOption).map (Parser.withIdentity identity) =
        (kind.combine []).toOption := by
      have same : kind.combine [] = (kind.combine []).map (Parser.withIdentity identity) :=
        kind.combine_withIdentity []
      cases combined : kind.combine [] with
      | error error => rfl
      | ok base =>
          rw [combined] at same
          exact congrArg some (Except.ok.inj same).symm
    rw [withIdentity_withCombined, alone, ← decorated]
    rfl
  · rfl
  · rfl

end Node

/-- What is assembled has the identity that all that it is assembled from has. -/
theorem Kind.assemble?_withIdentity
    (kind : Kind)
    (children : List NodeId)
    (derived? : NodeId → Option Parser) :
    kind.assemble? children (fun id => (derived? id).map (Parser.withIdentity identity)) =
      (kind.assemble? children derived?).map (Parser.withIdentity identity) := by
  rw [assemble?, assemble?, ← map_mapM]
  cases children.mapM derived? with
  | none => rfl
  | some parsers =>
      rw [Option.map_some, Option.bind_some, Option.bind_some, kind.combine_withIdentity]
      cases kind.combine parsers <;> rfl

namespace Node

variable {derived? : NodeId → Option Parser}

theorem withIdentity_refreshed (node : Node) :
    (node.refreshed derived?).withIdentity identity =
      (node.withIdentity identity).refreshed
        (fun id => (derived? id).map (Parser.withIdentity identity)) := by
  have kind : (node.withIdentity identity).kind = node.kind := rfl
  have children : (node.withIdentity identity).children = node.children := rfl
  have absorbedKind : node.absorbed.kind = (node.absorbed.withIdentity identity).kind := rfl
  rw [refreshed, refreshed, kind, children, ← withIdentity_absorbed, Kind.assemble?_withIdentity,
    Option.isSome_map, ← absorbedKind, Kind.assemble?_withIdentity]
  split_ifs
  · exact withIdentity_withCombined _ _
  · exact withIdentity_withCombined _ _

theorem withIdentity_updated (node : Node) (delta : Props) :
    (node.withIdentity identity).updated
        (fun id => (derived? id).map (Parser.withIdentity identity))
        (delta.withIdentity identity) =
      (node.updated derived? delta).map (Node.withIdentity identity) := by
  have kind : (node.withIdentity identity).kind = node.kind := rfl
  have children : (node.withIdentity identity).children = node.children := rfl
  simp only [updated, kind, children, Kind.withProps_withIdentity, ← map_mapM]
  split_ifs
  · simp only [Except.map, withIdentity_withCombined, withIdentity_merged]
    rfl
  · cases node.children.mapM derived? with
    | none => rfl
    | some parsers =>
        simp only [Option.map_some, Kind.combine_withIdentity]
        cases (node.kind.withProps delta).combine parsers with
        | error error => rfl
        | ok base => simp [Except.map, withIdentity_withCombined, withIdentity_merged]

end Node

/-! ## Trees -/

namespace Tree

/-- The tree with one identity for all its transforms. -/
def withIdentity (identity : Nat) (tree : Tree) : Tree :=
  { tree with nodes := tree.nodes.map (Node.withIdentity identity) }

variable {tree : Tree} {id parent child : NodeId}

theorem find?_withIdentity (nodes : List Node) (id : NodeId) :
    (nodes.map (Node.withIdentity identity)).find? (fun node => node.id == id) =
      (nodes.find? fun node => node.id == id).map (Node.withIdentity identity) :=
  List.find?_map

theorem get?_withIdentity (tree : Tree) (id : NodeId) :
    (tree.withIdentity identity).get? id = (tree.get? id).map (Node.withIdentity identity) :=
  find?_withIdentity tree.nodes id

theorem derived?_withIdentity (tree : Tree) :
    (tree.withIdentity identity).derived? =
      fun id => (tree.derived? id).map (Parser.withIdentity identity) := by
  funext id
  rw [derived?, derived?, get?_withIdentity]
  cases tree.get? id <;> rfl

theorem parent?_withIdentity (tree : Tree) :
    (tree.withIdentity identity).parent? = tree.parent? := by
  funext id
  rw [parent?, parent?, get?_withIdentity]
  cases tree.get? id <;> rfl

theorem lineageFrom_withIdentity (tree : Tree) (place : Option NodeId) :
    (tree.withIdentity identity).blueprint.lineageFrom place =
      tree.blueprint.lineageFrom place := by
  rw [Blueprint.lineageFrom, Blueprint.lineageFrom, parent?_blueprint, parent?_blueprint,
    parent?_withIdentity]
  rfl

theorem childrenOf_withIdentity (tree : Tree) (id : NodeId) :
    (tree.withIdentity identity).blueprint.childrenOf id = tree.blueprint.childrenOf id := by
  simp only [Blueprint.childrenOf, blueprint, get?_withIdentity]
  cases tree.get? id <;> rfl

theorem withIdentity_modify
    {change other : Node → Node}
    (commute : ∀ node, (change node).withIdentity identity = other (node.withIdentity identity)) :
    (tree.modify id change).withIdentity identity =
      (tree.withIdentity identity).modify id other := by
  have nodes : ∀ node : Node,
      (if node.id == id then change node else node).withIdentity identity =
        if (node.withIdentity identity).id == id then other (node.withIdentity identity)
        else node.withIdentity identity := by
    intro node
    have same : (node.withIdentity identity).id = node.id := rfl
    rw [same, ← commute]
    split_ifs <;> rfl
  rw [withIdentity, modify, modify, withIdentity]
  simp only [List.map_map, Function.comp_def, nodes]

theorem withIdentity_put (tree : Tree) (node : Node) :
    (tree.put node).withIdentity identity =
      (tree.withIdentity identity).put (node.withIdentity identity) :=
  withIdentity_modify fun _ => rfl

theorem withIdentity_refreshedAt (tree : Tree) (id : NodeId) :
    (tree.refreshedAt id).withIdentity identity = (tree.withIdentity identity).refreshedAt id := by
  rw [refreshedAt, refreshedAt, get?_withIdentity]
  cases tree.get? id with
  | none => rfl
  | some node =>
      rw [Option.map_some, derived?_withIdentity]
      simp only
      rw [← Node.withIdentity_refreshed, withIdentity_put]

theorem withIdentity_recompiledFrom (tree : Tree) (place : Option NodeId) :
    (tree.recompiledFrom place).withIdentity identity =
      (tree.withIdentity identity).recompiledFrom place := by
  rw [recompiledFrom, recompiledFrom, lineageFrom_withIdentity]
  generalize tree.blueprint.lineageFrom place = ids
  induction ids generalizing tree with
  | nil => rfl
  | cons first rest hypothesis =>
      rw [List.foldl_cons, List.foldl_cons, hypothesis, withIdentity_refreshedAt]

/-! ## What an edit makes of a tree -/

theorem withIdentity_arranged (parent : NodeId) (place : List NodeId → List NodeId) :
    (tree.arranged parent place).withIdentity identity =
      (tree.withIdentity identity).arranged parent place :=
  withIdentity_modify fun _ => rfl

theorem withIdentity_linked (child : NodeId) (above : Option NodeId) :
    (tree.linked child above).withIdentity identity =
      (tree.withIdentity identity).linked child above :=
  withIdentity_modify fun _ => rfl

theorem withIdentity_attached (parent child : NodeId) (place : List NodeId → List NodeId) :
    (tree.attached parent child place).withIdentity identity =
      (tree.withIdentity identity).attached parent child place := by
  rw [attached, withIdentity_recompiledFrom, withIdentity_linked, withIdentity_arranged]
  rfl

theorem withIdentity_detached (parent child : NodeId) :
    (tree.detached parent child).withIdentity identity =
      (tree.withIdentity identity).detached parent child := by
  rw [detached, withIdentity_recompiledFrom, withIdentity_linked, withIdentity_arranged]
  rfl

theorem withIdentity_freed (id : NodeId) :
    (tree.freed id).withIdentity identity = (tree.withIdentity identity).freed id := by
  rw [freed, freed, parent?_withIdentity]
  cases tree.parent? id with
  | none => rfl
  | some parent => exact withIdentity_detached parent id

theorem subtree_withIdentity (id : NodeId) :
    (tree.withIdentity identity).subtree id = tree.subtree id := by
  have goes : walk (tree.withIdentity identity).nodes [(0, id)] =
      (walk tree.nodes [(0, id)]).map fun entry => (entry.1, entry.2.withIdentity identity) :=
    walk_map (Node.withIdentity identity) (fun _ => rfl) (fun _ => rfl) tree.nodes [(0, id)]
  rw [subtree, subtree, goes, List.map_map]
  rfl

theorem withIdentity_without (id : NodeId) :
    (tree.without id).withIdentity identity = (tree.withIdentity identity).without id := by
  rw [without, without, subtree_withIdentity]
  simp only [withIdentity, List.filter_map]
  rfl

theorem withIdentity_updatedAt (id : NodeId) (delta : Props) :
    (tree.updated id delta).withIdentity identity =
      (tree.withIdentity identity).updated id (delta.withIdentity identity) := by
  rw [updated, updated, get?_withIdentity]
  cases tree.get? id with
  | none => rfl
  | some node =>
      have compiled : (node.withIdentity identity).isCompiled = node.isCompiled :=
        Option.isSome_map
      have above : (node.withIdentity identity).parent = node.parent := rfl
      simp only [Option.map_some, compiled, derived?_withIdentity, Node.withIdentity_updated, above]
      split_ifs
      · cases node.updated tree.derived? delta with
        | error error => rfl
        | ok next =>
            simp only [Except.map]
            rw [withIdentity_recompiledFrom, withIdentity_put]
      · exact withIdentity_modify fun node => node.withIdentity_stage delta

theorem withIdentity_perform (tree : Tree) (edit : Edit) :
    (tree.perform edit).withIdentity identity =
      (tree.withIdentity identity).perform (edit.mapProps (Props.withIdentity identity)) := by
  cases edit with
  | create tag props =>
      simp only [perform, Edit.mapProps, Kind.resolve_withIdentity]
      cases Kind.resolve tag props with
      | error error => rfl
      | ok kind =>
          simp only [added, withIdentity, List.map_append, List.map_cons, List.map_nil,
            Node.withIdentity_created]
  | update node delta => exact withIdentity_updatedAt node delta
  | appendChild parent child => exact withIdentity_attached parent child _
  | insertBefore parent child before =>
      simp only [perform, Edit.mapProps, childrenOf_withIdentity]
      split_ifs
      · exact withIdentity_recompiledFrom tree _
      · rw [withIdentity_recompiledFrom, withIdentity_arranged]
      · exact withIdentity_attached parent child _
  | removeChild parent child => exact withIdentity_detached parent child
  | destroy node =>
      simp only [perform, Edit.mapProps]
      rw [withIdentity_without, withIdentity_freed]
  | setRoot node => rfl
  | clearRoot => rfl

/-! ## What is answered -/

/-- The rules of a blueprint see of an entry all but its decoration. -/
theorem entry_withIdentity (id : NodeId) :
    (tree.withIdentity identity).blueprint.entry id =
      (tree.blueprint.entry id).map fun entry =>
        { entry with decoration := entry.decoration.withIdentity identity } := by
  simp only [Blueprint.entry, blueprint, get?_withIdentity]
  cases tree.get? id with
  | none => rfl
  | some node => exact congrArg Except.ok node.entry_withIdentity

theorem lineage_withIdentity (id : NodeId) :
    (tree.withIdentity identity).blueprint.lineage id = tree.blueprint.lineage id :=
  lineageFrom_withIdentity tree (some id)

theorem checkAttachable_withIdentity (parent child : NodeId) :
    (tree.withIdentity identity).blueprint.checkAttachable parent child =
      tree.blueprint.checkAttachable parent child := by
  have root : (tree.withIdentity identity).blueprint.root = tree.blueprint.root := rfl
  simp only [Blueprint.checkAttachable, entry_withIdentity, lineage_withIdentity, root]
  cases tree.blueprint.entry parent with
  | error error => rfl
  | ok parentEntry => cases tree.blueprint.entry child <;> rfl

theorem checkCapacity_withIdentity (parent : NodeId) :
    (tree.withIdentity identity).blueprint.checkCapacity parent =
      tree.blueprint.checkCapacity parent := by
  rw [Blueprint.checkCapacity, Blueprint.checkCapacity, entry_withIdentity]
  cases tree.blueprint.entry parent <;> rfl

theorem checkAppend_withIdentity (parent child : NodeId) :
    (tree.withIdentity identity).blueprint.checkAppend parent child =
      tree.blueprint.checkAppend parent child := by
  rw [Blueprint.checkAppend, checkAttachable_withIdentity, checkCapacity_withIdentity]
  rfl

theorem checkInsert_withIdentity (parent child before : NodeId) :
    (tree.withIdentity identity).blueprint.checkInsert parent child before =
      tree.blueprint.checkInsert parent child before := by
  simp only [Blueprint.checkInsert, entry_withIdentity, checkAppend_withIdentity]
  cases tree.blueprint.entry parent with
  | error error => rfl
  | ok parentEntry => cases tree.blueprint.entry child <;> rfl

theorem checkDetach_withIdentity (parent child : NodeId) :
    (tree.withIdentity identity).blueprint.checkDetach (tree.withIdentity identity).derived?
        parent child =
      tree.blueprint.checkDetach tree.derived? parent child := by
  simp only [Blueprint.checkDetach, entry_withIdentity, derived?_withIdentity, Option.isSome_map]
  cases tree.blueprint.entry parent <;> rfl

theorem checkDestroy_withIdentity (id : NodeId) :
    (tree.withIdentity identity).blueprint.checkDestroy (tree.withIdentity identity).derived? id =
      tree.blueprint.checkDestroy tree.derived? id := by
  simp only [Blueprint.checkDestroy, entry_withIdentity, checkDetach_withIdentity]
  cases tree.blueprint.entry id <;> rfl

theorem checkRoot_withIdentity (id : NodeId) :
    (tree.withIdentity identity).blueprint.checkRoot id = tree.blueprint.checkRoot id := by
  rw [Blueprint.checkRoot, Blueprint.checkRoot, entry_withIdentity]
  cases tree.blueprint.entry id <;> rfl

theorem checkUpdate_withIdentity (id : NodeId) (delta : Props) :
    (tree.withIdentity identity).blueprint.checkUpdate (tree.withIdentity identity).derived? id
        (delta.withIdentity identity) =
      tree.blueprint.checkUpdate tree.derived? id delta := by
  simp only [Blueprint.checkUpdate, entry_withIdentity, derived?_withIdentity, Option.isSome_map,
    Kind.withProps_withIdentity, ← map_mapM]
  cases tree.blueprint.entry id with
  | error error => rfl
  | ok entry =>
      simp only [Except.map, Except.bind_ok]
      split_ifs
      · cases entry.children.mapM tree.derived? with
        | none => rfl
        | some parsers =>
            simp only [Option.map_some, Kind.combine_withIdentity]
            cases (entry.kind.withProps delta).combine parsers <;> rfl
      · rfl

theorem verdict_withIdentity (tree : Tree) (edit : Edit) :
    (tree.withIdentity identity).blueprint.verdict (tree.withIdentity identity).derived?
        (edit.mapProps (Props.withIdentity identity)) =
      tree.blueprint.verdict tree.derived? edit := by
  cases edit with
  | create tag props => rfl
  | update node delta => simp only [Edit.mapProps, Blueprint.verdict, checkUpdate_withIdentity]
  | appendChild parent child =>
      simp only [Edit.mapProps, Blueprint.verdict, checkAppend_withIdentity]
  | insertBefore parent child before =>
      simp only [Edit.mapProps, Blueprint.verdict, checkInsert_withIdentity]
  | removeChild parent child =>
      simp only [Edit.mapProps, Blueprint.verdict, checkDetach_withIdentity]
  | destroy node => simp only [Edit.mapProps, Blueprint.verdict, checkDestroy_withIdentity]
  | setRoot node => simp only [Edit.mapProps, Blueprint.verdict, checkRoot_withIdentity]
  | clearRoot => rfl

/-- Trees and edits that are equal up to identities give equal answers and stay equal. -/
theorem Consistent.apply_congr
    {first second : Tree}
    {edit other : Edit}
    (consistent : first.Consistent)
    (otherConsistent : second.Consistent)
    (trees : first.withIdentity identity = second.withIdentity identity)
    (edits : edit.mapProps (Props.withIdentity identity) =
      other.mapProps (Props.withIdentity identity)) :
    (first.apply edit).1 = (second.apply other).1 ∧
      (first.apply edit).2.withIdentity identity =
        (second.apply other).2.withIdentity identity := by
  have verdicts : first.blueprint.verdict first.derived? edit =
      second.blueprint.verdict second.derived? other := by
    rw [← first.verdict_withIdentity edit, trees, edits, verdict_withIdentity]
  have performed : (first.perform edit).withIdentity identity =
      (second.perform other).withIdentity identity := by
    rw [withIdentity_perform, trees, edits, withIdentity_perform]
  rw [consistent.apply_eq, otherConsistent.apply_eq, verdicts]
  cases second.blueprint.verdict second.derived? other with
  | error error => exact ⟨rfl, trees⟩
  | ok result => exact ⟨rfl, congrArg accepted performed⟩

end Tree

end ParserGraph

import ParserGraph.Proofs.Tree.Perform

/-!
# Consistent trees

A tree is consistent if it is well formed and all its nodes are settled.  Each
accepted edit makes a consistent tree out of a consistent one: the change of one
place leaves only the nodes from there upwards unsettled, and these are compiled
anew.
-/

namespace ParserGraph

namespace Node

variable {node : Node} {derived? : NodeId → Option Parser}

/-! ## Settled nodes -/

/-- A node has a derived parser exactly if it has a combined one. -/
theorem Settled.isSome_derived (settled : node.Settled derived?) :
    node.derived.isSome = node.combined.isSome := by
  rw [settled.decorated, Option.isSome_map]

/-- A leaf is always compiled. -/
theorem Settled.isCompiled_of_isLeaf
    (settled : node.Settled derived?)
    (leaf : node.kind.isLeaf = true) :
    node.isCompiled = true := by
  rcases settled.leaf leaf with ⟨base, _, combined, _⟩
  rw [isCompiled, settled.isSome_derived, combined]
  rfl

/-- Nothing is kept aside by a compiled node. -/
theorem Settled.staged_eq_none
    (settled : node.Settled derived?)
    (compiled : node.isCompiled = true) :
    node.staged = none := by
  apply settled.merged
  rw [← settled.isSome_derived]
  exact compiled

/-- An update that goes through leaves a compiled node settled. -/
theorem Settled.updated
    (settled : node.Settled derived?)
    (compiled : node.isCompiled = true)
    {delta : Props}
    {next : Node}
    (done : node.updated derived? delta = .ok next) :
    next.Settled derived? := by
  have kept := settled.staged_eq_none compiled
  have whole : node.combined.isSome = true := by
    rw [← settled.isSome_derived]
    exact compiled
  cases kind : node.kind.isLeaf with
  | false =>
      have noLeaf : (node.kind.withProps delta).isLeaf = false :=
        (Kind.isLeaf_withProps delta node.kind).trans kind
      rw [updated_of_combinator kind (settled.assembled kind) whole] at done
      cases done
      exact settled_of_combinator noLeaf rfl rfl fun _ => kept
  | true =>
      have leaf : (node.kind.withProps delta).isLeaf = true :=
        (Kind.isLeaf_withProps delta node.kind).trans kind
      rcases settled.leaf kind with ⟨base, fresh, combined, refreshed, alike⟩
      unfold Node.updated at done
      simp only at done
      split_ifs at done with same
      · cases done
        -- Kinds that are the same combine to the same parser, so the old one may stay.
        have canonical := Kind.combine_canonical (node.kind.withProps delta) []
        rw [Kind.same_iff.1 same, Kind.combine_canonical node.kind [], refreshed] at canonical
        cases later : (node.kind.withProps delta).combine [] with
        | error error =>
            rw [later] at canonical
            cases canonical
        | ok other =>
            rw [later] at canonical
            have stays : fresh.canonical = other.canonical := by
              simpa [Except.map] using canonical
            exact settled_of_leaf leaf rfl combined later (alike.trans stays) kept
      · cases parsers : node.children.mapM derived? with
        | none => simp [parsers] at done
        | some list =>
            cases later : (node.kind.withProps delta).combine list with
            | error error => simp [parsers, later, Except.map] at done
            | ok fresh =>
                simp only [parsers, later, Except.map] at done
                cases done
                rw [Kind.combine_of_isLeaf leaf] at later
                exact settled_of_leaf leaf rfl rfl later rfl kept

/-- A node without a parser may keep props aside. -/
theorem Settled.stage
    (settled : node.Settled derived?)
    (uncompiled : node.isCompiled = false)
    (delta : Props) :
    (node.stage delta).Settled derived? where
  decorated := settled.decorated
  assembled := settled.assembled
  leaf := settled.leaf
  merged compiled := by
    have derived : node.derived.isSome = true := settled.isSome_derived.trans compiled
    exact absurd derived (Bool.eq_false_iff.1 uncompiled)

/-! ## New nodes -/

@[simp]
theorem id_created (id : NodeId) (kind : Kind) (props : Props) :
    (created id kind props).id = id := by
  rw [created]
  split_ifs <;> rfl

/-- In the blueprint the props of a new node are merged. -/
theorem entry_created (id : NodeId) (kind : Kind) (props : Props) :
    (created id kind props).entry =
      { kind, decoration := Decoration.overlay {} props } := by
  rw [created]
  split_ifs with leaf undecorated
  · simp [entry, withCombined]
  · have empty : props.decoration = {} := by
      cases props
      simp_all [Props.isEmpty, Props.decoration]
    have plain : Decoration.overlay {} props = {} := by
      rw [← Decoration.overlay_decoration, empty, Decoration.overlay_empty]
    simp [entry, plain]
  · simp [entry]

/-- A new node is settled, if it has a parser or is no leaf. -/
theorem settled_created
    {id : NodeId}
    {kind : Kind}
    {props : Props}
    (combined : kind.isLeaf = true → ∃ base, kind.combine [] = .ok base) :
    (created id kind props).Settled derived? := by
  rw [created]
  split_ifs with leaf undecorated
  · rcases combined leaf with ⟨base, fresh⟩
    refine settled_of_leaf leaf rfl ?_ fresh rfl rfl
    simp [withCombined, fresh, Except.toOption]
  all_goals
    have combinator : kind.isLeaf = false := by simpa using leaf
    have nothing : none = kind.assemble? [] derived? := by
      rw [Kind.assemble?_nil, Kind.combine_nil combinator]
      rfl
    apply settled_of_combinator combinator rfl nothing
    intro compiled
    simp at compiled

end Node

namespace Tree

variable {tree : Tree} {id parent child : NodeId} {pending : List NodeId}

/-! ## Settled nodes after a change -/

theorem Coherent.mono
    (coherent : tree.Coherent pending)
    {later : List NodeId}
    (more : pending ⊆ later) :
    tree.Coherent later := by
  intro id node found outside
  exact coherent id node found fun member => outside (more member)

/-- A change that leaves all parsers unsettles at most the changed node. -/
theorem Coherent.modify
    (coherent : tree.Coherent pending)
    {later : List NodeId}
    (more : pending ⊆ later)
    {change : Node → Node}
    (keeps : ∀ node, node.id = id → (change node).id = id)
    (same : ∀ node, (change node).derived = node.derived)
    (settled : ∀ node, tree.get? id = some node → id ∉ later → node.Settled tree.derived? →
      (change node).Settled tree.derived?) :
    (tree.modify id change).Coherent later := by
  intro other changed found outside
  have before : other ∉ pending := fun member => outside (more member)
  rw [derived?_modify keeps same]
  rw [get?_modify keeps] at found
  split_ifs at found with itself
  · subst itself
    rcases Option.map_eq_some_iff.1 found with ⟨node, there, rfl⟩
    exact settled node there outside (coherent other node there before)
  · exact coherent other changed found before

/-- Children that are placed anew unsettle their parent. -/
theorem Coherent.arranged
    (coherent : tree.Coherent [])
    (parent : NodeId)
    (place : List NodeId → List NodeId) :
    (tree.arranged parent place).Coherent [parent] := by
  refine coherent.modify (List.nil_subset _) (fun _ named => named) (fun _ => rfl) ?_
  intro node _ outside _
  exact absurd List.mem_cons_self outside

/-- Another parent unsettles nothing. -/
theorem Coherent.linked
    (coherent : tree.Coherent pending)
    (child : NodeId)
    (parent : Option NodeId) :
    (tree.linked child parent).Coherent pending := by
  refine coherent.modify (List.Subset.refl _) (fun _ named => named) (fun _ => rfl) ?_
  intro node _ _ settled
  exact ⟨settled.decorated, settled.assembled, settled.leaf, settled.merged⟩

@[simp]
theorem combines_arranged {place : List NodeId → List NodeId} :
    (tree.arranged parent place).Combines id ↔ tree.Combines id := by
  rw [combines_iff, combines_iff, blueprint_arranged, Blueprint.arranged,
    Blueprint.entryOf?_alter]
  split <;> simp

@[simp]
theorem combines_linked {above : Option NodeId} :
    (tree.linked child above).Combines id ↔ tree.Combines id := by
  rw [combines_iff, combines_iff, blueprint_linked, Blueprint.linked, Blueprint.entryOf?_alter]
  split <;> simp

/-- A node with a child is a combinator. -/
theorem WellFormed.combines_of_mem
    (wellFormed : tree.WellFormed)
    (member : child ∈ tree.blueprint.childrenOf parent) :
    tree.Combines parent := by
  have present := Blueprint.present_of_mem_childrenOf member
  rcases present.exists_entryOf? with ⟨entry, found⟩
  rw [Blueprint.childrenOf_eq found] at member
  exact combines_iff.2 ⟨entry, found, wellFormed.forest.isLeaf_of_mem_children found member⟩

/-- Children that are placed anew and another parent leave a tree well formed in a forest. -/
theorem WellFormed.relinked
    (wellFormed : tree.WellFormed)
    {place : List NodeId → List NodeId}
    {above : Option NodeId}
    (forest : ((tree.blueprint.arranged parent place).linked child above).IsForest) :
    ((tree.arranged parent place).linked child above).WellFormed := by
  constructor
  · rw [ids_linked, ids_arranged]
    exact wellFormed.distinct
  · rw [blueprint_linked, blueprint_arranged]
    exact forest

theorem WellFormed.arranged
    (wellFormed : tree.WellFormed)
    {place : List NodeId → List NodeId}
    (forest : (tree.blueprint.arranged parent place).IsForest) :
    (tree.arranged parent place).WellFormed := by
  constructor
  · rw [ids_arranged]
    exact wellFormed.distinct
  · rw [blueprint_arranged]
    exact forest

/-- The rule for an update asks whether a compiled node can be combined with the props. -/
theorem checkUpdate_blueprint
    {node : Node}
    (found : tree.get? id = some node)
    (settled : node.Settled tree.derived?)
    (delta : Props) :
    tree.blueprint.checkUpdate tree.derived? id delta =
      if node.isCompiled then (node.updated tree.derived? delta).map fun _ => ()
      else .ok () := by
  have named := id_of_get? found
  have own : (tree.derived? id).isSome = node.isCompiled := by
    simp [derived?, found, Node.isCompiled]
  simp only [Blueprint.checkUpdate, Blueprint.entry, entryOf?_blueprint found,
    Except.bind_ok, own]
  cases compiled : node.isCompiled with
  | false => simp
  | true =>
      have kind : node.entry.kind = node.kind := by
        simp [Node.entry, settled.staged_eq_none compiled]
      simp only [kind, Node.updated, Node.children_entry, Bool.true_and, if_true]
      cases (node.kind.withProps delta).same node.kind with
      | true => rfl
      | false =>
          cases node.children.mapM tree.derived? with
          | none => simp [named, Except.map]
          | some parsers =>
              cases combined : (node.kind.withProps delta).combine parsers <;>
                simp [combined, Except.map]

/-! ## Consistent trees -/

/-- The tree is well formed, and all its nodes are settled. -/
structure Consistent (tree : Tree) : Prop where
  wellFormed : tree.WellFormed
  coherent : tree.Coherent []

namespace Consistent

/-- Compiling anew upwards from a combinator makes a tree consistent. -/
theorem recompiledFrom
    {place : Option NodeId}
    (wellFormed : tree.WellFormed)
    (combines : ∀ id, place = some id → tree.Combines id)
    (coherent : tree.Coherent (tree.blueprint.lineageFrom place)) :
    (tree.recompiledFrom place).Consistent := by
  refine ⟨wellFormed.recompiledFrom place, Coherent.recompiledFrom wellFormed ?_ coherent⟩
  cases place with
  | none => simp
  | some id => exact wellFormed.combines_of_mem_lineage (combines id rfl)

/-- Children are placed anew and a node gets another parent, so that a forest results. -/
theorem relinked
    (consistent : tree.Consistent)
    {place : List NodeId → List NodeId}
    {above : Option NodeId}
    (forest : ((tree.blueprint.arranged parent place).linked child above).IsForest)
    (combines : tree.Combines parent) :
    (((tree.arranged parent place).linked child above).recompiledFrom
      (some parent)).Consistent := by
  apply recompiledFrom (consistent.wellFormed.relinked forest)
  · rintro other ⟨⟩
    exact combines_linked.2 (combines_arranged.2 combines)
  · apply ((consistent.coherent.arranged parent place).linked child above).mono
    intro other member
    rw [List.mem_singleton.1 member]
    exact Blueprint.IsForest.mem_lineage_self _ parent

/-- Children are placed anew in another order. -/
theorem rearranged
    (consistent : tree.Consistent)
    {place : List NodeId → List NodeId}
    (forest : (tree.blueprint.arranged parent place).IsForest)
    (combines : tree.Combines parent) :
    ((tree.arranged parent place).recompiledFrom (some parent)).Consistent := by
  apply recompiledFrom (consistent.wellFormed.arranged forest)
  · rintro other ⟨⟩
    exact combines_arranged.2 combines
  · apply (consistent.coherent.arranged parent place).mono
    intro other member
    rw [List.mem_singleton.1 member]
    exact Blueprint.IsForest.mem_lineage_self _ parent

theorem detached
    (consistent : tree.Consistent)
    (member : child ∈ tree.blueprint.childrenOf parent) :
    (tree.detached parent child).Consistent :=
  consistent.relinked (consistent.wellFormed.forest.detached member)
    (consistent.wellFormed.combines_of_mem member)

theorem freed (consistent : tree.Consistent) (id : NodeId) : (tree.freed id).Consistent := by
  rw [Tree.freed, ← parent?_blueprint]
  cases above : tree.blueprint.parent? id with
  | none => exact consistent
  | some parent =>
      exact consistent.detached (consistent.wellFormed.forest.mem_childrenOf.2 above)

/-- A node without a parent is dropped with all below it. -/
theorem without
    (consistent : tree.Consistent)
    (top : tree.blueprint.parent? id = none) :
    (tree.without id).Consistent := by
  have wellFormed := consistent.wellFormed
  refine ⟨⟨?_, ?_⟩, ?_⟩
  · refine wellFormed.distinct.sublist ?_
    exact (List.filter_sublist).map Node.id
  · rw [wellFormed.blueprint_without]
    exact wellFormed.forest.without top
  · intro other node found outside
    rw [wellFormed.get?_without] at found
    split_ifs at found with below
    apply (consistent.coherent other node found outside).congr
    intro child member
    rw [← childrenOf_blueprint found] at member
    have above := wellFormed.forest.mem_childrenOf.1 member
    have stays : id ∉ tree.blueprint.lineage child := by
      rw [wellFormed.forest.mem_lineage_iff above]
      rintro (rfl | onWay)
      · simp [top] at above
      · exact below onWay
    unfold derived?
    rw [wellFormed.get?_without, if_neg stays]

/-- A new node with a number of its own stands alone. -/
theorem added
    (consistent : tree.Consistent)
    {node : Node}
    (next : node.id = { number := tree.issued + 1 })
    (alone : node.children = [])
    (top : node.parent = none)
    (settled : node.Settled tree.derived?) :
    (tree.added node).Consistent ∧
      (tree.added node).blueprint = tree.blueprint.added node.entry := by
  have wellFormed := consistent.wellFormed
  have fresh : tree.get? node.id = none := next ▸ wellFormed.get?_next
  have blueprint := blueprint_added next fresh
  refine ⟨⟨⟨?_, ?_⟩, ?_⟩, blueprint⟩
  · have unused : node.id ∉ tree.nodes.map Node.id := by
      intro member
      rcases List.mem_map.1 member with ⟨other, otherMember, named⟩
      have missing := List.find?_eq_none.1 fresh other otherMember
      simp [named] at missing
    rw [Tree.added, List.map_append]
    exact wellFormed.distinct.append (List.nodup_singleton _) (by simpa using unused)
  · rw [blueprint]
    exact wellFormed.forest.added alone top
  · have kept : ∀ other, other ≠ node.id →
        tree.derived? other = (tree.added node).derived? other := by
      intro other different
      unfold derived?
      rw [get?_added fresh, if_neg different]
    intro other later found _
    rw [get?_added fresh] at found
    split_ifs at found with itself
    · cases found
      apply settled.congr
      simp [alone]
    · apply (consistent.coherent other later found List.not_mem_nil).congr
      intro child member
      apply kept child
      rintro rfl
      rw [← childrenOf_blueprint found] at member
      have above := wellFormed.forest.mem_childrenOf.1 member
      rcases exists_get?_of_present (Blueprint.present_of_parent? above) with ⟨old, oldFound⟩
      rw [fresh] at oldFound
      cases oldFound

section Merging

variable {node next : Node} {delta : Props}

/-- A compiled node with props merged changes the blueprint as the props do. -/
theorem blueprint_merged
    (consistent : tree.Consistent)
    (found : tree.get? id = some node)
    (compiled : node.isCompiled = true)
    (done : node.updated tree.derived? delta = .ok next) :
    (tree.put next).blueprint = tree.blueprint.alter id (Entry.withProps delta) := by
  have settled := consistent.coherent id node found List.not_mem_nil
  have named := id_of_get? found
  rcases Node.entry_updated (settled.staged_eq_none compiled) done with ⟨sameId, changed⟩
  have place : tree.get? next.id = some node := by rw [sameId, named, found]
  have blueprint := blueprint_put_alter place changed
  rw [sameId, named] at blueprint
  exact blueprint

theorem wellFormed_merged
    (consistent : tree.Consistent)
    (found : tree.get? id = some node)
    (compiled : node.isCompiled = true)
    (done : node.updated tree.derived? delta = .ok next) :
    (tree.put next).WellFormed := by
  constructor
  · rw [ids_put]
    exact consistent.wellFormed.distinct
  · rw [consistent.blueprint_merged found compiled done]
    exact consistent.wellFormed.forest.withProps id delta

/-- Above a node with props merged there are combinators as before. -/
theorem combines_merged
    (consistent : tree.Consistent)
    (found : tree.get? id = some node)
    (compiled : node.isCompiled = true)
    (done : node.updated tree.derived? delta = .ok next)
    (above : node.parent = some parent) :
    (tree.put next).Combines parent := by
  have wellFormed := consistent.wellFormed_merged found compiled done
  have still : (tree.put next).blueprint.parent? id = some parent := by
    rw [consistent.blueprint_merged found compiled done, Blueprint.parent?_withProps,
      Blueprint.parent?_eq (entryOf?_blueprint found)]
    exact above
  exact wellFormed.combines_of_mem (wellFormed.forest.mem_childrenOf.2 still)

/-- Props are merged into a compiled node, and the nodes above it are compiled anew. -/
theorem merged
    (consistent : tree.Consistent)
    (found : tree.get? id = some node)
    (compiled : node.isCompiled = true)
    (done : node.updated tree.derived? delta = .ok next) :
    ((tree.put next).recompiledFrom node.parent).Consistent := by
  have settled := consistent.coherent id node found List.not_mem_nil
  have named := id_of_get? found
  rcases Node.entry_updated (settled.staged_eq_none compiled) done with ⟨sameId, changed⟩
  have place : tree.get? next.id = some node := by rw [sameId, named, found]
  refine recompiledFrom (consistent.wellFormed_merged found compiled done)
    (fun _ above => consistent.combines_merged found compiled done above) ?_
  have sameChildren : next.children = node.children := congrArg Entry.children changed
  have unsettled := consistent.coherent.mono (List.nil_subset (tree.blueprint.lineage next.id))
  have coherent :=
    unsettled.put consistent.wellFormed place sameChildren (settled.updated compiled done)
  have above : tree.blueprint.parent? next.id = node.parent :=
    Blueprint.parent?_eq (entryOf?_blueprint place)
  rw [above] at coherent
  rw [consistent.blueprint_merged found compiled done, Blueprint.lineageFrom_withProps]
  exact coherent

end Merging

/-- Props are kept aside until a node is compiled. -/
theorem staged
    (consistent : tree.Consistent)
    {node : Node}
    (found : tree.get? id = some node)
    (uncompiled : node.isCompiled = false)
    (delta : Props) :
    (tree.modify id (Node.stage delta)).Consistent ∧
      (tree.modify id (Node.stage delta)).blueprint =
        tree.blueprint.alter id (Entry.withProps delta) := by
  have keeps : ∀ node : Node, node.id = id → (node.stage delta).id = id := fun _ named => named
  have blueprint : (tree.modify id (Node.stage delta)).blueprint =
      tree.blueprint.alter id (Entry.withProps delta) := by
    apply blueprint_modify keeps
    intro node _
    exact Node.entry_stage delta node
  refine ⟨⟨⟨?_, ?_⟩, ?_⟩, blueprint⟩
  · rw [ids_modify keeps]
    exact consistent.wellFormed.distinct
  · rw [blueprint]
    exact consistent.wellFormed.forest.withProps id delta
  · refine consistent.coherent.modify (List.Subset.refl _) keeps (fun _ => rfl) ?_
    intro other there _ settled
    rw [found] at there
    cases there
    exact settled.stage uncompiled delta

/-- Props are merged into a node, or kept aside, as the rules allow it. -/
theorem updated
    (consistent : tree.Consistent)
    {delta : Props}
    (allowed : tree.blueprint.checkUpdate tree.derived? id delta = .ok ()) :
    (tree.updated id delta).Consistent ∧
      (tree.updated id delta).blueprint = tree.blueprint.alter id (Entry.withProps delta) := by
  rcases exists_get?_of_present (Blueprint.present_of_checkUpdate allowed) with ⟨node, found⟩
  have settled := consistent.coherent id node found List.not_mem_nil
  rw [checkUpdate_blueprint found settled] at allowed
  rw [Tree.updated]
  simp only [found]
  split_ifs at allowed ⊢ with compiled
  · cases done : node.updated tree.derived? delta with
    | error error => simp [done, Except.map] at allowed
    | ok next =>
        refine ⟨consistent.merged found compiled done, ?_⟩
        rw [blueprint_recompiledFrom, consistent.blueprint_merged found compiled done]
  · exact consistent.staged found (Bool.eq_false_iff.2 compiled) delta

/-- A new node as the rules allow it. -/
theorem created
    (consistent : tree.Consistent)
    {tag : String}
    {props : Props}
    {kind : Kind}
    (resolved : Kind.resolve tag props = .ok kind)
    (allowed : Blueprint.checkCreate tag props = .ok ()) :
    (tree.added (Node.created { number := tree.issued + 1 } kind props)).Consistent ∧
      (tree.added (Node.created { number := tree.issued + 1 } kind props)).blueprint =
        tree.blueprint.added { kind, decoration := Decoration.overlay {} props } := by
  have entry := Node.entry_created { number := tree.issued + 1 } kind props
  have combined : kind.isLeaf = true → ∃ base, kind.combine [] = .ok base := by
    intro leaf
    simp only [Blueprint.checkCreate, resolved, Except.bind_ok, leaf, if_true] at allowed
    cases result : kind.combine [] with
    | error error => simp [result, Except.map] at allowed
    | ok base => exact ⟨base, rfl⟩
  rw [← entry]
  exact consistent.added (Node.id_created _ kind props) (congrArg Entry.children entry)
    (congrArg Entry.parent entry) (Node.settled_created combined)

/-- Every accepted edit keeps a tree consistent and does to its blueprint what it should. -/
theorem perform
    (consistent : tree.Consistent)
    {edit : Edit}
    {result : Option NodeId}
    (accepted : tree.blueprint.verdict tree.derived? edit = .ok result) :
    (tree.perform edit).Consistent ∧
      (tree.perform edit).blueprint = tree.blueprint.perform edit := by
  have forest := consistent.wellFormed.forest
  have nextForest := forest.perform accepted
  cases edit with
  | create tag props =>
      simp only [Tree.perform, Blueprint.perform]
      cases resolved : Kind.resolve tag props with
      | error error => exact ⟨consistent, rfl⟩
      | ok kind => exact consistent.created resolved (Blueprint.answer_eq_ok_iff.1 accepted).1
  | update node delta =>
      exact consistent.updated (Blueprint.answer_eq_ok_iff.1 accepted).1
  | appendChild parent child =>
      rcases Blueprint.checkAppend_eq_ok_iff.1 (Blueprint.answer_eq_ok_iff.1 accepted).1 with
        ⟨attachable, _⟩
      rcases Blueprint.checkAttachable_eq_ok_iff.1 attachable with
        ⟨entry, _, found, _, combinator, _, _, _⟩
      have combines : tree.Combines parent := combines_iff.2 ⟨entry, found, combinator⟩
      exact ⟨consistent.relinked nextForest combines, blueprint_attached tree parent child _⟩
  | insertBefore parent child before =>
      rcases Blueprint.checkInsert_eq_ok_iff.1 (Blueprint.answer_eq_ok_iff.1 accepted).1 with
        ⟨entry, _, found, _, combinator, _, _⟩
      have combines : tree.Combines parent := combines_iff.2 ⟨entry, found, combinator⟩
      simp only [Tree.perform, Blueprint.perform] at nextForest ⊢
      split_ifs at nextForest ⊢ with moved still
      · refine ⟨recompiledFrom consistent.wellFormed ?_ ?_, blueprint_recompiledFrom tree _⟩
        · rintro other ⟨⟩
          exact combines
        · exact consistent.coherent.mono (List.nil_subset _)
      · refine ⟨consistent.rearranged nextForest combines, ?_⟩
        rw [blueprint_recompiledFrom, blueprint_arranged]
      · exact ⟨consistent.relinked nextForest combines, blueprint_attached tree parent child _⟩
  | removeChild parent child =>
      rcases Blueprint.checkDetach_eq_ok_iff.1 (Blueprint.answer_eq_ok_iff.1 accepted).1 with
        ⟨entry, found, member, _⟩
      rw [← Blueprint.childrenOf_eq found] at member
      exact ⟨consistent.detached member, blueprint_detached tree parent child⟩
  | destroy node =>
      rcases Blueprint.checkDestroy_eq_ok_iff.1 (Blueprint.answer_eq_ok_iff.1 accepted).1 with
        ⟨entry, found, _⟩
      have top := Blueprint.parent?_freed (Blueprint.present_of_entryOf? found)
      have freed := consistent.freed node
      rw [← blueprint_freed] at top
      refine ⟨freed.without top, ?_⟩
      rw [Tree.perform, freed.wellFormed.blueprint_without, blueprint_freed, Blueprint.perform]
  | setRoot node =>
      exact ⟨⟨⟨consistent.wellFormed.distinct, nextForest⟩, consistent.coherent⟩, rfl⟩
  | clearRoot =>
      exact ⟨⟨⟨consistent.wellFormed.distinct, nextForest⟩, consistent.coherent⟩, rfl⟩

end Consistent

end Tree

end ParserGraph

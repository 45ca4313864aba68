import ParserGraph.Proofs.Blueprint.Changes

/-!
# Props and other edits

Props that are merged into a node change what the node is.  Every other edit changes where
nodes stand, or what other nodes are, and looks only at the former.  So on a blueprint
props can be merged before or after any edit that is no update of the same node.
-/

namespace ParserGraph

namespace Blueprint

variable {plan : Blueprint} {id other parent child : NodeId} {props : Props} {edit : Edit}

/-! ## Changes in either order -/

/-- Two changes may come in either order, if they may on the node that both change. -/
theorem alter_alter_comm
    {first second : NodeId}
    {change later : Entry → Entry}
    (commute : first = second → ∀ entry, change (later entry) = later (change entry)) :
    (plan.alter first change).alter second later =
      (plan.alter second later).alter first change := by
  ext1
  · funext id
    simp only [entryOf?_alter]
    by_cases atFirst : id = first
    · by_cases atSecond : id = second
      · have same := commute (atFirst.symm.trans atSecond)
        simp only [if_pos atFirst, if_pos atSecond, Option.map_map]
        congr 1
        funext entry
        exact (same entry).symm
      · simp only [if_pos atFirst, if_neg atSecond]
    · simp only [if_neg atFirst]
  · rfl
  · rfl
  · rfl

theorem arranged_withProps (parent : NodeId) (place : List NodeId → List NodeId) :
    (plan.alter id (Entry.withProps props)).arranged parent place =
      (plan.arranged parent place).alter id (Entry.withProps props) :=
  alter_alter_comm fun _ _ => rfl

theorem linked_withProps (child : NodeId) (above : Option NodeId) :
    (plan.alter id (Entry.withProps props)).linked child above =
      (plan.linked child above).alter id (Entry.withProps props) :=
  alter_alter_comm fun _ _ => rfl

theorem detached_withProps (parent child : NodeId) :
    (plan.alter id (Entry.withProps props)).detached parent child =
      (plan.detached parent child).alter id (Entry.withProps props) := by
  rw [detached, arranged_withProps, linked_withProps]
  rfl

theorem freed_withProps (node : NodeId) :
    (plan.alter id (Entry.withProps props)).freed node =
      (plan.freed node).alter id (Entry.withProps props) := by
  rw [freed, freed, parent?_withProps]
  cases plan.parent? node with
  | none => rfl
  | some parent => exact detached_withProps parent node

theorem lineage_withProps (plan : Blueprint) (id : NodeId) (props : Props) :
    (plan.alter id (Entry.withProps props)).lineage = plan.lineage := by
  funext other
  exact congrFun (lineageFrom_withProps plan id props) (some other)

theorem without_withProps (node : NodeId) :
    (plan.alter id (Entry.withProps props)).without node =
      (plan.without node).alter id (Entry.withProps props) := by
  ext1
  · funext other
    simp only [without, entryOf?_alter, lineage_withProps]
    by_cases below : node ∈ plan.lineage other
    · simp [below]
    · simp [below]
  · rfl
  · rfl
  · rfl

/-- A new node is another one than all that are there. -/
theorem added_withProps
    (forest : plan.IsForest)
    (present : plan.Present id)
    (entry : Entry) :
    (plan.alter id (Entry.withProps props)).added entry =
      (plan.added entry).alter id (Entry.withProps props) := by
  have different : id ≠ { number := plan.issued + 1 } := by
    rintro rfl
    have bounded : plan.issued + 1 ≤ plan.issued := (forest.numbered present).2
    omega
  ext1
  · funext other
    have issued : (plan.alter id (Entry.withProps props)).issued = plan.issued := rfl
    simp only [added, entryOf?_alter, issued]
    by_cases new : other = { number := plan.issued + 1 }
    · simp [new, Ne.symm different]
    · simp [new]
  · rfl
  · rfl
  · rfl

theorem childrenOf_withProps (plan : Blueprint) (id : NodeId) (props : Props) :
    (plan.alter id (Entry.withProps props)).childrenOf = plan.childrenOf := by
  apply childrenOf_alter
  intro entry
  rfl

/-- Props can be merged before or after an edit that is no update of the same node. -/
theorem perform_withProps
    (forest : plan.IsForest)
    (present : plan.Present id)
    (spared : ∀ delta, edit ≠ .update id delta) :
    (plan.alter id (Entry.withProps props)).perform edit =
      (plan.perform edit).alter id (Entry.withProps props) := by
  cases edit with
  | create tag given =>
      simp only [perform]
      cases Kind.resolve tag given with
      | ok kind => exact added_withProps forest present _
      | error error => rfl
  | update node delta =>
      apply alter_alter_comm
      rintro rfl
      exact absurd rfl (spared delta)
  | appendChild parent child =>
      simp only [perform, arranged_withProps, linked_withProps]
  | insertBefore parent child before =>
      simp only [perform, childrenOf_withProps, arranged_withProps, linked_withProps]
      split_ifs <;> rfl
  | removeChild parent child => exact detached_withProps parent child
  | destroy node => simp only [perform, freed_withProps, without_withProps]
  | setRoot node => rfl
  | clearRoot => rfl

/-! ## What an edit leaves of a node -/

section Kinds

@[simp]
theorem map_kind_arranged (parent : NodeId) (place : List NodeId → List NodeId) (id : NodeId) :
    ((plan.arranged parent place).entryOf? id).map Entry.kind =
      (plan.entryOf? id).map Entry.kind :=
  map_entryOf?_alter fun _ => rfl

@[simp]
theorem map_kind_linked (child : NodeId) (above : Option NodeId) (id : NodeId) :
    ((plan.linked child above).entryOf? id).map Entry.kind =
      (plan.entryOf? id).map Entry.kind :=
  map_entryOf?_alter fun _ => rfl

@[simp]
theorem map_kind_freed (node id : NodeId) :
    ((plan.freed node).entryOf? id).map Entry.kind = (plan.entryOf? id).map Entry.kind := by
  rw [freed]
  cases plan.parent? node with
  | none => rfl
  | some parent => exact (map_kind_linked node none id).trans (map_kind_arranged parent _ id)

/-- An edit leaves the kind of a node that is there before and after, or it is an update of it. -/
theorem kind_perform
    (forest : plan.IsForest)
    {entry next : Entry}
    (found : plan.entryOf? id = some entry)
    (later : (plan.perform edit).entryOf? id = some next) :
    next.kind = entry.kind ∨
      ∃ delta, edit = .update id delta ∧ next.kind = entry.kind.withProps delta := by
  have before : (plan.entryOf? id).map Entry.kind = some entry.kind := by rw [found]; rfl
  have after : ((plan.perform edit).entryOf? id).map Entry.kind = some next.kind := by
    rw [later]
    rfl
  cases edit with
  | create tag props =>
      simp only [perform] at later
      cases resolved : Kind.resolve tag props with
      | error error =>
          rw [resolved, found] at later
          cases later
          exact Or.inl rfl
      | ok kind =>
          rw [resolved, entryOf?_added_of_present forest (present_of_entryOf? found), found]
            at later
          cases later
          exact Or.inl rfl
  | update node delta =>
      simp only [perform, entryOf?_alter, found] at later
      split_ifs at later with same
      · subst same
        cases later
        exact Or.inr ⟨delta, rfl, rfl⟩
      · cases later
        exact Or.inl rfl
  | appendChild parent child =>
      simp only [perform, map_kind_linked, map_kind_arranged, before] at after
      exact Or.inl (Option.some.inj after).symm
  | insertBefore parent child before =>
      simp only [perform] at after
      split_ifs at after <;> simp_all
  | removeChild parent child =>
      simp only [perform, detached, map_kind_linked, map_kind_arranged, before] at after
      exact Or.inl (Option.some.inj after).symm
  | destroy node =>
      simp only [perform, without] at later
      split_ifs at later
      have kept : ((plan.freed node).entryOf? id).map Entry.kind =
          (plan.entryOf? id).map Entry.kind := map_kind_freed node id
      rw [later, before] at kept
      exact Or.inl (Option.some.inj kept)
  | setRoot node =>
      rw [perform, found] at later
      cases later
      exact Or.inl rfl
  | clearRoot =>
      rw [perform, found] at later
      cases later
      exact Or.inl rfl

end Kinds

/-- A node that is dropped with all below it has those below it on no other way up. -/
theorem not_mem_lineage_freed
    (forest : plan.IsForest)
    {node : NodeId}
    (presentNode : plan.Present node)
    (outside : node ∉ plan.lineage id) :
    node ∉ (plan.freed node).lineage id := by
  have climbs : ∀ upper ∈ (plan.freed node).lineage id, node ∉ plan.lineage upper := by
    refine forall_mem_climb ?_ _ ?_
    · intro lower upper above notBelow
      have kept : plan.parent? lower = some upper := by
        rw [freed] at above
        cases parent : plan.parent? node with
        | none => rwa [parent] at above
        | some place =>
            rw [parent] at above
            simp only [parent?_detached presentNode] at above
            split_ifs at above
            exact above
      intro below
      exact notBelow ((forest.mem_lineage_iff kept node).2 (Or.inr below))
    · rintro start ⟨⟩
      exact outside
  intro member
  exact climbs node member (IsForest.mem_lineage_self plan node)

/-- A node stays, unless it is dropped or lies below one that is. -/
theorem present_perform
    (forest : plan.IsForest)
    (present : plan.Present id)
    (spared : ∀ node, edit = .destroy node → plan.Present node ∧ node ∉ plan.lineage id) :
    (plan.perform edit).Present id := by
  cases edit with
  | create tag props =>
      simp only [perform]
      cases Kind.resolve tag props with
      | error error => exact present
      | ok kind => exact present_added.2 (Or.inr present)
  | update node delta => exact present_alter.2 present
  | appendChild parent child => exact present_linked.2 (present_arranged.2 present)
  | insertBefore parent child before =>
      simp only [perform]
      split_ifs
      · exact present
      · exact present_arranged.2 present
      · exact present_linked.2 (present_arranged.2 present)
  | removeChild parent child => exact present_detached.2 present
  | destroy node =>
      rcases spared node rfl with ⟨presentNode, outside⟩
      refine present_without.2 ⟨?_, not_mem_lineage_freed forest presentNode outside⟩
      rw [freed]
      cases plan.parent? node with
      | none => exact present
      | some parent => exact present_detached.2 present
  | setRoot node => exact present
  | clearRoot => exact present

/-! ## Rules that do not look at props -/

theorem entry_withProps (other : NodeId) :
    (plan.alter id (Entry.withProps props)).entry other =
      (plan.entry other).map fun entry =>
        if other = id then entry.withProps props else entry := by
  rw [entry, entryOf?_alter, entry]
  split_ifs with same
  · cases plan.entryOf? other <;> rfl
  · cases plan.entryOf? other <;> rfl

section Merged

variable (entry : Entry) (props : Props) (merges : Prop) [Decidable merges]

@[simp]
theorem children_ite_withProps :
    (if merges then entry.withProps props else entry).children = entry.children := by
  split_ifs <;> rfl

@[simp]
theorem parent_ite_withProps :
    (if merges then entry.withProps props else entry).parent = entry.parent := by
  split_ifs <;> rfl

@[simp]
theorem isLeaf_ite_withProps :
    (if merges then entry.withProps props else entry).kind.isLeaf = entry.kind.isLeaf := by
  split_ifs <;> simp [Entry.withProps]

@[simp]
theorem tag_ite_withProps :
    (if merges then entry.withProps props else entry).kind.tag = entry.kind.tag := by
  split_ifs <;> simp [Entry.withProps]

@[simp]
theorem maxChildren_ite_withProps (options : TreeOptions) :
    (if merges then entry.withProps props else entry).kind.maxChildren options =
      entry.kind.maxChildren options := by
  split_ifs <;> simp [Entry.withProps]

end Merged

theorem checkAttachable_withProps (parent child : NodeId) :
    (plan.alter id (Entry.withProps props)).checkAttachable parent child =
      plan.checkAttachable parent child := by
  have root : (plan.alter id (Entry.withProps props)).root = plan.root := rfl
  simp only [checkAttachable, entry_withProps, lineage_withProps, root]
  cases plan.entry parent with
  | error error => rfl
  | ok parentEntry =>
      cases plan.entry child with
      | error error => rfl
      | ok childEntry => simp [Except.map]

theorem checkCapacity_withProps (parent : NodeId) :
    (plan.alter id (Entry.withProps props)).checkCapacity parent = plan.checkCapacity parent := by
  have options : (plan.alter id (Entry.withProps props)).options = plan.options := rfl
  rw [checkCapacity, checkCapacity, entry_withProps, options]
  cases plan.entry parent with
  | error error => rfl
  | ok entry => simp [Except.map]

theorem checkAppend_withProps (parent child : NodeId) :
    (plan.alter id (Entry.withProps props)).checkAppend parent child =
      plan.checkAppend parent child := by
  rw [checkAppend, checkAttachable_withProps, checkCapacity_withProps, checkAppend]

theorem checkInsert_withProps (parent child before : NodeId) :
    (plan.alter id (Entry.withProps props)).checkInsert parent child before =
      plan.checkInsert parent child before := by
  simp only [checkInsert, entry_withProps, checkAppend_withProps]
  cases plan.entry parent with
  | error error => rfl
  | ok parentEntry =>
      cases plan.entry child with
      | error error => simp [Except.map]
      | ok childEntry => simp [Except.map]

section Parsers

variable {before? after? : NodeId → Option Parser}

/-- Of the parsers only those count that there are. -/
theorem checkDetach_withProps
    (compiled : ∀ id, (after? id).isSome = (before? id).isSome)
    (parent child : NodeId) :
    (plan.alter id (Entry.withProps props)).checkDetach after? parent child =
      plan.checkDetach before? parent child := by
  rw [checkDetach, checkDetach, entry_withProps, compiled]
  cases plan.entry parent with
  | error error => rfl
  | ok entry => simp [Except.map]

theorem checkDestroy_withProps
    (compiled : ∀ id, (after? id).isSome = (before? id).isSome)
    (node : NodeId) :
    (plan.alter id (Entry.withProps props)).checkDestroy after? node =
      plan.checkDestroy before? node := by
  rw [checkDestroy, checkDestroy, entry_withProps]
  cases plan.entry node with
  | error error => rfl
  | ok entry => simp [Except.map, checkDetach_withProps compiled]

theorem checkRoot_withProps (node : NodeId) :
    (plan.alter id (Entry.withProps props)).checkRoot node = plan.checkRoot node := by
  rw [checkRoot, checkRoot, entry_withProps]
  cases plan.entry node with
  | error error => rfl
  | ok entry => simp [Except.map]

/-- Merged props change no answer but those to updates. -/
theorem verdict_withProps
    (compiled : ∀ id, (after? id).isSome = (before? id).isSome)
    (updates : ∀ node delta, edit = .update node delta →
      (plan.alter id (Entry.withProps props)).checkUpdate after? node delta =
        plan.checkUpdate before? node delta) :
    (plan.alter id (Entry.withProps props)).verdict after? edit =
      plan.verdict before? edit := by
  cases edit with
  | create tag given => rfl
  | update node delta => simp only [verdict, updates node delta rfl]
  | appendChild parent child => simp only [verdict, checkAppend_withProps]
  | insertBefore parent child before => simp only [verdict, checkInsert_withProps]
  | removeChild parent child => simp only [verdict, checkDetach_withProps compiled]
  | destroy node => simp only [verdict, checkDestroy_withProps compiled]
  | setRoot node => simp only [verdict, checkRoot_withProps]
  | clearRoot => rfl

end Parsers

end Blueprint

end ParserGraph

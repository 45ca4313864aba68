import ParserGraph.Proofs.Blueprint.Rules
import ParserGraph.Proofs.Blueprint.Views

/-!
# Changes of forests

Every change that a rule lets through keeps the forest.
-/

namespace ParserGraph

namespace Blueprint

variable {plan : Blueprint} {id other child parent : NodeId}

/-! ## Changes that keep the forest -/

namespace IsForest

/-- Whatever leaves all views leaves the forest. -/
theorem of_views
    (forest : plan.IsForest)
    {next : Blueprint}
    (issued : next.issued = plan.issued)
    (root : next.root = plan.root)
    (present : ∀ {id}, next.Present id ↔ plan.Present id)
    (parents : next.parent? = plan.parent?)
    (children : next.childrenOf = plan.childrenOf)
    (room : next.roomOf = plan.roomOf) :
    next.IsForest where
  numbered found := issued ▸ forest.numbered (present.1 found)
  mem_childrenOf := by rw [parents, children]; exact forest.mem_childrenOf
  distinct := by rw [children]; exact forest.distinct
  ranked := by rw [parents]; exact forest.ranked
  capacity := by rw [children, room]; exact forest.capacity
  root_top designated := by
    rw [root] at designated
    rw [parents]
    exact ⟨present.2 (forest.root_top designated).1, (forest.root_top designated).2⟩

/-- Props change what a node is, and not where it stands. -/
theorem withProps (forest : plan.IsForest) (id : NodeId) (props : Props) :
    (plan.alter id (Entry.withProps props)).IsForest :=
  forest.of_views rfl rfl present_alter (parent?_withProps plan id props)
    (childrenOf_alter fun _ => rfl) (roomOf_alter fun _ => by simp [Entry.withProps])

/-- The children of a node come into another order. -/
theorem arranged
    (forest : plan.IsForest)
    (present : plan.Present parent)
    {place : List NodeId → List NodeId}
    (reordered : (place (plan.childrenOf parent)).Perm (plan.childrenOf parent)) :
    (plan.arranged parent place).IsForest := by
  have children := childrenOf_arranged present place
  have same : ∀ other, ((plan.arranged parent place).childrenOf other).Perm
      (plan.childrenOf other) := by
    intro other
    rw [children]
    split
    · rename_i equality
      exact equality ▸ reordered
    · exact List.Perm.refl _
  constructor
  · intro id found
    exact forest.numbered (present_arranged.1 found)
  · intro id child
    rw [(same id).mem_iff, parent?_arranged]
    exact forest.mem_childrenOf
  · intro id
    exact (same id).nodup_iff.2 (forest.distinct id)
  · rw [parent?_arranged]
    exact forest.ranked
  · intro id
    rw [(same id).length_eq, roomOf_arranged]
    exact forest.capacity id
  · intro id designated
    rw [parent?_arranged]
    exact ⟨present_arranged.2 (forest.root_top designated).1, (forest.root_top designated).2⟩

/-- Everything below a node may be moved down by as much as a new parent of it lies deep. -/
theorem ranked_attached
    (forest : plan.IsForest)
    (notBelow : child ∉ plan.lineage parent) :
    ∃ depth : NodeId → Nat, ∀ {lower upper},
      (if lower = child then some parent else plan.parent? lower) = some upper →
        depth upper < depth lower := by
  rcases forest.ranked with ⟨depth, ranked⟩
  refine ⟨fun id => if child ∈ plan.lineage id then depth id + depth parent + 1 else depth id, ?_⟩
  intro lower upper above
  split at above
  · rename_i equality
    subst equality
    cases above
    simp only [if_neg notBelow, if_pos (mem_lineage_self plan lower)]
    omega
  · rename_i different
    have onWay := forest.mem_lineage_iff above child
    have higher := ranked above
    by_cases below : child ∈ plan.lineage upper
    · simp only [if_pos below, if_pos (onWay.2 (Or.inr below))]
      omega
    · have notLower : child ∉ plan.lineage lower := by
        intro member
        rcases onWay.1 member with equality | member
        · exact different equality.symm
        · exact below member
      simpa only [if_neg below, if_neg notLower] using higher

/-- A free node is put below a node with room, which is not below it. -/
theorem attached
    (forest : plan.IsForest)
    (presentParent : plan.Present parent)
    (presentChild : plan.Present child)
    (free : plan.parent? child = none)
    (noRoot : plan.root ≠ some child)
    (notBelow : child ∉ plan.lineage parent)
    (room : (plan.childrenOf parent).length < plan.roomOf parent)
    {place : List NodeId → List NodeId}
    (placed : (place (plan.childrenOf parent)).Perm (child :: plan.childrenOf parent)) :
    ((plan.arranged parent place).linked child (some parent)).IsForest := by
  have children := childrenOf_attached presentParent place child
  have parents := parent?_attached presentChild place parent
  have notChild : ∀ id, child ∉ plan.childrenOf id := by
    intro id member
    simp [forest.mem_childrenOf.1 member] at free
  constructor
  · intro id found
    exact forest.numbered (present_arranged.1 (present_linked.1 found))
  · intro id other
    rw [children, parents]
    split_ifs with atParent isChild isChild
    · simp [placed.mem_iff, isChild, atParent]
    · simp [placed.mem_iff, isChild, atParent, forest.mem_childrenOf]
    · simp [isChild, notChild, Ne.symm atParent]
    · exact forest.mem_childrenOf
  · intro id
    rw [children]
    split
    · exact placed.nodup_iff.2 (List.nodup_cons.2 ⟨notChild parent, forest.distinct parent⟩)
    · exact forest.distinct id
  · simp only [parents]
    exact forest.ranked_attached notBelow
  · intro id
    rw [children, roomOf_linked, roomOf_arranged]
    split
    · rename_i equality
      rw [placed.length_eq, equality]
      exact room
    · exact forest.capacity id
  · intro id designated
    rcases forest.root_top designated with ⟨present, top⟩
    refine ⟨present_linked.2 (present_arranged.2 present), ?_⟩
    rw [parents, if_neg]
    · exact top
    · rintro rfl
      exact noRoot designated

/-- A child is taken from its parent. -/
theorem detached
    (forest : plan.IsForest)
    (member : child ∈ plan.childrenOf parent) :
    (plan.detached parent child).IsForest := by
  have above := forest.mem_childrenOf.1 member
  have children := childrenOf_detached (present_of_mem_childrenOf member) child
  have parents := parent?_detached (present_of_parent? above) parent
  have fewer : ∀ other, ((plan.detached parent child).childrenOf other).Sublist
      (plan.childrenOf other) := by
    intro other
    rw [children]
    split
    · rename_i equality
      exact equality ▸ List.erase_sublist
    · exact List.Sublist.refl _
  constructor
  · intro id found
    exact forest.numbered (present_detached.1 found)
  · intro id other
    rw [children, parents]
    split_ifs with atParent isChild isChild
    · simp [isChild, (forest.distinct parent).mem_erase_iff]
    · simp [isChild, atParent, (forest.distinct parent).mem_erase_iff, forest.mem_childrenOf]
    · simp [isChild, forest.mem_childrenOf, above, Ne.symm atParent]
    · exact forest.mem_childrenOf
  · intro id
    exact (forest.distinct id).sublist (fewer id)
  · rcases forest.ranked with ⟨depth, ranked⟩
    refine ⟨depth, ?_⟩
    intro lower upper found
    rw [parents] at found
    split at found
    · cases found
    · exact ranked found
  · intro id
    rw [roomOf_detached]
    exact Nat.le_trans (fewer id).length_le (forest.capacity id)
  · intro id designated
    rcases forest.root_top designated with ⟨present, top⟩
    refine ⟨present_detached.2 present, ?_⟩
    rw [parents, top]
    exact ite_self _

/-- A node more stands alone. -/
theorem added
    (forest : plan.IsForest)
    {entry : Entry}
    (alone : entry.children = [])
    (top : entry.parent = none) :
    (plan.added entry).IsForest := by
  have children := childrenOf_added forest alone
  have parents := parent?_added forest top
  constructor
  · intro id present
    rcases present_added.1 present with rfl | old
    · exact ⟨Nat.le_add_left 1 _, Nat.le_refl _⟩
    · have bounded := forest.numbered old
      exact ⟨bounded.1, Nat.le_succ_of_le bounded.2⟩
  · rw [children, parents]
    exact forest.mem_childrenOf
  · rw [children]
    exact forest.distinct
  · rw [parents]
    exact forest.ranked
  · intro id
    rw [children]
    by_cases old : plan.Present id
    · rw [roomOf_added_of_present forest old]
      exact forest.capacity id
    · cases listed : plan.childrenOf id with
      | nil => exact Nat.zero_le _
      | cons first rest =>
          have member : first ∈ plan.childrenOf id := listed ▸ List.mem_cons_self
          exact absurd (present_of_mem_childrenOf member) old
  · intro id designated
    rcases forest.root_top designated with ⟨present, noParent⟩
    exact ⟨present_added.2 (Or.inr present), parents ▸ noParent⟩

/-- A node is taken from its parent, if it has one. -/
theorem freed (forest : plan.IsForest) (id : NodeId) : (plan.freed id).IsForest := by
  rw [Blueprint.freed]
  cases above : plan.parent? id with
  | none => exact forest
  | some parent => exact forest.detached (forest.mem_childrenOf.2 above)

/-- Parent and child are dropped together, as the top of what is dropped has no parent. -/
theorem mem_lineage_iff_of_top
    (forest : plan.IsForest)
    (top : plan.parent? id = none)
    (above : plan.parent? child = some parent) :
    id ∈ plan.lineage child ↔ id ∈ plan.lineage parent := by
  rw [forest.mem_lineage_iff above]
  refine ⟨fun either => either.resolve_left ?_, Or.inr⟩
  rintro rfl
  simp [top] at above

/-- A node without a parent is dropped with all below it. -/
theorem without
    (forest : plan.IsForest)
    (top : plan.parent? id = none) :
    (plan.without id).IsForest := by
  constructor
  · intro other present
    exact forest.numbered (present_without.1 present).1
  · intro other child
    rw [childrenOf_without, parent?_without]
    by_cases above : plan.parent? child = some other
    · have together := forest.mem_lineage_iff_of_top top above
      by_cases below : id ∈ plan.lineage other
      · simp [below, together.2 below]
      · simp [below, mt together.1 below, forest.mem_childrenOf]
    · have notChild : child ∉ plan.childrenOf other := mt forest.mem_childrenOf.1 above
      split_ifs <;> simp_all
  · intro other
    rw [childrenOf_without]
    split
    · exact List.nodup_nil
    · exact forest.distinct other
  · rcases forest.ranked with ⟨depth, ranked⟩
    refine ⟨depth, ?_⟩
    intro lower upper above
    rw [parent?_without] at above
    split at above
    · cases above
    · exact ranked above
  · intro other
    rw [childrenOf_without]
    split
    · exact Nat.zero_le _
    · rename_i stays
      rw [roomOf_without stays]
      exact forest.capacity other
  · intro other designated
    rcases root_without.1 designated with ⟨kept, different⟩
    rcases forest.root_top kept with ⟨present, noParent⟩
    have alone := forest.lineage_eq_singleton present noParent
    refine ⟨present_without.2 ⟨present, by simp [alone, different]⟩, ?_⟩
    rw [parent?_without, noParent]
    exact ite_self _

/-- Another root, which has no parent, or none. -/
theorem rooted
    (forest : plan.IsForest)
    {root : Option NodeId}
    (top : ∀ id, root = some id → plan.Present id ∧ plan.parent? id = none) :
    ({ plan with root } : Blueprint).IsForest where
  numbered := forest.numbered
  mem_childrenOf := forest.mem_childrenOf
  distinct := forest.distinct
  ranked := forest.ranked
  capacity := forest.capacity
  root_top designated := top _ designated

/-! ## Accepted edits -/

variable {derived? : NodeId → Option Parser}

theorem appended
    (forest : plan.IsForest)
    (allowed : plan.checkAppend parent child = .ok ())
    {place : List NodeId → List NodeId}
    (placed : (place (plan.childrenOf parent)).Perm (child :: plan.childrenOf parent)) :
    ((plan.arranged parent place).linked child (some parent)).IsForest := by
  rcases checkAppend_eq_ok_iff.1 allowed with ⟨attachable, capable⟩
  rcases checkAttachable_eq_ok_iff.1 attachable with
    ⟨parentEntry, childEntry, parentFound, childFound, _, free, noRoot, notBelow⟩
  rcases checkCapacity_eq_ok_iff.1 capable with ⟨entry, found, room⟩
  rw [← childrenOf_eq found, ← roomOf_eq found] at room
  exact forest.attached (present_of_entryOf? parentFound) (present_of_entryOf? childFound)
    ((parent?_eq childFound).trans free) noRoot notBelow room placed

/-- Every accepted edit makes a forest out of a forest. -/
theorem perform
    (forest : plan.IsForest)
    {edit : Edit}
    {result : Option NodeId}
    (accepted : plan.verdict derived? edit = .ok result) :
    (plan.perform edit).IsForest := by
  cases edit with
  | create tag props =>
      simp only [Blueprint.perform]
      cases Kind.resolve tag props with
      | ok kind => exact forest.added rfl rfl
      | error _ => exact forest
  | update node delta => exact forest.withProps node delta
  | appendChild parent child =>
      exact forest.appended (answer_eq_ok_iff.1 accepted).1 (List.perm_append_singleton child _)
  | insertBefore parent child before =>
      rcases checkInsert_eq_ok_iff.1 (answer_eq_ok_iff.1 accepted).1 with
        ⟨parentEntry, childEntry, parentFound, _, _, _, allowed⟩
      rw [← childrenOf_eq parentFound] at allowed
      simp only [Blueprint.perform]
      split_ifs with moved still
      · exact forest
      · apply forest.arranged (present_of_entryOf? parentFound)
        exact (Node.insertChild_perm _ child before).trans (List.perm_cons_erase moved).symm
      · exact forest.appended (allowed.resolve_left moved) (Node.insertChild_perm _ child before)
  | removeChild parent child =>
      rcases checkDetach_eq_ok_iff.1 (answer_eq_ok_iff.1 accepted).1 with ⟨entry, found, member, _⟩
      exact forest.detached (childrenOf_eq found ▸ member)
  | destroy node =>
      rcases checkDestroy_eq_ok_iff.1 (answer_eq_ok_iff.1 accepted).1 with ⟨entry, found, _⟩
      exact (forest.freed node).without (parent?_freed (present_of_entryOf? found))
  | setRoot node =>
      rcases checkRoot_eq_ok_iff.1 (answer_eq_ok_iff.1 accepted).1 with ⟨entry, found, top⟩
      apply forest.rooted
      rintro id ⟨⟩
      exact ⟨present_of_entryOf? found, (parent?_eq found).trans top⟩
  | clearRoot =>
      apply forest.rooted
      rintro id ⟨⟩

end IsForest

end Blueprint

end ParserGraph

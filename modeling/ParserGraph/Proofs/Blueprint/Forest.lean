import Mathlib.Data.List.Nodup
import ParserGraph.Proofs.Blueprint.Basic

/-!
# Forests

In a forest the children and the parents agree, no way up comes back to its start,
no node has more children than its kind allows, and the root has no parent.  The
way up from a node of a forest is then the node itself followed by the way up from
its parent: the fuel of the walk is never used up.

Every change that the rules let through makes a forest out of a forest.
-/

namespace ParserGraph

/-! ## Ways up -/

section Climb

variable {parent? : NodeId → Option NodeId}

@[simp]
theorem climb_none (fuel : Nat) : climb parent? fuel none = [] := by
  cases fuel <;> rfl

/-- A way that ends before its fuel does stays the same with more fuel. -/
theorem climb_add
    {fuel : Nat}
    {place : Option NodeId}
    (ended : (climb parent? fuel place).length < fuel)
    (more : Nat) :
    climb parent? (fuel + more) place = climb parent? fuel place := by
  induction fuel generalizing place with
  | zero => simp at ended
  | succ fuel hypothesis =>
      cases place with
      | none => simp
      | some id =>
          have shorter : (climb parent? fuel (parent? id)).length < fuel := by
            simpa [climb] using ended
          rw [Nat.add_right_comm]
          simp only [climb]
          rw [hypothesis shorter]

/-- What is closed under parents holds all the way up. -/
theorem forall_mem_climb
    {holds : NodeId → Prop}
    (closed : ∀ {child parent}, parent? child = some parent → holds child → holds parent)
    (fuel : Nat)
    {place : Option NodeId}
    (start : ∀ id, place = some id → holds id) :
    ∀ id ∈ climb parent? fuel place, holds id := by
  induction fuel generalizing place with
  | zero => simp [climb]
  | succ fuel hypothesis =>
      cases place with
      | none => simp
      | some first =>
          intro id member
          rcases List.mem_cons.1 member with rfl | member
          · exact start id rfl
          · exact hypothesis (fun _ above => closed above (start first rfl)) id member

/-- A way that ends before its fuel does goes on wherever there is a parent. -/
theorem mem_climb_of_parent?
    {fuel : Nat}
    {place : Option NodeId}
    (ended : (climb parent? fuel place).length < fuel)
    {child parent : NodeId}
    (member : child ∈ climb parent? fuel place)
    (above : parent? child = some parent) :
    parent ∈ climb parent? fuel place := by
  induction fuel generalizing place with
  | zero => simp at ended
  | succ fuel hypothesis =>
      cases place with
      | none => simp at member
      | some first =>
          have shorter : (climb parent? fuel (parent? first)).length < fuel := by
            simpa [climb] using ended
          apply List.mem_cons_of_mem first
          rcases List.mem_cons.1 member with rfl | member
          · rw [above] at shorter ⊢
            cases fuel with
            | zero => simp at shorter
            | succ fuel => exact List.mem_cons_self
          · exact hypothesis shorter member

variable {depth : NodeId → Nat}

/-- On the way up the depth only decreases. -/
theorem depth_le_of_mem_climb
    (ranked : ∀ {child parent}, parent? child = some parent → depth parent < depth child)
    (fuel : Nat)
    {first id : NodeId}
    (member : id ∈ climb parent? fuel (some first)) :
    depth id ≤ depth first := by
  induction fuel generalizing first with
  | zero => simp [climb] at member
  | succ fuel hypothesis =>
      rcases List.mem_cons.1 member with rfl | member
      · exact Nat.le_refl _
      · cases above : parent? first with
        | none => simp [above] at member
        | some parent =>
            rw [above] at member
            exact Nat.le_trans (hypothesis member) (Nat.le_of_lt (ranked above))

/-- A way up does not meet a node twice. -/
theorem nodup_climb
    (ranked : ∀ {child parent}, parent? child = some parent → depth parent < depth child)
    (fuel : Nat)
    (place : Option NodeId) :
    (climb parent? fuel place).Nodup := by
  induction fuel generalizing place with
  | zero => simp [climb]
  | succ fuel hypothesis =>
      cases place with
      | none => simp
      | some first =>
          refine List.nodup_cons.2 ⟨?_, hypothesis _⟩
          intro member
          cases above : parent? first with
          | none => simp [above] at member
          | some parent =>
              rw [above] at member
              have lower := depth_le_of_mem_climb ranked fuel member
              have higher := ranked above
              omega

end Climb

/-- Putting a child in front of another adds it to the children. -/
theorem Node.insertChild_perm (children : List NodeId) (child before : NodeId) :
    (Node.insertChild children child before).Perm (child :: children) := by
  induction children with
  | nil => exact List.Perm.refl _
  | cons first rest hypothesis =>
      rw [insertChild]
      split
      · exact List.Perm.refl _
      · exact (hypothesis.cons first).trans (List.Perm.swap child first rest)

/-- A new child that was put in front of another is taken out again without a trace. -/
theorem Node.erase_insertChild
    {children : List NodeId}
    {child : NodeId}
    (fresh : child ∉ children)
    (before : NodeId) :
    (Node.insertChild children child before).erase child = children := by
  induction children with
  | nil => simp [insertChild]
  | cons first rest hypothesis =>
      rcases not_or.1 (mt List.mem_cons.2 fresh) with ⟨different, later⟩
      rw [insertChild]
      split
      · exact List.erase_cons_head child _
      · rw [List.erase_cons_tail (by simpa using Ne.symm different), hypothesis later]

namespace Blueprint

variable {plan : Blueprint} {id child parent : NodeId} {entry : Entry}

/-! ## Looking up entries -/

theorem present_of_entryOf? (found : plan.entryOf? id = some entry) : plan.Present id := by
  simp [Present, found]

theorem Present.exists_entryOf? (present : plan.Present id) :
    ∃ entry, plan.entryOf? id = some entry :=
  Option.isSome_iff_exists.1 present

theorem parent?_eq (found : plan.entryOf? id = some entry) : plan.parent? id = entry.parent := by
  simp [parent?, found]

theorem childrenOf_eq (found : plan.entryOf? id = some entry) :
    plan.childrenOf id = entry.children := by
  simp [childrenOf, found]

theorem roomOf_eq (found : plan.entryOf? id = some entry) :
    plan.roomOf id = entry.kind.maxChildren plan.options := by
  simp [roomOf, found]

/-- Only a node that is there has children. -/
theorem present_of_mem_childrenOf (member : child ∈ plan.childrenOf id) : plan.Present id := by
  unfold childrenOf at member
  rw [Present]
  cases found : plan.entryOf? id with
  | none => simp [found] at member
  | some entry => rfl

/-- Only a node that is there has a parent. -/
theorem present_of_parent? (above : plan.parent? child = some parent) : plan.Present child := by
  rcases Option.bind_eq_some_iff.1 above with ⟨entry, found, _⟩
  exact present_of_entryOf? found

/-! ## Forests -/

/-- Children and parents agree, without cycles and within all limits. -/
structure IsForest (plan : Blueprint) : Prop where
  /-- Nodes are numbered from one up to the number of nodes created. -/
  numbered : ∀ {id}, plan.Present id → 1 ≤ id.number ∧ id.number ≤ plan.issued
  /-- A node is a child exactly of its parent. -/
  mem_childrenOf : ∀ {id child}, child ∈ plan.childrenOf id ↔ plan.parent? child = some id
  /-- No child is listed twice. -/
  distinct : ∀ id, (plan.childrenOf id).Nodup
  /-- Parents lie above their children, so there is no cycle. -/
  ranked : ∃ depth : NodeId → Nat,
    ∀ {child parent}, plan.parent? child = some parent → depth parent < depth child
  capacity : ∀ id, (plan.childrenOf id).length ≤ plan.roomOf id
  root_top : ∀ {id}, plan.root = some id → plan.Present id ∧ plan.parent? id = none

theorem isForest_withOptions (options : TreeOptions) : (withOptions options).IsForest where
  numbered present := by simp [withOptions, Present] at present
  mem_childrenOf := by simp [withOptions, childrenOf, parent?]
  distinct id := by simp [withOptions, childrenOf]
  ranked := ⟨fun _ => 0, fun above => by simp [withOptions, parent?] at above⟩
  capacity id := by simp [withOptions, childrenOf]
  root_top designated := by simp [withOptions] at designated

namespace IsForest

/-- A parent is there. -/
theorem present_parent (forest : plan.IsForest) (above : plan.parent? child = some parent) :
    plan.Present parent :=
  present_of_mem_childrenOf (forest.mem_childrenOf.2 above)

/-- A way up holds no more nodes than were created, whatever its fuel. -/
theorem length_climb_le
    (forest : plan.IsForest)
    (fuel : Nat)
    {place : Option NodeId}
    (present : ∀ id, place = some id → plan.Present id) :
    (climb plan.parent? fuel place).length ≤ plan.issued := by
  rcases forest.ranked with ⟨depth, ranked⟩
  have distinct : (climb plan.parent? fuel place).Nodup := nodup_climb ranked fuel place
  have numbers : ((climb plan.parent? fuel place).map NodeId.number).Nodup := by
    refine List.Nodup.map ?_ distinct
    rintro ⟨first⟩ ⟨second⟩ equal
    exact congrArg NodeId.mk equal
  have within : (climb plan.parent? fuel place).map NodeId.number ⊆
      List.range' 1 plan.issued := by
    intro number member
    rcases List.mem_map.1 member with ⟨id, onWay, rfl⟩
    have onWayPresent :=
      forall_mem_climb (fun above _ => forest.present_parent above) fuel present id onWay
    rcases forest.numbered onWayPresent with ⟨positive, bounded⟩
    exact List.mem_range'_1.2 ⟨positive, by omega⟩
  simpa using numbers.length_le_of_subset within

/-- Enough fuel does not change a way up. -/
theorem climb_eq_lineageFrom
    (forest : plan.IsForest)
    {fuel : Nat}
    {place : Option NodeId}
    (present : ∀ id, place = some id → plan.Present id)
    (enough : (climb plan.parent? fuel place).length < fuel) :
    climb plan.parent? fuel place = plan.lineageFrom place := by
  have ended : (climb plan.parent? (plan.issued + 1) place).length < plan.issued + 1 :=
    Nat.lt_succ_of_le (forest.length_climb_le _ present)
  rw [lineageFrom, ← climb_add enough (plan.issued + 1), ← climb_add ended fuel,
    Nat.add_comm fuel]

theorem nodup_lineageFrom (forest : plan.IsForest) (place : Option NodeId) :
    (plan.lineageFrom place).Nodup := by
  rcases forest.ranked with ⟨depth, ranked⟩
  exact nodup_climb ranked _ place

/-- The way up from a node starts with it and goes on from its parent. -/
theorem lineage_eq (forest : plan.IsForest) (present : plan.Present id) :
    plan.lineage id = id :: plan.lineageFrom (plan.parent? id) := by
  have start : ∀ other, some id = some other → plan.Present other := by
    rintro other ⟨⟩
    exact present
  have above : ∀ other, plan.parent? id = some other → plan.Present other :=
    fun _ found => forest.present_parent found
  have bounded := forest.length_climb_le (plan.issued + 1) start
  have shorter : (climb plan.parent? plan.issued (plan.parent? id)).length < plan.issued :=
    Nat.lt_of_succ_le (by simpa [climb] using bounded)
  rw [lineage, lineageFrom, climb, forest.climb_eq_lineageFrom above shorter]

@[simp]
theorem lineageFrom_none : plan.lineageFrom none = [] :=
  climb_none _

theorem mem_lineage_self (plan : Blueprint) (id : NodeId) : id ∈ plan.lineage id :=
  List.mem_cons_self

/-- On the way up from a child lie the child and all on the way up from its parent. -/
theorem mem_lineage_iff
    (forest : plan.IsForest)
    (above : plan.parent? child = some parent)
    (id : NodeId) :
    id ∈ plan.lineage child ↔ id = child ∨ id ∈ plan.lineage parent := by
  rw [forest.lineage_eq (present_of_parent? above), above, List.mem_cons]
  exact Iff.rfl

/-- With a node its parent lies on a way up. -/
theorem mem_lineage_parent
    (forest : plan.IsForest)
    (present : plan.Present child)
    (member : id ∈ plan.lineage child)
    (above : plan.parent? id = some parent) :
    parent ∈ plan.lineage child := by
  refine mem_climb_of_parent? (Nat.lt_succ_of_le (forest.length_climb_le _ ?_)) member above
  rintro start ⟨⟩
  exact present

/-- A node without a parent is alone on its way up. -/
theorem lineage_eq_singleton
    (forest : plan.IsForest)
    (present : plan.Present id)
    (top : plan.parent? id = none) :
    plan.lineage id = [id] := by
  rw [forest.lineage_eq present, top, lineageFrom_none]

/-- All nodes on the way up from a node are there. -/
theorem present_of_mem_lineage
    (forest : plan.IsForest)
    (present : plan.Present child)
    (member : id ∈ plan.lineage child) :
    plan.Present id := by
  refine forall_mem_climb (fun above _ => forest.present_parent above) _ ?_ id member
  rintro start ⟨⟩
  exact present

/-- What holds of a node whenever it holds of its parent holds of all nodes. -/
theorem parents_induction
    (forest : plan.IsForest)
    {holds : NodeId → Prop}
    (step : ∀ id, (∀ parent, plan.parent? id = some parent → holds parent) → holds id)
    (id : NodeId) :
    holds id := by
  rcases forest.ranked with ⟨depth, ranked⟩
  induction rank : depth id using Nat.strongRecOn generalizing id with
  | ind length hypothesis =>
      apply step
      intro parent above
      exact hypothesis _ (rank ▸ ranked above) parent rfl

/-- The way up from a node ends at one without a parent. -/
theorem exists_getLast?_lineage (forest : plan.IsForest) (present : plan.Present id) :
    ∃ top, (plan.lineage id).getLast? = some top ∧ plan.parent? top = none := by
  induction id using forest.parents_induction with
  | step id hypothesis =>
      rw [forest.lineage_eq present]
      cases above : plan.parent? id with
      | none =>
          rw [lineageFrom_none]
          exact ⟨id, rfl, above⟩
      | some parent =>
          rcases hypothesis parent above (forest.present_parent above) with ⟨top, ends, free⟩
          have onwards : (plan.lineageFrom (some parent)).getLast? = some top := ends
          refine ⟨top, ?_, free⟩
          rw [List.getLast?_cons, onwards]
          rfl

/-- Above each node there is one without a parent. -/
theorem exists_top (forest : plan.IsForest) (present : plan.Present id) :
    ∃ top ∈ plan.lineage id, plan.Present top ∧ plan.parent? top = none := by
  rcases forest.exists_getLast?_lineage present with ⟨top, ends, free⟩
  have onWay := List.mem_of_getLast? ends
  exact ⟨top, onWay, forest.present_of_mem_lineage present onWay, free⟩

/-- No node is a child of its own. -/
theorem parent?_ne_self (forest : plan.IsForest) (id : NodeId) :
    plan.parent? id ≠ some id := by
  intro above
  rcases forest.ranked with ⟨depth, ranked⟩
  exact Nat.lt_irrefl _ (ranked above)

/-- A node with a child is a combinator. -/
theorem isLeaf_of_mem_children
    (forest : plan.IsForest)
    (found : plan.entryOf? id = some entry)
    (member : child ∈ entry.children) :
    entry.kind.isLeaf = false := by
  have bounded := forest.capacity id
  rw [childrenOf_eq found, roomOf_eq found] at bounded
  have positive := List.length_pos_of_mem member
  cases leaf : entry.kind.isLeaf with
  | false => rfl
  | true =>
      have none : entry.kind.maxChildren plan.options = 0 := by
        cases kind : entry.kind <;> simp [kind, Kind.isLeaf] at leaf <;> rfl
      omega

/-- All nodes above a combinator are combinators. -/
theorem isLeaf_of_mem_lineage
    (forest : plan.IsForest)
    (found : plan.entryOf? child = some entry)
    (combinator : entry.kind.isLeaf = false)
    (member : id ∈ plan.lineage child) :
    ∃ upper, plan.entryOf? id = some upper ∧ upper.kind.isLeaf = false := by
  have bare : ∀ {lower upper : NodeId}, plan.parent? lower = some upper →
      ∃ entry, plan.entryOf? upper = some entry ∧ entry.kind.isLeaf = false := by
    intro lower upper above
    rcases (forest.present_parent above).exists_entryOf? with ⟨entry, found⟩
    have member := forest.mem_childrenOf.2 above
    rw [childrenOf_eq found] at member
    exact ⟨entry, found, forest.isLeaf_of_mem_children found member⟩
  refine forall_mem_climb (fun above _ => bare above) _ ?_ id member
  rintro start ⟨⟩
  exact ⟨entry, found, combinator⟩

end IsForest

end Blueprint

end ParserGraph

import ParserGraph.Proofs.Blueprint.Forest

/-!
# Views of changed blueprints

What a change of a blueprint does to the nodes that there are, to their parents and
children, and to the room that they have for children.
-/

namespace ParserGraph

namespace Blueprint

variable {plan : Blueprint} {id other child parent : NodeId}

/-! ## Changes of one entry -/

theorem entryOf?_alter (id other : NodeId) (change : Entry → Entry) :
    (plan.alter id change).entryOf? other =
      if other = id then (plan.entryOf? other).map change else plan.entryOf? other :=
  rfl

@[simp]
theorem present_alter {change : Entry → Entry} :
    (plan.alter id change).Present other ↔ plan.Present other := by
  unfold Present
  rw [entryOf?_alter]
  split <;> simp

/-- What a change leaves in each entry, it leaves in every view that looks only at that. -/
theorem map_entryOf?_alter
    {Seen : Type}
    {change : Entry → Entry}
    {look : Entry → Seen}
    (keeps : ∀ entry, look (change entry) = look entry) :
    ((plan.alter id change).entryOf? other).map look = (plan.entryOf? other).map look := by
  rw [entryOf?_alter]
  split
  · rw [Option.map_map]
    congr 1
    exact funext keeps
  · rfl

theorem parent?_alter
    {change : Entry → Entry}
    (keeps : ∀ entry, (change entry).parent = entry.parent) :
    (plan.alter id change).parent? = plan.parent? := by
  funext other
  have seen : ((plan.alter id change).entryOf? other).map Entry.parent =
      (plan.entryOf? other).map Entry.parent :=
    map_entryOf?_alter keeps
  cases before : plan.entryOf? other <;> cases after : (plan.alter id change).entryOf? other <;>
    simp_all [parent?]

@[simp]
theorem parent?_withProps (plan : Blueprint) (id : NodeId) (props : Props) :
    (plan.alter id (Entry.withProps props)).parent? = plan.parent? := by
  refine parent?_alter ?_
  intro entry
  rfl

/-- Props do not change a way up. -/
@[simp]
theorem lineageFrom_withProps (plan : Blueprint) (id : NodeId) (props : Props) :
    (plan.alter id (Entry.withProps props)).lineageFrom = plan.lineageFrom := by
  funext place
  rw [lineageFrom, lineageFrom, parent?_withProps]
  rfl

theorem childrenOf_alter
    {change : Entry → Entry}
    (keeps : ∀ entry, (change entry).children = entry.children) :
    (plan.alter id change).childrenOf = plan.childrenOf := by
  funext other
  exact congrArg (Option.getD · []) (map_entryOf?_alter keeps)

theorem roomOf_alter
    {change : Entry → Entry}
    (keeps : ∀ entry, (change entry).kind.maxChildren plan.options =
      entry.kind.maxChildren plan.options) :
    (plan.alter id change).roomOf = plan.roomOf := by
  funext other
  exact congrArg (Option.getD · 0) (map_entryOf?_alter keeps)

/-! ## Children and parents placed anew -/

@[simp]
theorem present_arranged {place : List NodeId → List NodeId} :
    (plan.arranged parent place).Present other ↔ plan.Present other :=
  present_alter

@[simp]
theorem parent?_arranged (parent : NodeId) (place : List NodeId → List NodeId) :
    (plan.arranged parent place).parent? = plan.parent? := by
  refine parent?_alter ?_
  intro entry
  rfl

@[simp]
theorem roomOf_arranged (parent : NodeId) (place : List NodeId → List NodeId) :
    (plan.arranged parent place).roomOf = plan.roomOf := by
  apply roomOf_alter
  intro entry
  rfl

theorem childrenOf_arranged
    (present : plan.Present parent)
    (place : List NodeId → List NodeId)
    (other : NodeId) :
    (plan.arranged parent place).childrenOf other =
      if other = parent then place (plan.childrenOf parent) else plan.childrenOf other := by
  rcases present.exists_entryOf? with ⟨entry, found⟩
  unfold arranged childrenOf
  rw [entryOf?_alter]
  split
  · rename_i equality
    subst equality
    simp [found]
  · rfl

@[simp]
theorem present_linked {place : Option NodeId} :
    (plan.linked child place).Present other ↔ plan.Present other :=
  present_alter

@[simp]
theorem childrenOf_linked (child : NodeId) (place : Option NodeId) :
    (plan.linked child place).childrenOf = plan.childrenOf := by
  apply childrenOf_alter
  intro entry
  rfl

@[simp]
theorem roomOf_linked (child : NodeId) (place : Option NodeId) :
    (plan.linked child place).roomOf = plan.roomOf := by
  apply roomOf_alter
  intro entry
  rfl

theorem parent?_linked
    (present : plan.Present child)
    (place : Option NodeId)
    (other : NodeId) :
    (plan.linked child place).parent? other =
      if other = child then place else plan.parent? other := by
  rcases present.exists_entryOf? with ⟨entry, found⟩
  rw [linked, parent?, entryOf?_alter]
  split
  · rename_i equality
    subst equality
    simp [found]
  · rfl

theorem childrenOf_attached
    (present : plan.Present parent)
    (place : List NodeId → List NodeId)
    (child other : NodeId) :
    ((plan.arranged parent place).linked child (some parent)).childrenOf other =
      if other = parent then place (plan.childrenOf parent) else plan.childrenOf other := by
  rw [childrenOf_linked, childrenOf_arranged present]

theorem parent?_attached
    (present : plan.Present child)
    (place : List NodeId → List NodeId)
    (parent other : NodeId) :
    ((plan.arranged parent place).linked child (some parent)).parent? other =
      if other = child then some parent else plan.parent? other := by
  rw [parent?_linked (present_arranged.2 present), parent?_arranged]

@[simp]
theorem present_detached : (plan.detached parent child).Present other ↔ plan.Present other :=
  present_linked.trans present_arranged

@[simp]
theorem roomOf_detached (parent child : NodeId) :
    (plan.detached parent child).roomOf = plan.roomOf := by
  rw [Blueprint.detached, roomOf_linked, roomOf_arranged]

theorem childrenOf_detached (present : plan.Present parent) (child other : NodeId) :
    (plan.detached parent child).childrenOf other =
      if other = parent then (plan.childrenOf parent).erase child else plan.childrenOf other := by
  rw [Blueprint.detached, childrenOf_linked, childrenOf_arranged present]

theorem parent?_detached (present : plan.Present child) (parent other : NodeId) :
    (plan.detached parent child).parent? other =
      if other = child then none else plan.parent? other := by
  rw [Blueprint.detached, parent?_linked (present_arranged.2 present), parent?_arranged]

/-- A freed node has no parent. -/
theorem parent?_freed (present : plan.Present id) : (plan.freed id).parent? id = none := by
  rw [Blueprint.freed]
  cases above : plan.parent? id with
  | none => exact above
  | some parent => exact (parent?_detached present parent id).trans (if_pos rfl)

/-! ## Nodes that come and go -/

theorem IsForest.entryOf?_next (forest : plan.IsForest) :
    plan.entryOf? { number := plan.issued + 1 } = none := by
  cases found : plan.entryOf? { number := plan.issued + 1 } with
  | none => rfl
  | some old =>
      have bounded : plan.issued + 1 ≤ plan.issued :=
        (forest.numbered (present_of_entryOf? found)).2
      omega

section Added

variable {entry : Entry}

/-- A new node is another one than all that are there. -/
theorem entryOf?_added_of_present (forest : plan.IsForest) (present : plan.Present other) :
    (plan.added entry).entryOf? other = plan.entryOf? other := by
  have different : other ≠ { number := plan.issued + 1 } := by
    rintro rfl
    simp [Present, forest.entryOf?_next] at present
  exact if_neg different

theorem childrenOf_added (forest : plan.IsForest) (alone : entry.children = []) :
    (plan.added entry).childrenOf = plan.childrenOf := by
  funext other
  simp only [childrenOf, Blueprint.added]
  split
  · rename_i equality
    subst equality
    simp [forest.entryOf?_next, alone]
  · rfl

theorem parent?_added (forest : plan.IsForest) (top : entry.parent = none) :
    (plan.added entry).parent? = plan.parent? := by
  funext other
  simp only [parent?, Blueprint.added]
  split
  · rename_i equality
    subst equality
    simp [forest.entryOf?_next, top]
  · rfl

theorem roomOf_added_of_present (forest : plan.IsForest) (present : plan.Present other) :
    (plan.added entry).roomOf other = plan.roomOf other := by
  rw [roomOf, entryOf?_added_of_present forest present]
  rfl

theorem present_added :
    (plan.added entry).Present other ↔
      other = { number := plan.issued + 1 } ∨ plan.Present other := by
  unfold Present Blueprint.added
  by_cases new : other = { number := plan.issued + 1 } <;> simp [new]

end Added

theorem present_without :
    (plan.without id).Present other ↔ plan.Present other ∧ id ∉ plan.lineage other := by
  unfold Present Blueprint.without
  by_cases below : id ∈ plan.lineage other <;> simp [below]

theorem childrenOf_without (plan : Blueprint) (id other : NodeId) :
    (plan.without id).childrenOf other =
      if id ∈ plan.lineage other then [] else plan.childrenOf other := by
  unfold childrenOf Blueprint.without
  by_cases below : id ∈ plan.lineage other <;> simp [below]

theorem parent?_without (plan : Blueprint) (id other : NodeId) :
    (plan.without id).parent? other =
      if id ∈ plan.lineage other then none else plan.parent? other := by
  unfold parent? Blueprint.without
  by_cases below : id ∈ plan.lineage other <;> simp [below]

theorem roomOf_without (stays : id ∉ plan.lineage other) :
    (plan.without id).roomOf other = plan.roomOf other := by
  unfold roomOf Blueprint.without
  simp [stays]

theorem root_without :
    (plan.without id).root = some other ↔ plan.root = some other ∧ id ≠ other := by
  rw [Blueprint.without]
  by_cases designated : plan.root = some id
  · rw [if_pos designated, designated]
    simp
  · rw [if_neg designated]
    refine ⟨fun found => ⟨found, ?_⟩, And.left⟩
    rintro rfl
    exact designated found

end Blueprint

end ParserGraph

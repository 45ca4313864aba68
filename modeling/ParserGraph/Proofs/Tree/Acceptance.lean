import ParserGraph.Proofs.Tree.Locality
import ParserGraph.Proofs.Tree.Ownership

/-!
# Which structural edits are accepted

Edits that move nodes share three checks: that a child may come below a parent, that the
parent has room for it, and that a parent can do without a child.  Here it is said of the
nodes themselves when each edit is accepted.

A cycle would arise among the children, but it is looked for among the parents.  In a
forest both are the same links, so one link more closes a cycle exactly if its upper end
lies below its lower one already.
-/

namespace ParserGraph

/-- A way over the given links and one more either does without that one, or takes it last once. -/
theorem transGen_or_link
    {Item : Type}
    {links : Item → Item → Prop}
    {upper lower first last : Item}
    (way : Relation.TransGen
      (fun above below => links above below ∨ above = upper ∧ below = lower) first last) :
    Relation.TransGen links first last ∨
      Relation.ReflTransGen links first upper ∧ Relation.ReflTransGen links lower last := by
  induction way with
  | single link =>
      rcases link with old | ⟨rfl, rfl⟩
      · exact Or.inl (.single old)
      · exact Or.inr ⟨.refl, .refl⟩
  | tail _ link hypothesis =>
      rcases link with old | ⟨rfl, rfl⟩
      · rcases hypothesis with without | ⟨before, behind⟩
        · exact Or.inl (without.tail old)
        · exact Or.inr ⟨before, behind.tail old⟩
      · rcases hypothesis with without | ⟨before, _⟩
        · exact Or.inr ⟨without.to_reflTransGen, .refl⟩
        · exact Or.inr ⟨before, .refl⟩

namespace Blueprint

variable {plan : Blueprint} {parent child : NodeId}

/-- The way up from the parent is walked last, and nothing else is called a cycle. -/
theorem checkAttachable_eq_cycleDetected_iff :
    plan.checkAttachable parent child = .error .cycleDetected ↔
      ∃ parentEntry childEntry,
        plan.entryOf? parent = some parentEntry ∧ plan.entryOf? child = some childEntry ∧
          parentEntry.kind.isLeaf = false ∧ childEntry.parent = none ∧
          plan.root ≠ some child ∧ child ∈ plan.lineage parent := by
  unfold checkAttachable Blueprint.entry
  cases plan.entryOf? parent with
  | none => simp
  | some parentEntry =>
      cases plan.entryOf? child with
      | none => simp
      | some childEntry =>
          simp only [Except.bind_ok]
          split_ifs with leaf attached below
          · simp_all
          · grind
          · simp_all
          · simp_all

/-- A parent without room is not called a cycle. -/
theorem checkAppend_eq_cycleDetected_iff :
    plan.checkAppend parent child = .error .cycleDetected ↔
      plan.checkAttachable parent child = .error .cycleDetected := by
  rw [checkAppend]
  cases plan.checkAttachable parent child with
  | error error => rfl
  | ok _ =>
      rw [Except.bind_ok, checkCapacity, Blueprint.entry]
      cases plan.entryOf? parent with
      | none => simp
      | some entry =>
          simp only [Except.bind_ok]
          split_ifs <;> simp

end Blueprint

namespace Tree

variable {tree : Tree} {id parent child before : NodeId} {edit : Edit}

/-- The edit is not refused. -/
def Accepts (tree : Tree) (edit : Edit) : Prop :=
  ∃ result, (tree.apply edit).1 = .ok result

/-- A node is there and lists the other one as its child. -/
def Lists (tree : Tree) (parent child : NodeId) : Prop :=
  ∃ node, tree.get? parent = some node ∧ child ∈ node.children

/-- A combinator, and a node that has no parent and is not the root. -/
structure Joinable (tree : Tree) (parent child : NodeId) : Prop where
  combines : tree.Combines parent
  free : ∃ node, tree.get? child = some node ∧ node.parent = none
  not_root : tree.root ≠ some child

/-- A node is there and has fewer children than its kind allows. -/
def HasRoom (tree : Tree) (id : NodeId) : Prop :=
  ∃ node, tree.get? id = some node ∧ node.children.length < node.kind.maxChildren tree.options

/-- With the child put below the parent some node would lie below itself. -/
def ClosesCycle (tree : Tree) (parent child : NodeId) : Prop :=
  ∃ id, Relation.TransGen
    (fun upper lower => tree.Lists upper lower ∨ upper = parent ∧ lower = child) id id

/-! ## Nodes and what their blueprint says of them -/

theorem lists_iff : tree.Lists parent child ↔ child ∈ tree.blueprint.childrenOf parent := by
  rw [Lists]
  cases found : tree.get? parent with
  | none => simp [Blueprint.childrenOf, entryOf?_blueprint_eq_none found]
  | some node => simp [childrenOf_blueprint found]

theorem hasRoom_iff : tree.HasRoom id ↔ tree.blueprint.checkCapacity id = .ok () := by
  have options : tree.blueprint.options = tree.options := rfl
  rw [HasRoom, Blueprint.checkCapacity_eq_ok_iff]
  cases found : tree.get? id with
  | none => simp [entryOf?_blueprint_eq_none found]
  | some node => simp [entryOf?_blueprint found, options]

theorem joinable_iff :
    tree.Joinable parent child ↔
      ∃ parentEntry childEntry,
        tree.blueprint.entryOf? parent = some parentEntry ∧
          tree.blueprint.entryOf? child = some childEntry ∧
          parentEntry.kind.isLeaf = false ∧ childEntry.parent = none ∧
          tree.blueprint.root ≠ some child := by
  constructor
  · rintro ⟨⟨parentNode, parentFound, combinator⟩, ⟨childNode, childFound, free⟩, noRoot⟩
    exact ⟨parentNode.entry, childNode.entry, entryOf?_blueprint parentFound,
      entryOf?_blueprint childFound, parentNode.isLeaf_entry.trans combinator, free, noRoot⟩
  · rintro ⟨parentEntry, childEntry, parentFound, childFound, combinator, free, noRoot⟩
    rcases Option.map_eq_some_iff.1 childFound with ⟨childNode, there, rfl⟩
    exact ⟨combines_iff.2 ⟨parentEntry, parentFound, combinator⟩, ⟨childNode, there, free⟩, noRoot⟩

/-- Children are listed where parents are pointed to from. -/
theorem WellFormed.lists_eq_swap (wellFormed : tree.WellFormed) :
    tree.Lists = Function.swap fun lower upper => tree.parent? lower = some upper := by
  funext upper lower
  refine propext ?_
  rw [lists_iff, wellFormed.forest.mem_childrenOf, parent?_blueprint]

/-- Down over children is up over parents. -/
theorem WellFormed.reflTransGen_lists_iff (wellFormed : tree.WellFormed) :
    Relation.ReflTransGen tree.Lists parent child ↔ tree.AtOrAbove parent child := by
  rw [wellFormed.lists_eq_swap, Relation.reflTransGen_swap]
  exact Iff.rfl

/-- A link more closes a cycle exactly if it leads from a node to that node or to one above it. -/
theorem WellFormed.closesCycle_iff (wellFormed : tree.WellFormed) :
    tree.ClosesCycle parent child ↔ tree.AtOrAbove child parent := by
  have acyclic : ∀ id, ¬ Relation.TransGen tree.Lists id id := by
    intro id
    rw [wellFormed.lists_eq_swap, Relation.transGen_swap, ← parent?_blueprint]
    exact wellFormed.forest.not_transGen_parent id
  rw [← wellFormed.reflTransGen_lists_iff]
  constructor
  · rintro ⟨id, cycle⟩
    rcases transGen_or_link cycle with without | ⟨before, behind⟩
    · exact absurd without (acyclic id)
    · exact behind.trans before
  · intro way
    refine ⟨child, Relation.TransGen.tail' (b := parent) ?_ (Or.inr ⟨rfl, rfl⟩)⟩
    exact Relation.ReflTransGen.mono (fun _ _ => Or.inl) _ _ way

/-! ## What is accepted -/

namespace Consistent

theorem accepts_iff (consistent : tree.Consistent) :
    tree.Accepts edit ↔ ∃ result, tree.blueprint.verdict tree.derived? edit = .ok result := by
  rw [Accepts, consistent.fst_apply]

theorem accepts_appendChild_iff (consistent : tree.Consistent) :
    tree.Accepts (.appendChild parent child) ↔
      tree.Joinable parent child ∧ ¬ tree.AtOrAbove child parent ∧ tree.HasRoom parent := by
  rw [consistent.accepts_iff, ← consistent.wellFormed.mem_lineage_iff_atOrAbove, joinable_iff,
    hasRoom_iff]
  simp only [Blueprint.verdict, Blueprint.answer_eq_ok_iff, Blueprint.checkAppend_eq_ok_iff,
    Blueprint.checkAttachable_eq_ok_iff]
  grind

theorem apply_appendChild_eq_cycleDetected_iff (consistent : tree.Consistent) :
    (tree.apply (.appendChild parent child)).1 = .error .cycleDetected ↔
      tree.Joinable parent child ∧ tree.AtOrAbove child parent := by
  have refused : (tree.apply (.appendChild parent child)).1 = .error .cycleDetected ↔
      tree.blueprint.checkAppend parent child = .error .cycleDetected := by
    rw [consistent.fst_apply, Blueprint.verdict]
    cases tree.blueprint.checkAppend parent child <;> simp [Except.map]
  rw [refused, Blueprint.checkAppend_eq_cycleDetected_iff,
    Blueprint.checkAttachable_eq_cycleDetected_iff, joinable_iff,
    ← consistent.wellFormed.mem_lineage_iff_atOrAbove]
  grind

theorem accepts_insertBefore_iff (consistent : tree.Consistent) :
    tree.Accepts (.insertBefore parent child before) ↔
      tree.Combines parent ∧ (tree.get? child).isSome = true ∧ tree.Lists parent before ∧
        (tree.Lists parent child ∨ tree.Accepts (.appendChild parent child)) := by
  have appends : tree.Accepts (.appendChild parent child) ↔
      tree.blueprint.checkAppend parent child = .ok () := by
    rw [consistent.accepts_iff]
    simp [Blueprint.verdict, Blueprint.answer_eq_ok_iff]
  have present : (tree.get? child).isSome = true ↔
      ∃ entry, tree.blueprint.entryOf? child = some entry := by
    rw [← Option.isSome_iff_exists, blueprint, Option.isSome_map]
  rw [appends, present, combines_iff, lists_iff, lists_iff, consistent.accepts_iff]
  simp only [Blueprint.verdict, Blueprint.answer_eq_ok_iff, Blueprint.checkInsert_eq_ok_iff]
  constructor
  · rintro ⟨_, ⟨parentEntry, childEntry, found, there, combinator, anchored, allowed⟩, _⟩
    rw [← Blueprint.childrenOf_eq found] at anchored allowed
    exact ⟨⟨parentEntry, found, combinator⟩, ⟨childEntry, there⟩, anchored, allowed⟩
  · rintro ⟨⟨parentEntry, found, combinator⟩, ⟨childEntry, there⟩, anchored, allowed⟩
    rw [Blueprint.childrenOf_eq found] at anchored allowed
    exact ⟨_, ⟨parentEntry, childEntry, found, there, combinator, anchored, allowed⟩, rfl⟩

theorem accepts_removeChild_iff (consistent : tree.Consistent) :
    tree.Accepts (.removeChild parent child) ↔
      ∃ node, tree.get? parent = some node ∧ child ∈ node.children ∧
        ¬ (node.isCompiled = true ∧ node.children = [child]) := by
  rw [consistent.accepts_iff]
  simp only [Blueprint.verdict, Blueprint.answer_eq_ok_iff, Blueprint.checkDetach_eq_ok_iff]
  cases found : tree.get? parent with
  | none => simp [entryOf?_blueprint_eq_none found]
  | some node =>
      have own : (tree.derived? parent).isSome = node.isCompiled := by
        rw [derived?, found]
        rfl
      have single : child ∈ node.children →
          (node.children.length = 1 ↔ node.children = [child]) := by
        intro member
        rw [List.length_eq_one_iff]
        constructor
        · rintro ⟨only, listed⟩
          rw [listed] at member ⊢
          rw [List.mem_singleton.1 member]
        · intro listed
          exact ⟨child, listed⟩
      rw [entryOf?_blueprint found, own]
      grind [Node.children_entry]

theorem accepts_destroy_iff (consistent : tree.Consistent) :
    tree.Accepts (.destroy id) ↔
      ∃ node, tree.get? id = some node ∧
        (node.parent = none ∨
          ∃ parent, node.parent = some parent ∧ tree.Accepts (.removeChild parent id)) := by
  have removes : ∀ parent, tree.Accepts (.removeChild parent id) ↔
      tree.blueprint.checkDetach tree.derived? parent id = .ok () := by
    intro parent
    rw [consistent.accepts_iff]
    simp [Blueprint.verdict, Blueprint.answer_eq_ok_iff]
  rw [consistent.accepts_iff]
  simp only [Blueprint.verdict, Blueprint.answer_eq_ok_iff, Blueprint.checkDestroy_eq_ok_iff,
    removes]
  cases found : tree.get? id with
  | none => simp [entryOf?_blueprint_eq_none found]
  | some node =>
      rw [entryOf?_blueprint found]
      cases above : node.parent <;> simp [above]

theorem accepts_setRoot_iff (consistent : tree.Consistent) :
    tree.Accepts (.setRoot id) ↔ ∃ node, tree.get? id = some node ∧ node.parent = none := by
  rw [consistent.accepts_iff]
  simp only [Blueprint.verdict, Blueprint.answer_eq_ok_iff, Blueprint.checkRoot_eq_ok_iff]
  cases found : tree.get? id with
  | none => simp [entryOf?_blueprint_eq_none found]
  | some node => simp [entryOf?_blueprint found]

end Consistent

/-- Each structural edit is accepted under conditions on the nodes that it names. -/
structure DecidesEdits (tree : Tree) : Prop where
  append_iff :
    ∀ parent child,
      tree.Accepts (.appendChild parent child) ↔
        tree.Joinable parent child ∧ ¬ tree.AtOrAbove child parent ∧ tree.HasRoom parent
  cycle_iff :
    ∀ parent child,
      (tree.apply (.appendChild parent child)).1 = .error .cycleDetected ↔
        tree.Joinable parent child ∧ tree.AtOrAbove child parent
  /-- What is called a cycle is one among the children. -/
  closes_iff : ∀ parent child, tree.ClosesCycle parent child ↔ tree.AtOrAbove child parent
  insert_iff :
    ∀ parent child before,
      tree.Accepts (.insertBefore parent child before) ↔
        tree.Combines parent ∧ (tree.get? child).isSome = true ∧ tree.Lists parent before ∧
          (tree.Lists parent child ∨ tree.Accepts (.appendChild parent child))
  remove_iff :
    ∀ parent child,
      tree.Accepts (.removeChild parent child) ↔
        ∃ node, tree.get? parent = some node ∧ child ∈ node.children ∧
          ¬ (node.isCompiled = true ∧ node.children = [child])
  destroy_iff :
    ∀ id,
      tree.Accepts (.destroy id) ↔
        ∃ node, tree.get? id = some node ∧
          (node.parent = none ∨
            ∃ parent, node.parent = some parent ∧ tree.Accepts (.removeChild parent id))
  root_iff :
    ∀ id, tree.Accepts (.setRoot id) ↔ ∃ node, tree.get? id = some node ∧ node.parent = none

/--
After every run, refused edits included, it depends only on the nodes that a structural
edit names whether it is accepted.  A child is appended if both nodes are there, the
parent is a combinator with room, and the child has no parent, is not the root and is
neither the parent nor above it; a cycle is reported exactly if all but the room is given
and the child is the parent or above it, that is if the link would close a cycle among the
children.
-/
theorem edits_decided_after_run (options : TreeOptions) (edits : List Edit) :
    ((withOptions options).after edits).DecidesEdits := by
  have consistent := (consistent_withOptions options).after edits
  constructor
  case append_iff => exact fun _ _ => consistent.accepts_appendChild_iff
  case cycle_iff => exact fun _ _ => consistent.apply_appendChild_eq_cycleDetected_iff
  case closes_iff => exact fun _ _ => consistent.wellFormed.closesCycle_iff
  case insert_iff => exact fun _ _ _ => consistent.accepts_insertBefore_iff
  case remove_iff => exact fun _ _ => consistent.accepts_removeChild_iff
  case destroy_iff => exact fun _ => consistent.accepts_destroy_iff
  case root_iff => exact fun _ => consistent.accepts_setRoot_iff

end Tree

end ParserGraph

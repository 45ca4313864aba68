import Mathlib.Logic.Relation
import ParserGraph.Proofs.Tree.Runs

/-!
# Children and parents

A node lists its children, and each child points to its parent, so every link is kept
twice.  All trees that a run comes to keep both sides in step: the links form a forest
in which no node has more children than its kind allows, whose root has no parent, and
whose nodes are found by their own numbers.

On a consistent tree this is what its blueprint says about forests.
-/

namespace ParserGraph

namespace Blueprint

variable {plan : Blueprint}

@[simp]
theorem options_freed (plan : Blueprint) (id : NodeId) :
    (plan.freed id).options = plan.options := by
  rw [freed]
  split <;> rfl

/-- No edit changes the options. -/
@[simp]
theorem options_perform (plan : Blueprint) (edit : Edit) :
    (plan.perform edit).options = plan.options := by
  cases edit with
  | create tag props =>
      simp only [perform]
      split <;> rfl
  | insertBefore parent child before =>
      simp only [perform]
      split_ifs <;> rfl
  | destroy node => exact options_freed plan node
  | _ => rfl

/-- Whoever lies above another node is less deep, so nobody lies above itself. -/
theorem IsForest.not_transGen_parent
    (forest : plan.IsForest)
    (id : NodeId) :
    ¬ Relation.TransGen (fun child parent => plan.parent? child = some parent) id id := by
  rcases forest.ranked with ⟨depth, ranked⟩
  have higher : ∀ {lower upper},
      Relation.TransGen (fun child parent => plan.parent? child = some parent) lower upper →
        depth upper < depth lower := by
    intro lower upper above
    induction above with
    | single link => exact ranked link
    | tail _ link hypothesis => exact Nat.lt_trans (ranked link) hypothesis
  intro cycle
  exact Nat.lt_irrefl _ (higher cycle)

end Blueprint

namespace Tree

variable {tree : Tree}

/-- Both sides of every link agree, and the links form a forest within its limits. -/
structure OwnsChildren (tree : Tree) : Prop where
  mem_children_iff :
    ∀ parent child,
      (∃ node ∈ tree.nodes, node.id = parent ∧ child ∈ node.children) ↔
        ∃ node ∈ tree.nodes, node.id = child ∧ node.parent = some parent
  nodup_children : ∀ node ∈ tree.nodes, node.children.Nodup
  acyclic :
    ∀ id, ¬ Relation.TransGen (fun child parent => tree.parent? child = some parent) id id
  leaf_childless : ∀ node ∈ tree.nodes, node.kind.isLeaf = true → node.children = []
  combinator_capacity :
    ∀ node ∈ tree.nodes, (∀ operator, node.kind ≠ .series operator) → node.children.length ≤ 3
  series_capacity :
    ∀ node ∈ tree.nodes, ∀ operator, node.kind = .series operator →
      node.children.length ≤ tree.options.naryChildCap
  root_top : ∀ id, tree.root = some id → ∃ node ∈ tree.nodes, node.id = id ∧ node.parent = none
  /-- Nodes are found by their own ids. -/
  found : ∀ node ∈ tree.nodes, tree.get? node.id = some node
  numbered : ∀ node ∈ tree.nodes, 1 ≤ node.id.number ∧ node.id.number ≤ tree.issued

theorem WellFormed.mem_nodes_iff (wellFormed : tree.WellFormed) {id : NodeId} {node : Node} :
    node ∈ tree.nodes ∧ node.id = id ↔ tree.get? id = some node := by
  constructor
  · rintro ⟨member, rfl⟩
    exact wellFormed.get?_of_mem member
  · intro found
    exact ⟨mem_of_get? found, id_of_get? found⟩

theorem WellFormed.mem_children_iff
    (wellFormed : tree.WellFormed)
    (parent child : NodeId) :
    (∃ node ∈ tree.nodes, node.id = parent ∧ child ∈ node.children) ↔
      ∃ node ∈ tree.nodes, node.id = child ∧ node.parent = some parent := by
  have listed : (∃ node ∈ tree.nodes, node.id = parent ∧ child ∈ node.children) ↔
      child ∈ tree.blueprint.childrenOf parent := by
    constructor
    · rintro ⟨node, member, named, listed⟩
      rwa [childrenOf_blueprint (wellFormed.mem_nodes_iff.1 ⟨member, named⟩)]
    · intro listed
      rcases exists_get?_of_present (Blueprint.present_of_mem_childrenOf listed) with ⟨node, found⟩
      rw [childrenOf_blueprint found] at listed
      exact ⟨node, mem_of_get? found, id_of_get? found, listed⟩
  have pointed : (∃ node ∈ tree.nodes, node.id = child ∧ node.parent = some parent) ↔
      tree.blueprint.parent? child = some parent := by
    constructor
    · rintro ⟨node, member, named, above⟩
      have found := wellFormed.mem_nodes_iff.1 ⟨member, named⟩
      exact (Blueprint.parent?_eq (entryOf?_blueprint found)).trans above
    · intro above
      rcases exists_get?_of_present (Blueprint.present_of_parent? above) with ⟨node, found⟩
      rw [Blueprint.parent?_eq (entryOf?_blueprint found)] at above
      exact ⟨node, mem_of_get? found, id_of_get? found, above⟩
  rw [listed, pointed]
  exact wellFormed.forest.mem_childrenOf

theorem WellFormed.length_children_le
    (wellFormed : tree.WellFormed)
    {node : Node}
    (member : node ∈ tree.nodes) :
    node.children.length ≤ node.kind.maxChildren tree.options := by
  have found := wellFormed.get?_of_mem member
  have bounded := wellFormed.forest.capacity node.id
  rw [childrenOf_blueprint found, Blueprint.roomOf_eq (entryOf?_blueprint found),
    Node.maxChildren_entry] at bounded
  exact bounded

/-- A well-formed tree, whose blueprint is a forest, owns its children. -/
theorem WellFormed.ownsChildren (wellFormed : tree.WellFormed) : tree.OwnsChildren := by
  have forest := wellFormed.forest
  constructor
  case mem_children_iff => exact wellFormed.mem_children_iff
  case nodup_children =>
    intro node member
    have distinct := forest.distinct node.id
    rwa [childrenOf_blueprint (wellFormed.get?_of_mem member)] at distinct
  case acyclic =>
    rw [← parent?_blueprint]
    exact forest.not_transGen_parent
  case leaf_childless =>
    intro node member leaf
    exact wellFormed.children_of_isLeaf (wellFormed.get?_of_mem member) leaf
  case combinator_capacity =>
    intro node member single
    refine Nat.le_trans (wellFormed.length_children_le member) ?_
    cases kind : node.kind with
    | series operator => exact absurd kind (single operator)
    | _ => simp [Kind.maxChildren, Kind.combinatorChildCap]
  case series_capacity =>
    intro node member operator kind
    have bounded := wellFormed.length_children_le member
    rwa [kind] at bounded
  case root_top =>
    intro id designated
    rcases forest.root_top designated with ⟨present, top⟩
    rcases exists_get?_of_present present with ⟨node, found⟩
    rw [Blueprint.parent?_eq (entryOf?_blueprint found)] at top
    exact ⟨node, mem_of_get? found, id_of_get? found, top⟩
  case found =>
    intro node member
    exact wellFormed.get?_of_mem member
  case numbered =>
    intro node member
    exact forest.numbered (present_blueprint (wellFormed.get?_of_mem member))

theorem Consistent.options_apply (consistent : tree.Consistent) (edit : Edit) :
    (tree.apply edit).2.options = tree.options := by
  rw [consistent.apply_eq]
  cases accepted : tree.blueprint.verdict tree.derived? edit with
  | error error => rfl
  | ok result =>
      have performed := congrArg Blueprint.options (consistent.perform accepted).2
      rw [Blueprint.options_perform] at performed
      exact performed

theorem Consistent.options_after (consistent : tree.Consistent) (edits : List Edit) :
    (tree.after edits).options = tree.options := by
  induction edits generalizing tree with
  | nil => rfl
  | cons edit rest hypothesis =>
      exact (hypothesis (consistent.apply edit)).trans (consistent.options_apply edit)

/--
After every run, refused edits included, a node is listed as a child exactly where it
points to, nobody lies above itself, and all limits on children, roots and numbers are
kept.  The options are those that the run started with.
-/
theorem ownsChildren_after_run (options : TreeOptions) (edits : List Edit) :
    ((withOptions options).after edits).OwnsChildren ∧
      ((withOptions options).after edits).options = options := by
  have start := consistent_withOptions options
  constructor
  · exact (start.after edits).wellFormed.ownsChildren
  · exact start.options_after edits

-- A child that is moved to the front of its parent stays listed once.
example :
    ((withOptions {}).after
      [.create "all" {}, .create "noop" {}, .create "noop" {},
        .appendChild { number := 1 } { number := 2 }, .appendChild { number := 1 } { number := 3 },
        .insertBefore { number := 1 } { number := 3 } { number := 2 }]).nodes.map Node.children =
      [[{ number := 3 }, { number := 2 }], [], []] := by
  rfl

end Tree

end ParserGraph

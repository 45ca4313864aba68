import ParserGraph.Proofs.Tree.Answers

/-!
# Runs of edits

A run applies edits one after the other to a tree without nodes and goes on after
edits that are refused.  All trees that a run comes to are consistent, so that the
parsers that their nodes keep are those of their kinds, their decorations and their
children.
-/

namespace ParserGraph

namespace Tree

variable {tree : Tree}

/-- The tree behind a list of edits; those that are refused are passed over. -/
def after (tree : Tree) (edits : List Edit) : Tree :=
  edits.foldl (fun tree edit => (tree.apply edit).2) tree

theorem after_append (tree : Tree) (front back : List Edit) :
    tree.after (front ++ back) = (tree.after front).after back :=
  List.foldl_append

theorem consistent_withOptions (options : TreeOptions) : (withOptions options).Consistent where
  wellFormed :=
    { distinct := List.nodup_nil
      forest := Blueprint.isForest_withOptions options }
  coherent := by
    intro id node found _
    cases found

/-- A run goes from consistent trees to consistent trees. -/
theorem Consistent.after (consistent : tree.Consistent) (edits : List Edit) :
    (tree.after edits).Consistent := by
  induction edits generalizing tree with
  | nil => exact consistent
  | cons edit rest hypothesis => exact hypothesis (consistent.apply edit)

/-- With different ids, each node is found by its own. -/
theorem WellFormed.get?_of_mem
    (wellFormed : tree.WellFormed)
    {node : Node}
    (member : node ∈ tree.nodes) :
    tree.get? node.id = some node := by
  cases found : tree.get? node.id with
  | none =>
      have missing := List.find?_eq_none.1 found node member
      simp at missing
  | some other =>
      have same : other = node :=
        List.inj_on_of_nodup_map wellFormed.distinct (mem_of_get? found) member
          (id_of_get? found)
      rw [same]

/-- The parsers that a node keeps are there exactly if they can be made, and are up to date. -/
structure CachesOf (tree : Tree) (node : Node) : Prop where
  compiled_iff :
    node.isCompiled = true ↔
      (node.kind.isLeaf = true ∨ node.children ≠ []) ∧
        ∀ child ∈ node.children, (tree.derived? child).isSome = true
  current :
    node.isCompiled = true →
      ∃ parsers fresh base,
        tree.childParsers? node = some parsers ∧ node.kind.combine parsers = .ok fresh ∧
          node.combined = some base ∧ base.same fresh = true ∧
            node.derived = some (node.decoration.apply base) ∧ node.staged = none
  absent : node.isCompiled = false → node.combined = none ∧ node.derived = none

/-- A leaf has no children. -/
theorem WellFormed.children_of_isLeaf
    (wellFormed : tree.WellFormed)
    {id : NodeId}
    {node : Node}
    (found : tree.get? id = some node)
    (leaf : node.kind.isLeaf = true) :
    node.children = [] := by
  cases listed : node.children with
  | nil => rfl
  | cons child rest =>
      have member : child ∈ node.entry.children := by simp [listed]
      have combinator :=
        wellFormed.forest.isLeaf_of_mem_children (entryOf?_blueprint found) member
      rw [Node.isLeaf_entry, leaf] at combinator
      cases combinator

namespace Consistent

variable {node : Node}

theorem settled (consistent : tree.Consistent) (member : node ∈ tree.nodes) :
    node.Settled tree.derived? :=
  consistent.coherent node.id node (consistent.wellFormed.get?_of_mem member) List.not_mem_nil

/-- Whether a settled node is a leaf or a combinator, it is compiled exactly if it can be. -/
theorem isCompiled_iff (consistent : tree.Consistent) (member : node ∈ tree.nodes) :
    node.isCompiled = true ↔
      (node.kind.isLeaf = true ∨ node.children ≠ []) ∧
        ∀ child ∈ node.children, (tree.derived? child).isSome = true := by
  have settled := consistent.settled member
  have compiled : node.isCompiled = node.combined.isSome := settled.isSome_derived
  rw [compiled]
  cases kind : node.kind.isLeaf with
  | true =>
      have childless := consistent.wellFormed.children_of_isLeaf
        (consistent.wellFormed.get?_of_mem member) kind
      rcases settled.leaf kind with ⟨base, fresh, combined, _, _⟩
      simp [combined, childless]
  | false =>
      rw [settled.assembled kind, Kind.isSome_assemble?_iff kind]
      simp

/-- What a compiled node has combined is what its kind makes of its children. -/
theorem exists_combine (consistent : tree.Consistent) (member : node ∈ tree.nodes)
    (compiled : node.isCompiled = true) :
    ∃ parsers fresh base,
      tree.childParsers? node = some parsers ∧ node.kind.combine parsers = .ok fresh ∧
        node.combined = some base ∧ base.same fresh = true := by
  have settled := consistent.settled member
  cases kind : node.kind.isLeaf with
  | true =>
      have childless := consistent.wellFormed.children_of_isLeaf
        (consistent.wellFormed.get?_of_mem member) kind
      rcases settled.leaf kind with ⟨base, fresh, combined, refreshed, alike⟩
      refine ⟨[], fresh, base, ?_, refreshed, combined, (Parser.same_iff base fresh).2 alike⟩
      rw [childParsers?, childless]
      rfl
  | false =>
      have whole : node.combined.isSome = true := settled.isSome_derived.symm.trans compiled
      rcases Option.isSome_iff_exists.1 whole with ⟨base, combined⟩
      have assembled := settled.assembled kind
      rw [combined] at assembled
      rcases Option.bind_eq_some_iff.1 assembled.symm with ⟨parsers, found, result⟩
      cases fresh : node.kind.combine parsers with
      | error error => simp [fresh, Except.toOption] at result
      | ok other =>
          have equal : other = base := by simpa [fresh, Except.toOption] using result
          exact ⟨parsers, other, base, found, fresh, combined, equal ▸ Parser.same_self base⟩

theorem cachesOf (consistent : tree.Consistent) (member : node ∈ tree.nodes) :
    tree.CachesOf node := by
  have settled := consistent.settled member
  constructor
  · exact consistent.isCompiled_iff member
  · intro compiled
    rcases consistent.exists_combine member compiled with
      ⟨parsers, fresh, base, found, result, combined, alike⟩
    refine ⟨parsers, fresh, base, found, result, combined, alike, ?_, ?_⟩
    · rw [settled.decorated, combined]
      rfl
    · exact settled.staged_eq_none compiled
  · intro uncompiled
    have nothing : node.derived = none := by simpa [Node.isCompiled] using uncompiled
    refine ⟨?_, nothing⟩
    rw [settled.decorated] at nothing
    exact Option.map_eq_none_iff.1 nothing

end Consistent

/--
After every run, refused edits included, a node has parsers exactly if it is a leaf or
has children and all of them have parsers; it then has combined its children's parsers
as its kind says, decorated the result and merged all its props.
-/
theorem caches_after_run
    (options : TreeOptions)
    (edits : List Edit)
    (node : Node)
    (member : node ∈ ((withOptions options).after edits).nodes) :
    ((withOptions options).after edits).CachesOf node :=
  ((consistent_withOptions options).after edits).cachesOf member

/-- A label waits until the node has a child, and a refused edit comes between. -/
theorem caches_after_attaching :
    let edits : List Edit :=
      [.create "string" { text := some "a" }, .create "and" { label := some "first" },
        .setRoot { number := 7 }, .update { number := 2 } { label := some "second" },
        .appendChild { number := 2 } { number := 1 }]
    let node : Node :=
      { id := { number := 2 }
        kind := .pair .and
        decoration := { label := some "second" }
        children := [{ number := 1 }]
        combined := some (.text "a")
        derived := some (.label (.text "a") "second") }
    node ∈ ((withOptions {}).after edits).nodes ∧
      ((withOptions {}).after edits).CachesOf node := by
  intro edits node
  have member : node ∈ ((withOptions {}).after edits).nodes :=
    List.mem_of_getElem? (i := 1) rfl
  exact ⟨member, caches_after_run {} edits node member⟩

end Tree

end ParserGraph

import ParserGraph.Proofs.Parser.Constants
import ParserGraph.Proofs.Tree.Frames

/-!
# Merging props without combining anew

An update that leaves a node of the same kind keeps what the node has combined.  Kinds
are compared as the program compares values, so a constant may keep a zero whose sign
the update has changed.  Except for such a constant the parser of a node is the one that
its kind, the parsers of its children and its decoration compile to, and for such a
constant the runs of both tell the difference, unless the decoration loses the value or
its transform writes both zeros alike.  Transforms that are known by name do not.
-/

namespace ParserGraph

/-- The node has kept another constant than its kind's, and its decoration tells them apart. -/
def Node.Stale (node : Node) : Prop :=
  ∃ kept value,
    node.kind = .constant value ∧ node.combined = some (.constant kept) ∧
      node.decoration.TellsApart kept value

/-- With its constants at hand, a node is stale if its decoration tells them apart. -/
theorem Node.stale_iff
    {node : Node}
    {kept value : Value}
    (kind : node.kind = .constant value)
    (constant : node.combined = some (.constant kept)) :
    node.Stale ↔ node.decoration.TellsApart kept value := by
  constructor
  · rintro ⟨other, otherValue, otherKind, otherConstant, apart⟩
    rw [kind] at otherKind
    rw [constant] at otherConstant
    cases otherKind
    cases otherConstant
    exact apart
  · intro apart
    exact ⟨kept, value, kind, constant, apart⟩

namespace Tree

/--
The parser of a node has the outcomes of the parser that the node's kind, the parsers of
its children and its decoration compile to; values are compared as they are written.
-/
def RunsAsCompiled [Pattern.Engine] (tree : Tree) (id : NodeId) : Prop :=
  ∃ node children derived fresh,
    tree.get? id = some node ∧ tree.childParsers? node = some children ∧
      node.derived = some derived ∧
        node.kind.compile children node.decoration = .ok fresh ∧
          ∀ input, (derived.run input).written = (fresh.run input).written

end Tree

/-- What a leaf makes is the same as what it has kept only if it is that, or both are constants. -/
theorem Kind.eq_or_constant_of_same
    {kind : Kind}
    {kept fresh : Parser}
    (leaf : kind.isLeaf = true)
    (combined : kind.combine [] = .ok fresh)
    (alike : kept.same fresh = true) :
    kept = fresh ∨
      ∃ keptValue value,
        kind = .constant value ∧ kept = .constant keptValue ∧ fresh = .constant value ∧
          keptValue.same value = true := by
  cases kind <;> simp [isLeaf] at leaf
  case text literal =>
    cases combined
    cases kept <;> simp [Parser.same] at alike
    exact Or.inl (congrArg Parser.text alike)
  case pattern source expected =>
    simp only [combine, combinePattern] at combined
    cases compiled : Pattern.ofSource? source expected with
    | none => simp [compiled] at combined
    | some matcher =>
        simp only [compiled] at combined
        cases combined
        cases kept <;> simp [Parser.same] at alike
        exact Or.inl (congrArg Parser.pattern alike)
  case constant value =>
    cases combined
    cases kept <;> simp [Parser.same] at alike
    exact Or.inr ⟨_, value, rfl, rfl, rfl, alike⟩

/-- With the parsers at hand, it is their outcomes that count. -/
theorem Tree.runsAsCompiled_iff_forall
    [Pattern.Engine]
    {tree : Tree}
    {id : NodeId}
    {node : Node}
    {children : List Parser}
    {derived fresh : Parser}
    (found : tree.get? id = some node)
    (listed : tree.childParsers? node = some children)
    (own : node.derived = some derived)
    (compiles : node.kind.compile children node.decoration = .ok fresh) :
    tree.RunsAsCompiled id ↔
      ∀ input, (derived.run input).written = (fresh.run input).written := by
  constructor
  · rintro ⟨other, parsers, kept, made, otherFound, parsersListed, otherOwn, compilesTo, equal⟩
    rw [found] at otherFound
    cases otherFound
    rw [listed] at parsersListed
    cases parsersListed
    rw [own] at otherOwn
    cases otherOwn
    rw [compiles] at compilesTo
    cases compilesTo
    exact equal
  · intro equal
    exact ⟨node, children, derived, fresh, found, listed, own, compiles, equal⟩

namespace Tree.Consistent

variable {tree : Tree} {node : Node}

/-- What a compiled node has combined is what it would combine anew, or it is a constant. -/
theorem combined_eq_or_constant
    (consistent : tree.Consistent)
    (member : node ∈ tree.nodes)
    (compiled : node.isCompiled = true) :
    ∃ children base fresh,
      tree.childParsers? node = some children ∧ node.kind.combine children = .ok fresh ∧
        node.combined = some base ∧
          (base = fresh ∨
            ∃ kept value,
              node.kind = .constant value ∧ base = .constant kept ∧ fresh = .constant value ∧
                kept.same value = true) := by
  rcases consistent.exists_combine member compiled with
    ⟨children, fresh, base, found, combined, kept, alike⟩
  refine ⟨children, base, fresh, found, combined, kept, ?_⟩
  cases leaf : node.kind.isLeaf with
  | true =>
      rw [Kind.combine_of_isLeaf leaf] at combined
      exact Kind.eq_or_constant_of_same leaf combined alike
  | false =>
      have assembled := (consistent.settled member).assembled leaf
      have listed : node.children.mapM tree.derived? = some children := found
      rw [kept, Kind.assemble?, listed, Option.bind_some, combined] at assembled
      exact Or.inl (Option.some.inj assembled)

/-- A compiled node runs as it is compiled exactly if it has kept no stale constant. -/
theorem runsAsCompiled_iff
    [Pattern.Engine]
    (consistent : tree.Consistent)
    {id : NodeId}
    (found : tree.get? id = some node)
    (compiled : node.isCompiled = true) :
    tree.RunsAsCompiled id ↔ ¬ node.Stale := by
  have member := mem_of_get? found
  rcases consistent.combined_eq_or_constant member compiled with
    ⟨children, base, fresh, listed, combined, kept, alike⟩
  have derived : node.derived = some (node.decoration.apply base) := by
    rw [(consistent.settled member).decorated, kept]
    rfl
  have compiles : node.kind.compile children node.decoration =
      .ok (node.decoration.apply fresh) := by
    rw [Kind.compile, combined]
    rfl
  rw [runsAsCompiled_iff_forall found listed derived compiles]
  rcases alike with rfl | ⟨keptValue, value, kind, rfl, rfl, -⟩
  · constructor
    · rintro - ⟨keptValue, value, kind, constant, -, different⟩
      rw [kept] at constant
      cases constant
      rw [kind] at combined
      cases combined
      exact different rfl
    · intro _ input
      rfl
  · rw [Parser.written_run_apply_constant_iff, Node.stale_iff kind kept]

/-- An accepted update merges its props into a compiled node, which stays compiled. -/
theorem exists_updated
    (consistent : tree.Consistent)
    {id : NodeId}
    {delta : Props}
    (found : tree.get? id = some node)
    (compiled : node.isCompiled = true)
    (accepted : (tree.apply (.update id delta)).1 = .ok (some id)) :
    ∃ next,
      (tree.apply (.update id delta)).2.get? id = some next ∧ next.isCompiled = true ∧
        next.kind = node.kind.withProps delta ∧
          next.decoration = node.decoration.overlay delta := by
  have settled := consistent.coherent id node found List.not_mem_nil
  have checked := checkUpdate_blueprint found settled delta
  rw [if_pos compiled] at checked
  rw [consistent.apply_eq] at accepted ⊢
  simp only [Blueprint.verdict, checked] at accepted ⊢
  cases done : node.updated tree.derived? delta with
  | error error => simp [done, Except.map] at accepted
  | ok next =>
      have found' := consistent.get?_updated found compiled done
      have whole : node.combined.isSome = true := settled.isSome_derived.symm.trans compiled
      rcases Node.exists_withCombined_of_updated done with ⟨combined, rfl, keeps⟩
      refine ⟨_, found', ?_, rfl, rfl⟩
      rw [Node.isCompiled, Node.withCombined, Option.isSome_map]
      exact keeps whole

end Tree.Consistent

namespace Tree

/--
After an accepted update a compiled node is of its old kind and decoration with the props
over them, and it runs as that compiles exactly if it has kept no stale constant.  A
constant that it has kept is its kind's but for the signs of zeros.  Without a transform,
or with one that is known by name, it is stale if it is another one and not lost.
-/
theorem runsAsCompiled_update_iff
    [Pattern.Engine]
    (options : TreeOptions)
    (edits : List Edit)
    (id : NodeId)
    (delta : Props)
    (node : Node)
    (live : ((withOptions options).after edits).get? id = some node)
    (compiled : node.isCompiled = true)
    (accepted :
      (((withOptions options).after edits).apply (.update id delta)).1 = .ok (some id)) :
    ∃ next,
      (((withOptions options).after edits).apply (.update id delta)).2.get? id = some next ∧
        next.kind = node.kind.withProps delta ∧
        next.decoration = node.decoration.overlay delta ∧
        ((((withOptions options).after edits).apply (.update id delta)).2.RunsAsCompiled id ↔
          ¬ next.Stale) ∧
        ∀ kept value, next.combined = some (.constant kept) → next.kind = .constant value →
          kept.same value = true ∧
            (next.decoration.IsBuiltin →
              (next.Stale ↔ kept ≠ value ∧ ¬ next.decoration.repetition.Loses)) := by
  have consistent := (consistent_withOptions options).after edits
  rcases consistent.exists_updated live compiled accepted with
    ⟨next, found, stays, kind, decoration⟩
  have later := consistent.apply (.update id delta)
  refine ⟨next, found, kind, decoration, later.runsAsCompiled_iff found stays, ?_⟩
  intro kept value constant ofKind
  have same : kept.same value = true := by
    rcases later.exists_combine (mem_of_get? found) stays with
      ⟨children, fresh, base, _, combined, keeps, alike⟩
    rw [constant] at keeps
    rw [ofKind] at combined
    cases keeps
    cases combined
    simpa [Parser.same] using alike
  refine ⟨same, fun builtin => ?_⟩
  rw [← Decoration.tellsApart_iff builtin same]
  exact Node.stale_iff ofKind constant

/-- A text leaf is given another text, which is combined anew. -/
theorem runsAsCompiled_after_new_text :
    let edits : List Edit := [.create "string" { text := some "a" }]
    let tree := (withOptions {}).after edits
    let node : Node :=
      { id := { number := 1 }
        kind := .text "a"
        combined := some (.text "a")
        derived := some (.text "a") }
    let edit : Edit := .update { number := 1 } { text := some "b" }
    tree.get? { number := 1 } = some node ∧ node.isCompiled = true ∧
      (tree.apply edit).1 = .ok (some { number := 1 }) ∧
      (tree.apply edit).2.RunsAsCompiled { number := 1 } := by
  intro edits tree node edit
  have live : tree.get? { number := 1 } = some node := rfl
  have accepted : (tree.apply edit).1 = .ok (some { number := 1 }) := rfl
  refine ⟨live, rfl, accepted, ?_⟩
  rcases runsAsCompiled_update_iff {} edits { number := 1 } { text := some "b" } node live rfl
    accepted with ⟨next, _, kind, _, runs, _⟩
  apply runs.2
  rintro ⟨kept, value, constant, _⟩
  rw [kind] at constant
  cases constant

/-- A constant is given a minus sign, and its parser goes on without it. -/
theorem not_runsAsCompiled_after_sign :
    let zero : Value := .number (.float { negative := false, rank := 0 })
    let minusZero : Value := .number (.float { negative := true, rank := 0 })
    let join : Transform := { conversion := .join, identity := 1 }
    let edits : List Edit := [.create "noop" { value := some zero.normal, transform := some join }]
    let tree := (withOptions {}).after edits
    let edit : Edit := .update { number := 1 } { value := some minusZero.normal }
    (∃ node, tree.get? { number := 1 } = some node ∧ node.isCompiled = true) ∧
      (tree.apply edit).1 = .ok (some { number := 1 }) ∧
      ¬ (tree.apply edit).2.RunsAsCompiled { number := 1 } := by
  intro zero minusZero join edits tree edit
  refine ⟨⟨_, rfl, rfl⟩, rfl, ?_⟩
  have consistent := ((consistent_withOptions {}).after edits).apply edit
  intro runs
  refine (consistent.runsAsCompiled_iff rfl rfl).1 runs ⟨zero, minusZero, rfl, rfl, ?_, ?_⟩
  · decide
  · decide

end Tree

end ParserGraph

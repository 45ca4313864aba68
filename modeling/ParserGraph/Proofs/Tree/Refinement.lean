import ParserGraph.Proofs.Tree.Runs

/-!
# Trees refine their blueprints

A tree keeps parsers and props aside, and a blueprint keeps neither and compiles from
scratch.  Run on the same edits, both give the same answers, and after each edit all
parsers that the tree has kept are the parsers from scratch.
-/

namespace ParserGraph

/-! ## Verdicts with parsers that are the same -/

/-- Whether parsers can be combined depends on their canonical forms only. -/
theorem Kind.combine_map_unit
    (kind : Kind)
    {first second : List Parser}
    (alike : first.map Parser.canonical = second.map Parser.canonical) :
    (kind.combine first).map (fun _ => ()) = (kind.combine second).map fun _ => () := by
  have canonical := kind.combine_canonical first
  rw [alike, kind.combine_canonical second] at canonical
  cases kept : kind.combine first <;> cases fresh : kind.combine second <;>
    simp_all [Except.map]

namespace Blueprint

variable {plan : Blueprint} {kept? fresh? : NodeId → Option Parser}

theorem checkUpdate_congr
    (alike : ∀ id, (kept? id).map Parser.canonical = (fresh? id).map Parser.canonical)
    (id : NodeId)
    (delta : Props) :
    plan.checkUpdate kept? id delta = plan.checkUpdate fresh? id delta := by
  have compiled : (kept? id).isSome = (fresh? id).isSome := by
    simpa using congrArg Option.isSome (alike id)
  unfold checkUpdate
  rw [compiled]
  cases plan.entry id with
  | error error => rfl
  | ok entry =>
      simp only [Except.bind_ok]
      split_ifs with changed
      · have parsers : (entry.children.mapM kept?).map (List.map Parser.canonical) =
            (entry.children.mapM fresh?).map (List.map Parser.canonical) := by
          rw [map_mapM, map_mapM]
          exact mapM_congr fun child _ => alike child
        cases kept : entry.children.mapM kept? <;> cases fresh : entry.children.mapM fresh? <;>
          simp only [kept, fresh, Option.map_some, Option.map_none, Option.some.injEq,
            reduceCtorEq] at parsers ⊢
        exact Kind.combine_map_unit _ parsers
      · rfl

theorem checkDetach_congr
    (alike : ∀ id, (kept? id).map Parser.canonical = (fresh? id).map Parser.canonical)
    (parent child : NodeId) :
    plan.checkDetach kept? parent child = plan.checkDetach fresh? parent child := by
  have compiled : (kept? parent).isSome = (fresh? parent).isSome := by
    simpa using congrArg Option.isSome (alike parent)
  unfold checkDetach
  rw [compiled]

/-- The rules do not tell parsers apart that are the same. -/
theorem verdict_congr
    (alike : ∀ id, (kept? id).map Parser.canonical = (fresh? id).map Parser.canonical)
    (edit : Edit) :
    plan.verdict kept? edit = plan.verdict fresh? edit := by
  cases edit with
  | update node delta =>
      simp only [verdict]
      rw [checkUpdate_congr alike]
  | removeChild parent child =>
      simp only [verdict]
      rw [checkDetach_congr alike]
  | destroy node =>
      simp only [verdict, checkDestroy, checkDetach_congr alike]
  | _ => rfl

/-- The blueprint behind a list of edits; those that are refused are passed over. -/
def after (plan : Blueprint) (edits : List Edit) : Blueprint :=
  edits.foldl (fun plan edit => (plan.apply edit).2) plan

def answers (plan : Blueprint) : List Edit → List (Except EditError (Option NodeId))
  | [] => []
  | edit :: rest => (plan.apply edit).1 :: (plan.apply edit).2.answers rest

end Blueprint

namespace Node

variable {node : Node} {derived? : NodeId → Option Parser}

/-- A combinator has the parser that its entry in the blueprint makes of its children. -/
theorem Settled.derived_of_combinator
    (settled : node.Settled derived?)
    (combinator : node.kind.isLeaf = false) :
    node.derived =
      (node.entry.kind.assemble? node.entry.children derived?).map
        node.entry.decoration.apply := by
  cases compiled : node.isCompiled with
  | true =>
      have kept := settled.staged_eq_none compiled
      have kind : node.entry.kind = node.kind := by simp [entry, kept]
      have decoration : node.entry.decoration = node.decoration := by simp [entry, kept]
      rw [kind, decoration, children_entry, settled.decorated, settled.assembled combinator]
  | false =>
      have nothing : node.derived = none := by simpa [isCompiled] using compiled
      have uncombined : node.combined.isSome = false := by
        rw [← settled.isSome_derived, nothing]
        rfl
      have same : (node.entry.kind.assemble? node.entry.children derived?).isSome =
          node.combined.isSome := by
        rw [settled.assembled combinator]
        exact Kind.isSome_assemble?_withProps combinator _ node.children derived?
      have incomplete : node.entry.kind.assemble? node.entry.children derived? = none := by
        rw [uncombined] at same
        simpa using same
      rw [nothing, incomplete]
      rfl

/-- A settled node has the parser that its entry in the blueprint makes of its children. -/
theorem Settled.canonical_derived
    (settled : node.Settled derived?)
    (childless : node.kind.isLeaf = true → node.children = []) :
    node.derived.map Parser.canonical =
      ((node.entry.kind.assemble? node.entry.children derived?).map
        node.entry.decoration.apply).map Parser.canonical := by
  cases leaf : node.kind.isLeaf with
  | false => rw [settled.derived_of_combinator leaf]
  | true =>
      have kept := settled.staged_eq_none (settled.isCompiled_of_isLeaf leaf)
      have kind : node.entry.kind = node.kind := by simp [entry, kept]
      have decoration : node.entry.decoration = node.decoration := by simp [entry, kept]
      rcases settled.leaf leaf with ⟨base, fresh, combined, refreshed, alike⟩
      rw [kind, decoration, children_entry, settled.decorated, childless leaf,
        Kind.assemble?_nil, combined, refreshed, Decoration.canonical_map_apply,
        Decoration.canonical_map_apply]
      simp [Except.toOption, alike]

end Node

namespace Tree

variable {tree : Tree} {plan : Blueprint}

def answers (tree : Tree) : List Edit → List (Except EditError (Option NodeId))
  | [] => []
  | edit :: rest => (tree.apply edit).1 :: (tree.apply edit).2.answers rest

/-- On a consistent tree the parsers kept are the parsers from scratch. -/
theorem Consistent.canonical_derived?
    (consistent : tree.Consistent)
    (id : NodeId) :
    (tree.derived? id).map Parser.canonical =
      (tree.blueprint.compile? id).map Parser.canonical := by
  refine consistent.wellFormed.forest.canonical_eq_compile? ?_ id
  intro other
  cases found : tree.get? other with
  | none =>
      rw [entryOf?_blueprint_eq_none found]
      simp [derived?, found]
  | some node =>
      have own : tree.derived? other = node.derived := by simp [derived?, found]
      rw [entryOf?_blueprint found, Option.bind_some, own]
      apply (consistent.coherent other node found List.not_mem_nil).canonical_derived
      exact consistent.wellFormed.children_of_isLeaf found

/-- One edit is answered alike, and the blueprint is changed as the tree is. -/
theorem Consistent.apply_blueprint (consistent : tree.Consistent) (edit : Edit) :
    tree.blueprint.apply edit = ((tree.apply edit).1, (tree.apply edit).2.blueprint) := by
  rw [Blueprint.apply]
  rw [consistent.apply_eq, ← Blueprint.verdict_congr consistent.canonical_derived? edit]
  cases accepted : tree.blueprint.verdict tree.derived? edit with
  | error error => rfl
  | ok result =>
      have performed : (tree.perform edit).accepted.blueprint = tree.blueprint.perform edit :=
        (consistent.perform accepted).2
      simp [performed]

/-- A run of the blueprint is the blueprint of the run. -/
theorem Consistent.after_blueprint (consistent : tree.Consistent) (edits : List Edit) :
    tree.blueprint.after edits = (tree.after edits).blueprint := by
  induction edits generalizing tree with
  | nil => rfl
  | cons edit rest hypothesis =>
      rw [Blueprint.after, List.foldl_cons, consistent.apply_blueprint]
      exact hypothesis (consistent.apply edit)

theorem Consistent.answers_blueprint (consistent : tree.Consistent) (edits : List Edit) :
    tree.blueprint.answers edits = tree.answers edits := by
  induction edits generalizing tree with
  | nil => rfl
  | cons edit rest hypothesis =>
      rw [Blueprint.answers, consistent.apply_blueprint, answers]
      exact congrArg _ (hypothesis (consistent.apply edit))

end Tree

/-- Both parsers are missing, or both are there and are the same. -/
def SameParsers : Option Parser → Option Parser → Prop
  | some first, some second => first.same second = true
  | none, none => True
  | _, _ => False

/-- Both compilations fail with the same error, or both give the same parser. -/
def SameResults : Except EditError Parser → Except EditError Parser → Prop
  | .ok first, .ok second => first.same second = true
  | .error first, .error second => first = second
  | _, _ => False

theorem sameParsers_iff {first second : Option Parser} :
    SameParsers first second ↔ first.map Parser.canonical = second.map Parser.canonical := by
  cases first <;> cases second <;> simp [SameParsers, Parser.same_iff]

/-- The parser of a consistent tree is the parser of its blueprint. -/
theorem Tree.Consistent.sameResults_compile {tree : Tree} (consistent : tree.Consistent) :
    SameResults tree.compile tree.blueprint.compile := by
  have pointed : tree.blueprint.root = tree.root := rfl
  rw [Tree.compile, Blueprint.compile, pointed]
  cases tree.root with
  | none => rfl
  | some root =>
      have alike := sameParsers_iff.2 (consistent.canonical_derived? root)
      simp only
      cases kept : tree.derived? root <;> cases fresh : tree.blueprint.compile? root <;>
        simp_all [SameParsers, SameResults]

/--
A tree and its blueprint, run on the same edits from nothing, give the same answers.
After each of the edits every node has the parser that is compiled from scratch, and
so has the root; and from scratch the parser of a node is what its kind makes of the
parsers of its children, decorated.
-/
theorem run_refines_blueprint (options : TreeOptions) (edits : List Edit) :
    (Tree.withOptions options).answers edits = (Blueprint.withOptions options).answers edits ∧
      ∀ count,
        let tree := (Tree.withOptions options).after (edits.take count)
        let plan := (Blueprint.withOptions options).after (edits.take count)
        (∀ id, SameParsers (tree.derived? id) (plan.compile? id)) ∧
          SameResults tree.compile plan.compile ∧
          ∀ id, plan.compile? id = (plan.entryOf? id).bind fun entry =>
            (entry.kind.assemble? entry.children plan.compile?).map entry.decoration.apply := by
  have start := Tree.consistent_withOptions options
  have fresh : (Tree.withOptions options).blueprint = Blueprint.withOptions options := rfl
  rw [← fresh]
  refine ⟨(start.answers_blueprint edits).symm, ?_⟩
  intro count
  have consistent := start.after (edits.take count)
  simp only [start.after_blueprint]
  refine ⟨?_, consistent.sameResults_compile, consistent.wellFormed.forest.compile?_eq⟩
  intro id
  exact sameParsers_iff.2 (consistent.canonical_derived? id)

end ParserGraph

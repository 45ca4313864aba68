import ParserGraph.Proofs.Parser.Reasons
import ParserGraph.Proofs.Tree.Shortcut

/-!
# Trees explain failures

A choice is combined from children only if there are any, and nothing else that makes
parsers of nodes makes a choice.  So each choice in the parser of a node has something to
choose from, whatever edits the tree has gone through, and no parser of a tree fails
without an expectation.
-/

namespace ParserGraph

/-- Each of the results is the result of an item. -/
theorem exists_of_mem_mapM
    {Item Result : Type}
    {items : List Item}
    {find? : Item → Option Result}
    {results : List Result}
    (found : items.mapM find? = some results)
    {result : Result}
    (member : result ∈ results) :
    ∃ item ∈ items, find? item = some result := by
  induction items generalizing results with
  | nil =>
      cases found
      cases member
  | cons item rest hypothesis =>
      rw [List.mapM_cons] at found
      cases head : find? item with
      | none => simp [head] at found
      | some first =>
          cases tail : rest.mapM find? with
          | none => simp [head, tail] at found
          | some others =>
              simp only [head, tail] at found
              cases found
              rcases List.mem_cons.1 member with rfl | member
              · exact ⟨item, List.mem_cons_self, head⟩
              · rcases hypothesis tail member with ⟨other, listed, there⟩
                exact ⟨other, List.mem_cons_of_mem _ listed, there⟩

namespace Kind

variable {kind : Kind} {base : Parser}

theorem offers_of_combinePair
    {tag : String}
    {operate : Parser → Parser → Parser}
    {children : List Parser}
    (combined : combinePair tag operate children = .ok base)
    (inside : ∀ child ∈ children, child.Offers)
    (operated : ∀ first second : Parser, first.Offers → second.Offers →
      (operate first second).Offers) :
    base.Offers := by
  rcases children with _ | ⟨first, _ | ⟨second, rest⟩⟩ <;> cases combined
  · exact inside _ (by simp)
  · exact operated first second (inside _ (by simp)) (inside _ (by simp))

/-- From parsers in which choices have something to choose from, kinds make such parsers. -/
theorem offers_of_combine
    {children : List Parser}
    (combined : kind.combine children = .ok base)
    (inside : ∀ child ∈ children, child.Offers) :
    base.Offers := by
  cases kind with
  | text literal =>
      cases combined
      exact Parser.offers_of_components (by simp) (by simp [Parser.components])
  | pattern source expected =>
      simp only [combine, combinePattern] at combined
      split at combined <;> cases combined
      exact Parser.offers_of_components (by simp) (by simp [Parser.components])
  | constant value =>
      cases combined
      exact Parser.offers_of_components (by simp) (by simp [Parser.components])
  | pair operator =>
      refine offers_of_combinePair combined inside fun first second firstOffers secondOffers => ?_
      cases operator <;>
        exact Parser.offers_of_components (by simp [PairOperator.combine])
          (by simp [PairOperator.combine, Parser.components, firstOffers, secondOffers])
  | sepBy bounds =>
      refine offers_of_combinePair combined inside fun first second firstOffers secondOffers => ?_
      exact Parser.offers_of_components (by simp)
        (by simp [Parser.components, firstOffers, secondOffers])
  | wrap =>
      rcases children with _ | ⟨content, _ | ⟨before, _ | ⟨after, rest⟩⟩⟩ <;> cases combined
      · exact inside _ (by simp)
      · refine Parser.offers_of_components (by simp) fun component member => inside _ ?_
        simpa [Parser.components, or_comm] using member
      · refine Parser.offers_of_components (by simp) fun component member => inside _ ?_
        simp only [Parser.components, Option.toList_some, List.mem_append, List.mem_cons,
          List.not_mem_nil, or_false] at member ⊢
        tauto
  | series operator =>
      simp only [combine] at combined
      split_ifs at combined with childless
      cases combined
      cases operator with
      | all => exact Parser.offers_of_components (by simp [SeriesOperator.combine]) inside
      | choice =>
          refine Parser.offers_of_components ?_ inside
          rintro parsers ⟨⟩
          simpa using childless

end Kind

/-- A decoration makes no choice. -/
theorem Decoration.offers_apply
    (decoration : Decoration)
    {base : Parser}
    (offers : base.Offers) :
    (decoration.apply base).Offers := by
  have labelled : ∀ name, (Parser.label base name).Offers := fun name =>
    Parser.offers_of_components (by simp) (by simpa [Parser.components] using offers)
  have repeated : ∀ parser : Parser, parser.Offers → ∀ bounds,
      (Parser.repetition parser bounds).Offers := fun parser inside bounds =>
    Parser.offers_of_components (by simp) (by simpa [Parser.components] using inside)
  have mapped : ∀ parser : Parser, parser.Offers → ∀ transform,
      (Parser.map parser transform).Offers := fun parser inside transform =>
    Parser.offers_of_components (by simp) (by simpa [Parser.components] using inside)
  rcases decoration with ⟨_ | name, _ | transform, repetition⟩ <;> simp only [apply] <;>
    split_ifs
  · exact repeated _ offers _
  · exact offers
  · exact mapped _ (repeated _ offers _) _
  · exact mapped _ offers _
  · exact repeated _ (labelled name) _
  · exact labelled name
  · exact mapped _ (repeated _ (labelled name) _) _
  · exact mapped _ (labelled name) _

namespace Tree

variable {tree : Tree}

/-- In the parsers of a consistent tree each choice has something to choose from. -/
theorem Consistent.offers
    (consistent : tree.Consistent)
    (id : NodeId) :
    ∀ parser, tree.derived? id = some parser → parser.Offers := by
  induction id using consistent.wellFormed.forest.children_induction with
  | step id hypothesis =>
      intro parser derived
      rcases Option.bind_eq_some_iff.1 derived with ⟨node, found, own⟩
      have member := mem_of_get? found
      have compiled : node.isCompiled = true := by rw [Node.isCompiled, own]; rfl
      rcases consistent.combined_eq_or_constant member compiled with
        ⟨children, base, fresh, listed, combined, kept, alike⟩
      have decorated := (consistent.settled member).decorated
      rw [own, kept] at decorated
      cases decorated
      refine node.decoration.offers_apply ?_
      rcases alike with rfl | ⟨keptValue, value, _, rfl, _, _⟩
      · refine Kind.offers_of_combine combined fun child inside => ?_
        rcases exists_of_mem_mapM listed inside with ⟨place, below, there⟩
        rw [← childrenOf_blueprint found] at below
        exact hypothesis place below child there
      · exact Parser.offers_of_components (by simp) (by simp [Parser.components])

/--
If each choice inside a parser has something to choose from, the failures of its runs expect
something, at offsets between characters of the input.  Whatever edits a tree has gone
through, the parser of a node is such a parser, and so is the parser of the tree.
-/
theorem failures_explained [Pattern.Engine] :
    (∀ parser : Parser, parser.Offers → parser.ExplainsFailures) ∧
      ∀ options edits,
        let tree := (withOptions options).after edits
        (∀ id parser, tree.derived? id = some parser →
          parser.Offers ∧ parser.ExplainsFailures) ∧
          ∀ parser, tree.compile = .ok parser → parser.Offers ∧ parser.ExplainsFailures := by
  refine ⟨fun parser => Parser.Offers.explainsFailures, fun options edits => ?_⟩
  have consistent := (consistent_withOptions options).after edits
  have explained : ∀ id parser, ((withOptions options).after edits).derived? id = some parser →
      parser.Offers ∧ parser.ExplainsFailures := fun id parser derived =>
    have offers := consistent.offers id parser derived
    ⟨offers, offers.explainsFailures⟩
  refine ⟨explained, fun parser compiled => ?_⟩
  rw [compile] at compiled
  split at compiled
  · cases compiled
  · split at compiled
    · rename_i derived
      cases compiled
      exact explained _ _ derived
    · cases compiled

/-- A choice of two texts, one of which goes on with a character of two bytes. -/
theorem failures_explained_of_choice :
    let edits : List Edit :=
      [.create "choice" {}, .create "string" { text := some "ab" },
        .create "string" { text := some "né" },
        .appendChild { number := 1 } { number := 2 },
        .appendChild { number := 1 } { number := 3 }, .setRoot { number := 1 }]
    let tree := (withOptions {}).after edits
    let parser : Parser := .choice [.text "ab", .text "né"]
    tree.compile = .ok parser ∧ parser.Offers ∧
      (∃ failure, parser.run "x" = .failure failure ∧ failure.Explained "x") ∧
        ∃ failure, parser.parse "nén" = .failure failure ∧ failure.Explained "nén" := by
  intro edits tree parser
  have compiled : tree.compile = .ok parser := rfl
  have offers : parser.Offers := ((failures_explained.2 {} edits).2 parser compiled).1
  have explains := failures_explained.1 parser offers
  exact ⟨compiled, offers, ⟨_, rfl, explains _ _ (Or.inl rfl)⟩,
    ⟨_, rfl, explains _ _ (Or.inr rfl)⟩⟩

end Tree

end ParserGraph

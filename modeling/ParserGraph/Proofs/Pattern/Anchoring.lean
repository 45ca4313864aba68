import ParserGraph.Proofs.Pattern.Grouping
import ParserGraph.Proofs.Pattern.Searching

/-!
# Anchored text

The text of a pattern is its source in a group, behind the sign for the start of text.  A
source can close that group early.  If it then goes on with a bar outside of all groups,
the sign belongs to the first branch of a choice alone; otherwise everything stands behind
it, and matches start where the text starts.
-/

namespace ParserGraph.Pattern

/-! ## What one sign does to a pattern that is partly read -/

/-- What becomes of the phrases, branches and open groups when a sign is read. -/
inductive PartialPattern.Advances (partly next : PartialPattern) : Prop where
  | pushed (item : Phrase) :
      next.items = item :: partly.items → next.branches = partly.branches →
      next.groups = partly.groups → Advances partly next
  | opened (group : OpenGroup) :
      group.items = partly.items → group.branches = partly.branches →
      next.groups = group :: partly.groups → Advances partly next
  | finished (group : OpenGroup) (item : Phrase) :
      partly.groups = group :: next.groups → next.items = item :: group.items →
      next.branches = group.branches → Advances partly next
  | parted (branch : Phrase) :
      next.branches = branch :: partly.branches → next.groups = partly.groups →
      Advances partly next
  | repeated (operand item : Phrase) (items : List Phrase) :
      partly.items = operand :: items → next.items = item :: items →
      next.branches = partly.branches → next.groups = partly.groups → Advances partly next

namespace PartialPattern

variable {partly next : PartialPattern}

theorem advances_of_start?
    {rest : List Char}
    (started : partly.start? rest = some next) :
    partly.Advances next := by
  rw [start?] at started
  rcases Option.bind_eq_some_iff.1 started with ⟨⟨start, behind⟩, _, started⟩
  cases start with
  | flags changes =>
      cases started
      exact .pushed _ rfl rfl rfl
  | plain changes =>
      cases started
      exact .opened _ rfl rfl rfl
  | capture name =>
      cases name with
      | none =>
          cases started
          exact .opened _ rfl rfl rfl
      | some name =>
          simp only at started
          split_ifs at started
          cases started
          exact .opened _ rfl rfl rfl

theorem advances_of_finish?
    {rest : List Char}
    (finished : partly.finish? rest = some next) :
    partly.Advances next := by
  rw [finish?] at finished
  split at finished
  · cases finished
  · rename_i group groups opened
    cases finished
    exact .finished group _ opened rfl rfl

theorem advances_of_repeat?
    {min : Nat}
    {max : Option Nat}
    {rest : List Char}
    (repeated : partly.repeat? min max rest = some next) :
    partly.Advances next := by
  rw [repeat?.eq_def] at repeated
  rcases Option.bind_eq_some_iff.1 repeated with ⟨⟨operand, items⟩, taken, repeated⟩
  have whole : partly.items = operand :: items := by
    rw [Repetition.operand?.eq_def] at taken
    split at taken <;> cases taken
    assumption
  cases repeated
  exact .repeated operand _ items whole rfl rfl rfl

theorem advances_of_advance?
    {characters : List Char}
    (advanced : partly.advance? characters = some next) :
    partly.Advances next := by
  rw [advance?.eq_def] at advanced
  split at advanced
  · cases advanced
  · exact advances_of_start? advanced
  · exact advances_of_finish? advanced
  · cases advanced
    exact .parted _ rfl rfl
  · rcases Option.bind_eq_some_iff.1 advanced with ⟨_, _, advanced⟩
    cases advanced
    exact .pushed _ rfl rfl rfl
  · exact advances_of_repeat? advanced
  · exact advances_of_repeat? advanced
  · exact advances_of_repeat? advanced
  · rcases Option.bind_eq_some_iff.1 advanced with ⟨_, _, advanced⟩
    exact advances_of_repeat? advanced
  · cases advanced
    exact .pushed _ rfl rfl rfl
  · cases advanced
    exact .pushed _ rfl rfl rfl
  · cases advanced
    exact .pushed _ rfl rfl rfl
  · rcases Option.bind_eq_some_iff.1 advanced with ⟨_, _, advanced⟩
    cases advanced
    exact .pushed _ rfl rfl rfl
  · cases advanced
    exact .pushed _ rfl rfl rfl

end PartialPattern

/-! ## Behind the sign for the start of text -/

/-- Phrases, the last one first, of which the very first one is the sign for the start. -/
def StartsText (items : List Phrase) : Prop :=
  ∃ front, items = front ++ [.anchor .lineStart]

/--
Unless a bar stood outside of all groups, what is outside of them stands behind the sign
for the start of text, and if no group is open then there is something.
-/
inductive BehindStart (partly : PartialPattern) : Prop where
  | inside (inner : List OpenGroup) (outermost : OpenGroup) :
      partly.groups = inner ++ [outermost] →
      (outermost.branches = [] → StartsText outermost.items) → BehindStart partly
  | outside :
      partly.groups = [] →
      (partly.branches = [] → ∃ last items, partly.items = last :: items ∧ StartsText items) →
      BehindStart partly

/-- A sign that is read stands behind the sign for the start. -/
theorem BehindStart.advances
    {partly next : PartialPattern}
    (behind : BehindStart partly)
    (advances : partly.Advances next) :
    BehindStart next := by
  cases behind with
  | inside inner outermost opened starts =>
      cases advances with
      | pushed item _ _ groups => exact .inside inner outermost (groups.trans opened) starts
      | opened group _ _ groups =>
          exact .inside (group :: inner) outermost (by rw [groups, opened]; rfl) starts
      | parted branch _ groups => exact .inside inner outermost (groups.trans opened) starts
      | repeated operand item items _ _ _ groups =>
          exact .inside inner outermost (groups.trans opened) starts
      | finished group item groups items branches =>
          rw [opened] at groups
          cases inner with
          | nil =>
              -- The outermost group is finished, and its phrase stands behind what it stood behind.
              rcases List.cons.inj groups with ⟨rfl, none_open⟩
              refine .outside none_open.symm fun first_branch => ?_
              exact ⟨item, outermost.items, items, starts (branches ▸ first_branch)⟩
          | cons innermost inner =>
              rcases List.cons.inj groups with ⟨-, still_open⟩
              exact .inside inner outermost still_open.symm starts
  | outside none_open starts =>
      cases advances with
      | pushed item items branches groups =>
          refine .outside (groups.trans none_open) fun first_branch => ?_
          rcases starts (branches ▸ first_branch) with ⟨last, others, whole, front, ends⟩
          refine ⟨item, partly.items, items, last :: front, ?_⟩
          rw [whole, ends, List.cons_append]
      | opened group items branches groups =>
          refine .inside [] group (by rw [groups, none_open]; rfl) fun first_branch => ?_
          rcases starts (branches ▸ first_branch) with ⟨last, others, whole, front, ends⟩
          refine ⟨last :: front, ?_⟩
          rw [items, whole, ends, List.cons_append]
      | finished group item groups => simp [none_open] at groups
      | parted branch branches groups =>
          refine .outside (groups.trans none_open) fun first_branch => ?_
          simp [branches] at first_branch
      | repeated operand item others operands items branches groups =>
          refine .outside (groups.trans none_open) fun first_branch => ?_
          rcases starts (branches ▸ first_branch) with ⟨last, rest, whole, starts⟩
          rcases List.cons.inj (operands.symm.trans whole) with ⟨-, rfl⟩
          exact ⟨item, others, items, starts⟩

theorem Phrase.ofItems_behind_anchor (last : Phrase) (front : List Phrase) :
    Phrase.ofItems (last :: (front ++ [.anchor .lineStart])) =
      .sequence (.anchor .lineStart :: (front.reverse ++ [last])) := by
  cases front <;> simp [Phrase.ofItems]

/-- What a pattern is when it is read: a choice, or phrases behind the sign for the start. -/
theorem BehindStart.complete?
    {partly : PartialPattern}
    (behind : BehindStart partly)
    {fuel : Nat}
    {phrase : Phrase}
    (completed : PartialPattern.complete? fuel partly = some phrase) :
    (∃ branches, phrase = .alternatives branches) ∨
      ∃ items, phrase = .sequence (.anchor .lineStart :: items) := by
  induction fuel generalizing partly with
  | zero => simp [PartialPattern.complete?] at completed
  | succ fuel hypothesis =>
      rw [PartialPattern.complete?] at completed
      split at completed
      · split_ifs at completed with none_open
        cases completed
        cases behind with
        | inside inner outermost opened => simp [opened] at none_open
        | outside _ starts =>
            cases branches : partly.branches with
            | cons branch others =>
                left
                exact ⟨_, by rw [PartialPattern.body, branches, Phrase.ofBranches]; simp⟩
            | nil =>
                right
                rcases starts branches with ⟨last, _, whole, front, rfl⟩
                refine ⟨front.reverse ++ [last], ?_⟩
                rw [PartialPattern.body, branches, whole, Phrase.ofBranches]
                exact Phrase.ofItems_behind_anchor last front
      · rcases Option.bind_eq_some_iff.1 completed with ⟨next, advanced, completed⟩
        exact hypothesis (behind.advances (PartialPattern.advances_of_advance? advanced)) completed

/-! ## The phrase of an anchored text -/

/-- The group that is put around a source, behind the sign for the start of text. -/
def sourceGroup : OpenGroup :=
  { captures := false
    changes := []
    spacing := false
    items := [.anchor .lineStart]
    branches := [] }

theorem toList_anchoredText (source : String) :
    (anchoredText source).toList = '^' :: '(' :: '?' :: ':' :: closed source.toList := by
  simp [anchoredText, closed]

/-- Two signs are read, and the source is to be read in its group. -/
theorem complete?_anchoredText (fuel : Nat) (source : String) :
    PartialPattern.complete? (fuel + 2) { rest := (anchoredText source).toList } =
      PartialPattern.complete? fuel
        (PartialPattern.within { rest := closed source.toList } sourceGroup) := by
  rw [toList_anchoredText]
  rfl

theorem behindStart_source (source : String) :
    BehindStart (PartialPattern.within { rest := closed source.toList } sourceGroup) :=
  .inside [] sourceGroup rfl fun _ => ⟨[], rfl⟩

/-- The phrase of an anchored text is that of its source in the group around it. -/
theorem exists_complete?_of_read?
    {source : String}
    {phrase : Phrase}
    (read : Phrase.read? (anchoredText source).toList = some phrase) :
    ∃ fuel, PartialPattern.complete? fuel
      (PartialPattern.within { rest := closed source.toList } sourceGroup) = some phrase := by
  rcases Option.bind_eq_some_iff.1 read with ⟨whole, completed, shallow⟩
  split_ifs at shallow
  cases shallow
  rw [toList_anchoredText] at completed
  refine ⟨('?' :: ':' :: closed source.toList).length + 1, ?_⟩
  rw [← complete?_anchoredText, toList_anchoredText]
  exact completed

theorem alternatives_or_anchored_of_read?
    {source : String}
    {phrase : Phrase}
    (read : Phrase.read? (anchoredText source).toList = some phrase) :
    (∃ branches, phrase = .alternatives branches) ∨
      ∃ items, phrase = .sequence (.anchor .lineStart :: items) := by
  rcases exists_complete?_of_read? read with ⟨fuel, completed⟩
  exact (behindStart_source source).complete? completed

/-- The group around a source that is a pattern by itself holds that pattern. -/
theorem read?_anchoredText_of_alone
    {source : String}
    {inner phrase : Phrase}
    (alone : Phrase.read? source.toList = some inner)
    (read : Phrase.read? (anchoredText source).toList = some phrase) :
    phrase = .sequence [.anchor .lineStart, .group false [] inner] := by
  rcases Option.bind_eq_some_iff.1 alone with ⟨whole, completed, shallow⟩
  split_ifs at shallow
  cases shallow
  rcases exists_complete?_of_read? read with ⟨fuel, around⟩
  exact PartialPattern.complete?_within completed (.inl rfl) around

/-! ## The automaton of an anchored text -/

/-- A sequence of parts behind a condition starts with asking for it. -/
theorem head_instructions_of_look (look : Look) (parts : List Expression) :
    ((Expression.ofSequence (.look look :: parts)).instructions 0)[0]? = some (.check look) := by
  have joined : ((Expression.look look :: parts).flatMap Expression.items).foldr
      Expression.joinItem [] =
        .look look :: (parts.flatMap Expression.items).foldr Expression.joinItem [] := rfl
  rw [Expression.ofSequence, joined]
  cases (parts.flatMap Expression.items).foldr Expression.joinItem [] with
  | nil => rfl
  | cons item rest => rfl

theorem exists_ofSequence_of_expression?
    {items : List Phrase}
    {expression : Expression}
    {flags : Flags}
    (meant : (Phrase.sequence (.anchor .lineStart :: items)).expression? {} =
      some (expression, flags)) :
    ∃ parts, expression = .ofSequence (.look .textStart :: parts) := by
  rw [Phrase.expression?, Phrase.sequence?, Phrase.expression?] at meant
  rcases Option.bind_eq_some_iff.1 meant with ⟨⟨parts, _⟩, in_order, same⟩
  rcases Option.bind_eq_some_iff.1 in_order with ⟨⟨first, _⟩, asked, in_order⟩
  rcases Option.bind_eq_some_iff.1 in_order with ⟨⟨others, _⟩, _, behind⟩
  cases asked
  cases behind
  cases same
  exact ⟨others, rfl⟩

/-- The automaton of phrases behind the sign for the start asks for the start. -/
theorem asksForStart_of_read?
    {matcher : Pattern}
    {items : List Phrase}
    (read : Phrase.read? (anchoredText matcher.source).toList =
      some (.sequence (.anchor .lineStart :: items))) :
    matcher.automaton.AsksForStart := by
  rcases Option.map_eq_some_iff.1 matcher.compiled with ⟨expression, compiled, automaton⟩
  rcases Option.bind_eq_some_iff.1 compiled with ⟨phrase, same, compiled⟩
  cases read.symm.trans same
  rcases Option.bind_eq_some_iff.1 compiled with ⟨⟨whole, flags⟩, meant, small⟩
  dsimp only at small
  split_ifs at small
  cases small
  rcases exists_ofSequence_of_expression? meant with ⟨parts, rfl⟩
  rw [← automaton, Automaton.AsksForStart, Automaton.ofExpression, List.getElem?_toArray]
  have asked := head_instructions_of_look .textStart parts
  rw [List.getElem?_append_left (List.getElem?_eq_some_iff.1 asked).1]
  exact asked

/-! ## Anchored patterns -/

variable {matcher : Pattern}

theorem source_of_ofSource?
    {source : String}
    {expected : Option String}
    {matcher : Pattern}
    (compiled : Pattern.ofSource? source expected = some matcher) :
    matcher.source = source := by
  rw [ofSource?] at compiled
  split at compiled <;> cases compiled
  rfl

/-- The text of the pattern is a choice, of which the source has closed the group around it. -/
def IsChoice (matcher : Pattern) : Prop :=
  ∃ branches, Phrase.read? (anchoredText matcher.source).toList = some (.alternatives branches)

/-- Patterns that are compiled have phrases. -/
theorem exists_read? (matcher : Pattern) :
    ∃ phrase, Phrase.read? (anchoredText matcher.source).toList = some phrase := by
  rcases Option.map_eq_some_iff.1 matcher.compiled with ⟨expression, compiled, _⟩
  rcases Option.bind_eq_some_iff.1 compiled with ⟨phrase, read, _⟩
  exact ⟨phrase, read⟩

theorem isAnchored_of_asksForStart (asks : matcher.automaton.AsksForStart) :
    matcher.IsAnchored := by
  refine matcher.isAnchored_iff_matchesBehind.2 fun front rest there => ?_
  cases last : front.getLast? with
  | none =>
      rw [List.getLast?_eq_none_iff.1 last] at there ⊢
      exact there
  | some character =>
      rw [MatchesBehind, last] at there
      exact absurd there (asks.not_matchesFrom character rest)

/-- A pattern whose text is no choice is anchored. -/
theorem isAnchored_of_not_isChoice (no_choice : ¬ matcher.IsChoice) : matcher.IsAnchored := by
  rcases matcher.exists_read? with ⟨phrase, read⟩
  rcases alternatives_or_anchored_of_read? read with ⟨branches, rfl⟩ | ⟨items, rfl⟩
  · exact absurd ⟨branches, read⟩ no_choice
  · exact isAnchored_of_asksForStart (asksForStart_of_read? read)

/-- The text of a source that is a pattern by itself is no choice. -/
theorem not_isChoice_of_alone
    (alone : (Phrase.read? matcher.source.toList).isSome) :
    ¬ matcher.IsChoice := by
  rintro ⟨branches, read⟩
  rcases Option.isSome_iff_exists.1 alone with ⟨inner, read_alone⟩
  cases read?_anchoredText_of_alone read_alone read

end ParserGraph.Pattern

import ParserGraph.Proofs.Pattern.Brackets

/-!
# Patterns in a group

A text that is a pattern by itself fills the group that is put around it: sign by sign the
same is read, and when the text ends no group is open but the one around it.  So what makes
a text close the group around it early is that it is no pattern by itself.
-/

namespace ParserGraph.Pattern

/-! ## Signs of patterns -/

namespace PartialPattern

variable {partly next : PartialPattern}

/-- The closing sign stands behind what is still to be read, unless a comment has held it. -/
def FollowedBy (next : PartialPattern) (behind : List Char) : Prop :=
  behind = closed next.rest ∨ behind = []

theorem start?_closed
    {rest : List Char}
    (started : partly.start? rest = some next) :
    ∃ behind, next.FollowedBy behind ∧
      partly.start? (closed rest) = some { next with rest := behind } := by
  rcases Option.bind_eq_some_iff.1 started with ⟨⟨start, after⟩, start_read, started⟩
  rcases GroupStart.read?_skipSpacing_closed start_read with ⟨behind, start_closed, follows⟩
  rw [start?, start_closed]
  cases start with
  | flags changes =>
      cases started
      exact ⟨behind, follows, rfl⟩
  | plain changes =>
      cases started
      exact ⟨behind, follows, rfl⟩
  | capture name =>
      cases name with
      | none =>
          cases started
          exact ⟨behind, follows, rfl⟩
      | some name =>
          dsimp only [Option.bind_eq_bind, Option.bind_some] at started ⊢
          split_ifs at started ⊢
          cases started
          exact ⟨behind, follows, rfl⟩

theorem repeat?_closed
    {min : Nat}
    {max : Option Nat}
    {rest : List Char}
    (repeated : partly.repeat? min max rest = some next) :
    partly.repeat? min max (closed rest) = some { next with rest := closed next.rest } := by
  rcases Option.bind_eq_some_iff.1 repeated with ⟨⟨operand, items⟩, taken, repeated⟩
  rw [repeat?.eq_def, taken]
  cases rest with
  | nil =>
      cases repeated
      rfl
  | cons sign rest =>
      by_cases asked : sign = '?'
      · subst asked
        cases repeated
        rfl
      · cases repeated
        simp [asked]

/-- A sign that is read in front of a closing sign does the same. -/
theorem advance?_closed
    {text : List Char}
    (advanced : partly.advance? text = some next) :
    ∃ behind, next.FollowedBy behind ∧
      partly.advance? (closed text) = some { next with rest := behind } := by
  rw [advance?.eq_def] at advanced
  split at advanced
  · cases advanced
  · exact start?_closed advanced
  · rename_i rest
    refine ⟨closed rest, ?_⟩
    rw [finish?] at advanced
    rw [closed_cons, advance?, finish?]
    split at advanced
    · cases advanced
    · cases advanced
      exact ⟨.inl rfl, rfl⟩
  · cases advanced
    exact ⟨_, .inl rfl, rfl⟩
  · rename_i rest
    rcases Option.bind_eq_some_iff.1 advanced with
      ⟨⟨negated, content, behind⟩, bracket, advanced⟩
    cases advanced
    refine ⟨closed behind, .inl rfl, ?_⟩
    simp [advance?, ClassReader.read?_closed bracket, push]
  · exact ⟨_, .inl rfl, repeat?_closed advanced⟩
  · exact ⟨_, .inl rfl, repeat?_closed advanced⟩
  · exact ⟨_, .inl rfl, repeat?_closed advanced⟩
  · rcases Option.bind_eq_some_iff.1 advanced with
      ⟨⟨⟨min, max⟩, behind⟩, bounds, advanced⟩
    have bounds_closed := Repetition.undisturbed_readBounds? partly.spacing bounds
    -- Behind its bounds a repetition skips spacing, and a comment there may hold the closing sign.
    rcases skipSpacing_closed partly.spacing behind with same | ⟨nothing, nothing_closed⟩
    · refine ⟨_, .inl rfl, ?_⟩
      simp only [closed_cons, advance?, bounds_closed, Option.bind_eq_bind, Option.bind_some, same]
      exact repeat?_closed advanced
    · refine ⟨[], .inr rfl, ?_⟩
      simp only [closed_cons, advance?, bounds_closed, Option.bind_eq_bind, Option.bind_some,
        nothing_closed]
      simp only [nothing] at advanced
      rcases Option.bind_eq_some_iff.1 advanced with ⟨⟨operand, items⟩, taken, repeated⟩
      cases repeated
      exact advanced
  · cases advanced
    exact ⟨_, .inl rfl, rfl⟩
  · cases advanced
    exact ⟨_, .inl rfl, rfl⟩
  · cases advanced
    exact ⟨_, .inl rfl, rfl⟩
  · rcases Option.bind_eq_some_iff.1 advanced with ⟨⟨escape, behind⟩, escaped, advanced⟩
    cases advanced
    refine ⟨closed behind, .inl rfl, ?_⟩
    simp [advance?, Escape.undisturbed_read? partly.spacing escaped, push]
  · rename_i character rest _ _ _ _ _ _ _ _ _ _ _ _
    cases advanced
    refine ⟨closed rest, .inl rfl, ?_⟩
    simp_all [advance?, push]

/-! ## Groups around what is read -/

/-- The same pattern, read inside a further group around all others. -/
def within (partly : PartialPattern) (group : OpenGroup) : PartialPattern :=
  { partly with groups := partly.groups ++ [group] }

theorem start?_within
    {rest : List Char}
    (started : partly.start? rest = some next)
    (group : OpenGroup) :
    (partly.within group).start? rest = some (next.within group) := by
  rcases Option.bind_eq_some_iff.1 started with ⟨⟨start, after⟩, start_read, started⟩
  rw [start?]
  simp only [show (partly.within group).spacing = partly.spacing from rfl, start_read]
  cases start with
  | flags changes =>
      cases started
      rfl
  | plain changes =>
      cases started
      rfl
  | capture name =>
      cases name with
      | none =>
          cases started
          rfl
      | some name =>
          simp only [Option.bind_eq_bind, Option.bind_some] at started ⊢
          split_ifs at started with taken
          cases started
          exact if_neg taken

theorem repeat?_within
    {min : Nat}
    {max : Option Nat}
    {rest : List Char}
    (repeated : partly.repeat? min max rest = some next)
    (group : OpenGroup) :
    (partly.within group).repeat? min max rest = some (next.within group) := by
  rcases Option.bind_eq_some_iff.1 repeated with ⟨⟨operand, items⟩, taken, repeated⟩
  cases repeated
  rw [repeat?.eq_def, show (partly.within group).items = partly.items from rfl, taken]
  rfl

/-- One sign does the same inside a further group. -/
theorem advance?_within
    {text : List Char}
    (advanced : partly.advance? text = some next)
    (group : OpenGroup) :
    (partly.within group).advance? text = some (next.within group) := by
  have spacing : (partly.within group).spacing = partly.spacing := rfl
  rw [advance?.eq_def] at advanced ⊢
  split at advanced
  · cases advanced
  · exact start?_within advanced group
  · rw [finish?] at advanced
    split at advanced
    · cases advanced
    · rename_i opened
      cases advanced
      simp only [finish?, within, opened]
      rfl
  · cases advanced
    rfl
  · rcases Option.bind_eq_some_iff.1 advanced with
      ⟨⟨negated, content, behind⟩, bracket, advanced⟩
    cases advanced
    simp only [spacing, bracket]
    rfl
  · exact repeat?_within advanced group
  · exact repeat?_within advanced group
  · exact repeat?_within advanced group
  · rcases Option.bind_eq_some_iff.1 advanced with
      ⟨⟨⟨min, max⟩, behind⟩, bounds, advanced⟩
    simp only [spacing, bounds]
    exact repeat?_within advanced group
  · cases advanced
    rfl
  · cases advanced
    rfl
  · cases advanced
    rfl
  · rcases Option.bind_eq_some_iff.1 advanced with ⟨⟨escape, behind⟩, escaped, advanced⟩
    cases advanced
    simp only [spacing, escaped]
    rfl
  · cases advanced
    rfl

/-- The closing sign behind a pattern ends the group around it, and nothing follows. -/
theorem whole_of_closing
    {fuel : Nat}
    {group : OpenGroup}
    {rest : List Char}
    {whole : Phrase}
    (none_open : partly.groups = [])
    (closes : (({ partly with rest }.within group).advance? (closed [])).bind (complete? fuel) =
      some whole) :
    whole = .ofBranches
      (.ofItems (.group group.captures group.changes partly.body :: group.items) ::
        group.branches) := by
  rcases Option.bind_eq_some_iff.1 closes with ⟨next, finished, completed⟩
  rw [closed_nil, advance?, finish?] at finished
  simp only [within, none_open, List.nil_append, Option.some.injEq] at finished
  subst finished
  cases fuel with
  | zero => cases completed
  | succ fuel =>
      simp only [complete?, skipSpacing_nil, List.isEmpty_nil, if_true, Option.some.injEq]
        at completed
      rw [← completed]
      rfl

/--
A pattern by itself that is read in a further group, with the closing sign behind it, fills
that group.
-/
theorem complete?_within
    {fuel further : Nat}
    {phrase whole : Phrase}
    {group : OpenGroup}
    {rest : List Char}
    (alone : complete? fuel partly = some phrase)
    (follows : partly.FollowedBy rest)
    (around : complete? further ({ partly with rest }.within group) = some whole) :
    whole = .ofBranches
      (.ofItems (.group group.captures group.changes phrase :: group.items) :: group.branches) := by
  induction fuel generalizing partly rest further with
  | zero => cases alone
  | succ fuel hypothesis =>
      cases further with
      | zero => cases around
      | succ further =>
          rw [complete?] at alone around
          have still_open : ({ partly with rest }.within group).groups.isEmpty = false := by
            simp [within]
          simp only [show ({ partly with rest }.within group).rest = rest from rfl,
            show ({ partly with rest }.within group).spacing = partly.spacing from rfl] at around
          rcases follows with rfl | rfl
          · cases skipped : skipSpacing partly.spacing partly.rest with
            | nil =>
                -- The text ends, and with it all groups but the one around it.
                rw [skipped] at alone
                split_ifs at alone with none_open
                cases alone
                rcases skipSpacing_closed partly.spacing partly.rest with same | ⟨_, nothing⟩
                · rw [same, skipped] at around
                  exact whole_of_closing (List.isEmpty_iff.1 none_open) around
                · simp only [nothing, still_open] at around
                  cases around
            | cons first others =>
                rw [skipped] at alone
                rw [skipSpacing_closed_of_cons skipped] at around
                rcases Option.bind_eq_some_iff.1 alone with ⟨next, advanced, alone⟩
                rcases advance?_closed advanced with ⟨behind, follows, advanced_closed⟩
                rcases Option.bind_eq_some_iff.1 around with ⟨next_within, advanced, around⟩
                cases advanced.symm.trans (advance?_within advanced_closed group)
                exact hypothesis alone follows around
          · -- A comment has held the closing sign, so the group around stays open.
            simp only [skipSpacing_nil, still_open] at around
            cases around

end PartialPattern

end ParserGraph.Pattern

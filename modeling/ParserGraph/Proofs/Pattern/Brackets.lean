import ParserGraph.Proofs.Pattern.Closing

/-!
# Brackets in front of a closing sign

A bracket that is read from some text is read as well if the sign that closes groups stands
behind the text.  In a bracket that sign is a character like others, but a bracket that is
still open where the text ends is refused anyway.
-/

namespace ParserGraph.Pattern.ClassReader

theorem readHyphens_of_ne
    {spacing : Bool}
    {fuel : Nat}
    {items : List ClassPhrase}
    {character : Char}
    {rest : List Char}
    (other : character ≠ '-') :
    readHyphens spacing fuel items (character :: rest) = (items, character :: rest) := by
  cases fuel with
  | zero => rfl
  | succ fuel => simp [readHyphens, other]

/-- Hyphens with a further sign behind them; the fuel is enough for the whole text. -/
theorem readHyphens_closed
    {spacing : Bool}
    {fuel : Nat}
    {items result : List ClassPhrase}
    {text behind : List Char}
    {sign : Char}
    (enough : text.length ≤ fuel)
    (read : readHyphens spacing fuel items text = (result, sign :: behind)) :
    readHyphens spacing (fuel + 1) items (closed text) = (result, sign :: closed behind) := by
  induction fuel generalizing items text with
  | zero =>
      rw [List.length_eq_zero_iff.1 (Nat.le_zero.1 enough)] at read
      cases read
  | succ fuel hypothesis =>
      cases text with
      | nil => cases read
      | cons character rest =>
          rw [closed_cons]
          by_cases hyphen : character = '-'
          · subst hyphen
            rw [readHyphens] at read ⊢
            have shorter : (skipSpacing spacing rest).length ≤ fuel :=
              Nat.le_trans (skipSpacing_length spacing rest) (Nat.le_of_succ_le_succ enough)
            cases skipped : skipSpacing spacing rest with
            | nil =>
                rw [skipped] at read
                cases fuel <;> cases read
            | cons next others =>
                rw [skipSpacing_closed_of_cons skipped, ← closed_cons, ← skipped]
                exact hypothesis shorter read
          · rw [readHyphens_of_ne hyphen] at read ⊢
            cases read
            rfl

/-- The sign of negation at the start of a bracket, if it is there. -/
def readNegation (spacing : Bool) (text : List Char) : Bool × List Char :=
  match skipSpacing spacing text with
  | '^' :: rest => (true, skipSpacing spacing rest)
  | rest => (false, rest)

/-- A closing bracket that stands for itself, if there is nothing in front of it. -/
def readLoneBracket (spacing : Bool) :
    List ClassPhrase → List Char → List ClassPhrase × List Char
  | [], ']' :: rest => ([.literal ']' false], skipSpacing spacing rest)
  | items, rest => (items, rest)

theorem readLoneBracket_of_ne
    {spacing : Bool}
    {items : List ClassPhrase}
    {character : Char}
    {rest : List Char}
    (other : character ≠ ']') :
    readLoneBracket spacing items (character :: rest) = (items, character :: rest) := by
  cases items with
  | nil => simp [readLoneBracket, other]
  | cons item items => rfl

theorem readNegation_closed
    {spacing negated : Bool}
    {text behind : List Char}
    {sign : Char}
    (read : readNegation spacing text = (negated, sign :: behind)) :
    readNegation spacing (closed text) = (negated, sign :: closed behind) := by
  rw [readNegation] at read ⊢
  split at read
  · rename_i rest skipped
    rcases Prod.mk.inj read with ⟨rfl, behind_skipped⟩
    rw [skipSpacing_closed_of_cons skipped]
    exact Prod.ext rfl (skipSpacing_closed_of_cons behind_skipped)
  · rename_i not_asked
    rcases Prod.mk.inj read with ⟨rfl, skipped⟩
    rw [skipSpacing_closed_of_cons skipped]
    split
    · rename_i same
      cases same
      exact absurd skipped (not_asked _)
    · rfl

theorem readLoneBracket_closed
    {spacing : Bool}
    {items result : List ClassPhrase}
    {first sign : Char}
    {rest behind : List Char}
    (read : readLoneBracket spacing items (first :: rest) = (result, sign :: behind)) :
    readLoneBracket spacing items (first :: closed rest) = (result, sign :: closed behind) := by
  by_cases lone : first = ']'
  · subst lone
    cases items with
    | nil =>
        rcases Prod.mk.inj read with ⟨rfl, behind_skipped⟩
        exact Prod.ext rfl (skipSpacing_closed_of_cons behind_skipped)
    | cons item items =>
        cases read
        rfl
  · rw [readLoneBracket_of_ne lone] at read ⊢
    cases read
    rfl

/-- The start of a bracket is read in three steps. -/
theorem readStart?_eq (spacing : Bool) (text : List Char) :
    readStart? spacing text =
      let unsigned := readNegation spacing text
      let hyphens := readHyphens spacing unsigned.2.length [] unsigned.2
      let bracket := readLoneBracket spacing hyphens.1 hyphens.2
      if bracket.2.isEmpty then none else some (unsigned.1, bracket.1, bracket.2) :=
  rfl

theorem readStart?_closed
    {spacing negated : Bool}
    {text behind : List Char}
    {items : List ClassPhrase}
    (read : readStart? spacing text = some (negated, items, behind)) :
    readStart? spacing (closed text) = some (negated, items, closed behind) := by
  rw [readStart?_eq] at read
  rcases signed : readNegation spacing text with ⟨negation, unsigned⟩
  rcases hyphens : readHyphens spacing unsigned.length [] unsigned with ⟨started, rest⟩
  rcases bracket : readLoneBracket spacing started rest with ⟨found, after⟩
  simp only [signed, hyphens, bracket] at read
  split_ifs at read with nothing
  cases read
  cases behind with
  | nil => cases nothing rfl
  | cons sign behind =>
      cases rest with
      | nil => cases started <;> cases bracket
      | cons first rest =>
          cases unsigned with
          | nil => cases hyphens
          | cons other unsigned =>
              have hyphens_closed := readHyphens_closed (Nat.le_refl _) hyphens
              rw [closed_cons, List.length_cons] at hyphens_closed
              simp only [readStart?_eq, readNegation_closed signed, List.length_cons,
                length_closed, hyphens_closed, readLoneBracket_closed bracket]
              rfl

/-- The name of an ASCII class up to the signs that end it. -/
def readAsciiName? (negated : Bool) (text : List Char) : Option (ClassPhrase × List Char) :=
  match text.dropWhile (· != ':') with
  | ':' :: ']' :: behind =>
      (asciiClass? (String.ofList (text.takeWhile (· != ':')))).map fun set =>
        (.ascii set negated, behind)
  | _ => none

theorem readAsciiName?_closed (negated : Bool) (text : List Char) :
    readAsciiName? negated (closed text) =
      (readAsciiName? negated text).map fun (item, behind) => (item, closed behind) := by
  rw [readAsciiName?, readAsciiName?]
  cases dropped : text.dropWhile (· != ':') with
  | nil =>
      rw [closed, List.dropWhile_append, dropped]
      rfl
  | cons colon rest =>
      rw [dropWhile_closed_of_cons dropped, takeWhile_closed_of_cons dropped]
      cases rest with
      | nil => simp
      | cons sign behind =>
          rw [closed_cons]
          by_cases ends : colon = ':' ∧ sign = ']'
          · rcases ends with ⟨rfl, rfl⟩
            cases asciiClass? (String.ofList (text.takeWhile (· != ':'))) <;> rfl
          · split <;> simp_all

theorem readAscii?_colon (rest : List Char) :
    readAscii? (':' :: rest) =
      readAsciiName? (readNegation false rest).1 (readNegation false rest).2 :=
  rfl

theorem readNegation_false_closed (text : List Char) :
    readNegation false (closed text) =
      ((readNegation false text).1, closed (readNegation false text).2) := by
  cases text with
  | nil => rfl
  | cons first rest =>
      by_cases negated : first = '^'
      · subst negated
        rfl
      · simp [readNegation, skipSpacing, negated]

/-- Whether an ASCII class follows does not depend on a closing sign behind the text either. -/
theorem readAscii?_closed (text : List Char) :
    readAscii? (closed text) =
      (readAscii? text).map fun (item, behind) => (item, closed behind) := by
  cases text with
  | nil => rfl
  | cons first rest =>
      by_cases colon : first = ':'
      · subst colon
        rw [closed_cons, readAscii?_colon, readNegation_false_closed, readAsciiName?_closed,
          readAscii?_colon]
      · simp [readAscii?, colon]

theorem undisturbed_readItem? (spacing : Bool) : Undisturbed (readItem? spacing) := by
  intro text item behind read
  rw [readItem?.eq_def] at read
  split at read
  · cases read
  · exact Escape.undisturbed_read? spacing read
  · cases read
    simp_all [readItem?]

theorem undisturbed_readRange? (spacing : Bool) : Undisturbed (readRange? spacing) := by
  intro text item behind read
  rcases Option.bind_eq_some_iff.1 read with ⟨⟨first, rest⟩, first_read, read⟩
  dsimp only at read
  split at read
  · cases read
  · rename_i sign others skipped
    have same_look (next : Char) (visible : next ≠ ')') :
        (signBehind? spacing (sign :: closed others) == some next) =
          (signBehind? spacing (sign :: others) == some next) := by
      rcases signBehind?_closed spacing sign others with same | ⟨unseen, seen⟩
      · rw [same]
      · simp [unseen, seen, visible.symm]
    rw [readRange?, undisturbed_readItem? spacing first_read]
    simp only [Option.bind_eq_bind, Option.bind_some, skipSpacing_closed_of_cons skipped,
      same_look ']' (by decide), same_look '-' (by decide)]
    split_ifs at read ⊢ with single
    · rcases Option.map_eq_some_iff.1 read with ⟨phrase, named, same⟩
      cases same
      rw [named]
      rfl
    · rcases Option.bind_eq_some_iff.1 read with ⟨⟨last, after⟩, last_read, read⟩
      rcases Option.map_eq_some_iff.1 read with ⟨phrase, ordered, same⟩
      cases same
      have last_closed := (undisturbed_readItem? spacing).behindSpacing rfl spacing last_read
      simp only [last_closed, Option.bind_some, ordered]
      rfl

/-- A sign that stands twice in a closed text stands twice in the text. -/
theorem pair_of_closed
    {first sign : Char}
    {rest behind : List Char}
    (same : first :: closed rest = sign :: sign :: behind)
    (other : sign ≠ ')') :
    ∃ others, first :: rest = sign :: sign :: others := by
  cases rest with
  | nil =>
      cases same
      exact absurd rfl other
  | cons second others =>
      cases same
      exact ⟨others, rfl⟩

/-- One more sign takes one more step, which is not made any more. -/
theorem readRest?_closed
    {spacing : Bool}
    {fuel : Nat}
    {items : List ClassPhrase}
    {frames : List ClassFrame}
    {text behind : List Char}
    {negated : Bool}
    {content : ClassPhrase}
    (read : readRest? spacing fuel items frames text = some (negated, content, behind)) :
    readRest? spacing (fuel + 1) items frames (closed text) =
      some (negated, content, closed behind) := by
  induction fuel generalizing items frames text with
  | zero => cases read
  | succ fuel hypothesis =>
      rw [readRest?] at read ⊢
      split at read
      · cases read
      · rename_i rest skipped
        rw [skipSpacing_closed_of_cons skipped]
        simp only [readAscii?_closed]
        cases named : readAscii? rest with
        | some result =>
            simp only [named] at read
            exact hypothesis read
        | none =>
            simp only [named] at read
            rcases Option.bind_eq_some_iff.1 read with ⟨⟨inside, started, after⟩, start, read⟩
            simp only [Option.map_none, readStart?_closed start]
            exact hypothesis read
      · rename_i rest skipped
        rw [skipSpacing_closed_of_cons skipped]
        split at read
        · cases read
          rfl
        · exact hypothesis read
        · cases read
      · rename_i rest skipped
        rw [skipSpacing_closed_of_cons skipped]
        exact hypothesis read
      · rename_i rest skipped
        rw [skipSpacing_closed_of_cons skipped]
        exact hypothesis read
      · rename_i rest skipped
        rw [skipSpacing_closed_of_cons skipped]
        exact hypothesis read
      · rename_i not_opened not_ended not_intersected not_differing not_parted
        rcases Option.bind_eq_some_iff.1 read with ⟨⟨item, after⟩, item_read, read⟩
        cases skipped : skipSpacing spacing text with
        | nil =>
            rw [skipped] at item_read
            cases item_read
        | cons first rest =>
            have item_closed := undisturbed_readRange? spacing item_read
            rw [skipped, closed_cons] at item_closed
            rw [skipSpacing_closed_of_cons skipped]
            -- No operation starts in front of the closing sign that did not start before.
            split
            · rename_i nothing
              cases nothing
            · rename_i same
              cases same
              exact absurd skipped (not_opened rest)
            · rename_i same
              cases same
              exact absurd skipped (not_ended rest)
            · rename_i same
              rcases pair_of_closed same (by decide) with ⟨others, same⟩
              exact absurd (skipped.trans same) (not_intersected others)
            · rename_i same
              rcases pair_of_closed same (by decide) with ⟨others, same⟩
              exact absurd (skipped.trans same) (not_differing others)
            · rename_i same
              rcases pair_of_closed same (by decide) with ⟨others, same⟩
              exact absurd (skipped.trans same) (not_parted others)
            · rw [item_closed]
              exact hypothesis read

theorem read?_closed
    {spacing negated : Bool}
    {text behind : List Char}
    {content : ClassPhrase}
    (read : read? spacing text = some (negated, content, behind)) :
    read? spacing (closed text) = some (negated, content, closed behind) := by
  rcases Option.bind_eq_some_iff.1 read with ⟨⟨starts_negated, items, rest⟩, started, read⟩
  simp [ClassReader.read?, readStart?_closed started, readRest?_closed read]

end ParserGraph.Pattern.ClassReader

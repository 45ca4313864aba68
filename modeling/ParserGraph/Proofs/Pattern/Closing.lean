import Mathlib.Data.List.Basic
import Mathlib.Tactic.SplitIfs
import ParserGraph.Pattern.Reader

/-!
# Text in front of a closing sign

What a reader reads from some text it reads as well if the sign that closes groups stands
behind the text.  Readers that skip spacing at the end may lose that sign to a comment;
they are asked only for what they read in front of some further text.
-/

namespace ParserGraph.Pattern

/-- A text with the sign that closes groups behind it. -/
def closed (text : List Char) : List Char :=
  text ++ [')']

@[simp]
theorem closed_nil : closed [] = [')'] :=
  rfl

@[simp]
theorem closed_cons (character : Char) (text : List Char) :
    closed (character :: text) = character :: closed text :=
  rfl

@[simp]
theorem length_closed (text : List Char) : (closed text).length = text.length + 1 :=
  List.length_append

/-- What the reader reads does not depend on a closing sign behind the text. -/
def Undisturbed {Result : Type} (read? : List Char → Option (Result × List Char)) : Prop :=
  ∀ ⦃text result behind⦄,
    read? text = some (result, behind) → read? (closed text) = some (result, closed behind)

/-! ## Spacing -/

theorem dropSpacing_closed (inComment : Bool) (text : List Char) :
    dropSpacing inComment (closed text) = closed (dropSpacing inComment text) ∨
      dropSpacing inComment text = [] ∧ dropSpacing inComment (closed text) = [] := by
  induction text generalizing inComment with
  | nil => cases inComment <;> simp [dropSpacing]
  | cons character rest hypothesis =>
      rw [closed_cons]
      cases inComment with
      | true => exact hypothesis _
      | false =>
          simp only [dropSpacing]
          split
          · exact hypothesis _
          · split
            · exact hypothesis _
            · exact .inl rfl

/-- Spacing may reach the end of a text, and a comment in it goes on behind the end. -/
theorem skipSpacing_closed (spacing : Bool) (text : List Char) :
    skipSpacing spacing (closed text) = closed (skipSpacing spacing text) ∨
      skipSpacing spacing text = [] ∧ skipSpacing spacing (closed text) = [] := by
  cases spacing with
  | false => exact .inl rfl
  | true => exact dropSpacing_closed false text

@[simp]
theorem skipSpacing_nil (spacing : Bool) : skipSpacing spacing [] = [] := by
  cases spacing <;> rfl

theorem skipSpacing_closed_of_cons
    {spacing : Bool}
    {text behind : List Char}
    {character : Char}
    (skipped : skipSpacing spacing text = character :: behind) :
    skipSpacing spacing (closed text) = character :: closed behind := by
  rcases skipSpacing_closed spacing text with same | ⟨nothing, _⟩
  · rw [same, skipped, closed_cons]
  · rw [nothing] at skipped
    cases skipped

/-- A reader that refuses the end of text reads the same behind spacing. -/
theorem Undisturbed.behindSpacing
    {Result : Type}
    {read? : List Char → Option (Result × List Char)}
    (undisturbed : Undisturbed read?)
    (refuses : read? [] = none)
    (spacing : Bool) :
    Undisturbed fun text => read? (skipSpacing spacing text) := by
  intro text result behind read
  rcases skipSpacing_closed spacing text with same | ⟨nothing, _⟩
  · simp only [same]
    exact undisturbed read
  · simp only [nothing, refuses] at read
    cases read

theorem dropWhile_closed_of_cons
    {holds : Char → Bool}
    {text behind : List Char}
    {character : Char}
    (dropped : text.dropWhile holds = character :: behind) :
    (closed text).dropWhile holds = character :: closed behind := by
  rw [closed, List.dropWhile_append, dropped]
  rfl

theorem takeWhile_closed_of_cons
    {holds : Char → Bool}
    {text behind : List Char}
    {character : Char}
    (dropped : text.dropWhile holds = character :: behind) :
    (closed text).takeWhile holds = text.takeWhile holds := by
  induction text with
  | nil => cases dropped
  | cons first rest hypothesis =>
      rw [closed_cons, List.takeWhile_cons, List.takeWhile_cons]
      rw [List.dropWhile_cons] at dropped
      split
      · rename_i passes
        rw [if_pos passes] at dropped
        rw [hypothesis dropped]
      · rfl

theorem dropWhile_blank_closed (text : List Char) :
    (closed text).dropWhile Text.isBlank = closed (text.dropWhile Text.isBlank) := by
  have visible : Text.isBlank ')' = false := by decide
  rw [closed, closed, List.dropWhile_append]
  split
  · rename_i nothing
    rw [List.isEmpty_iff.1 nothing, List.dropWhile_cons, visible]
    rfl
  · rfl

theorem head?_closed (text : List Char) :
    (closed text).head? = text.head? ∨ text.head? = none ∧ (closed text).head? = some ')' := by
  cases text with
  | nil => exact .inr ⟨rfl, rfl⟩
  | cons character rest => exact .inl rfl

/-- A look ahead sees the sign behind the text at most where it saw nothing. -/
theorem signBehind?_closed (spacing : Bool) (character : Char) (rest : List Char) :
    signBehind? spacing (character :: closed rest) = signBehind? spacing (character :: rest) ∨
      signBehind? spacing (character :: rest) = none ∧
        signBehind? spacing (character :: closed rest) = some ')' := by
  cases spacing with
  | false => exact head?_closed rest
  | true =>
      simp only [signBehind?, if_true, dropWhile_blank_closed]
      cases rest.dropWhile Text.isBlank with
      | nil => exact .inr ⟨rfl, rfl⟩
      | cons next others =>
          rw [closed_cons]
          by_cases comment : next = '#'
          · subst comment
            simp only [dropWhile_blank_closed]
            exact head?_closed _
          · exact .inl (by simp [comment])

/-! ## Starts of groups -/

namespace GroupStart

theorem undisturbed_readName? (first : Bool) : Undisturbed (readName? first) := by
  intro text name behind read
  induction text generalizing first name with
  | nil => simp [readName?] at read
  | cons character rest hypothesis =>
      rw [closed_cons, readName?.eq_def]
      rw [readName?.eq_def] at read
      simp only at read ⊢
      split_ifs at read ⊢ with ends empty allowed
      · cases read
        rfl
      · rcases Option.map_eq_some_iff.1 read with ⟨⟨others, _⟩, others_read, same⟩
        cases same
        rw [hypothesis false others_read]
        rfl

theorem readFlags?_closed
    {changes : List FlagChange}
    {on afterHyphen : Bool}
    {text behind : List Char}
    {result : List FlagChange}
    {sign : Char}
    (read : readFlags? changes on afterHyphen text = some (result, sign, behind)) :
    readFlags? changes on afterHyphen (closed text) = some (result, sign, closed behind) := by
  induction text generalizing changes on afterHyphen with
  | nil => simp [readFlags?] at read
  | cons character rest hypothesis =>
      rw [closed_cons, readFlags?.eq_def]
      rw [readFlags?.eq_def] at read
      simp only at read ⊢
      by_cases ends : character = ':' ∨ character = ')'
      · rw [if_pos ends] at read ⊢
        split_ifs at read ⊢
        cases read
        rfl
      rw [if_neg ends] at read ⊢
      by_cases hyphen : character = '-'
      · rw [if_pos hyphen] at read ⊢
        split_ifs at read ⊢
        exact hypothesis read
      rw [if_neg hyphen] at read ⊢
      cases named : Flag.ofLetter? character with
      | none =>
          rw [named] at read
          cases read
      | some flag =>
          simp only [named] at read ⊢
          split_ifs at read ⊢
          exact hypothesis read

theorem undisturbed_read? : Undisturbed read? := by
  intro text start behind read
  rw [read?.eq_def] at read
  split at read
  · cases read
  · cases read
  · cases read
  · cases read
  · rename_i rest
    rcases Option.map_eq_some_iff.1 read with ⟨⟨name, _⟩, name_read, same⟩
    cases same
    simp only [closed_cons, read?, undisturbed_readName? true name_read]
    rfl
  · -- The name starts with the same character, so this is still no look behind.
    rename_i rest _ _
    rcases Option.map_eq_some_iff.1 read with ⟨⟨name, _⟩, name_read, same⟩
    cases same
    cases rest with
    | nil => cases name_read
    | cons character rest =>
        have named := undisturbed_readName? true name_read
        rw [closed_cons] at named
        simp_all [read?]
  · -- There is a first flag, and it is no sign that starts something else.
    rename_i rest _ _ _ _ _ _
    cases found : readFlags? [] true false rest with
    | none =>
        rw [found] at read
        cases read
    | some result =>
        rcases result with ⟨changes, sign, after⟩
        cases rest with
        | nil => simp [readFlags?] at found
        | cons character rest =>
            have no_name : character ≠ 'P' := by
              rintro rfl
              simp [readFlags?, Flag.ofLetter?] at found
            have found_closed := readFlags?_closed found
            rw [closed_cons] at found_closed
            simp only [found] at read
            split_ifs at read with ends unchanged
            · cases read
              simp_all [read?]
            · cases read
              simp_all [read?]
  · rename_i not_asked
    cases read
    cases text with
    | nil => rfl
    | cons character rest =>
        have other : character ≠ '?' := by
          rintro rfl
          exact not_asked rest rfl
        simp [read?, other]

theorem read?_skipSpacing_closed
    {spacing : Bool}
    {text behind : List Char}
    {start : GroupStart}
    (read : read? (skipSpacing spacing text) = some (start, behind)) :
    ∃ further, read? (skipSpacing spacing (closed text)) = some (start, further) ∧
      (further = closed behind ∨ further = []) := by
  rcases skipSpacing_closed spacing text with same | ⟨nothing, nothing_closed⟩
  · rw [same]
    exact ⟨_, undisturbed_read? read, .inl rfl⟩
  · rw [nothing] at read
    cases read
    rw [nothing_closed]
    exact ⟨_, rfl, .inr rfl⟩

end GroupStart

/-! ## Counts of repetitions -/

namespace Repetition

/-- Digits with a further sign behind them; the fuel is enough for the whole text. -/
theorem readDigits_closed
    {spacing : Bool}
    {fuel : Nat}
    {text digits behind : List Char}
    {sign : Char}
    (enough : text.length ≤ fuel)
    (read : readDigits spacing fuel text = (digits, sign :: behind)) :
    readDigits spacing (fuel + 1) (closed text) = (digits, sign :: closed behind) := by
  induction fuel generalizing text digits with
  | zero =>
      rw [List.length_eq_zero_iff.1 (Nat.le_zero.1 enough)] at read
      cases read
  | succ fuel hypothesis =>
      cases text with
      | nil => cases read
      | cons character rest =>
          rw [closed_cons, readDigits]
          rw [readDigits] at read
          split_ifs at read ⊢ with digit
          · have shorter : (skipSpacing spacing rest).length ≤ fuel :=
              Nat.le_trans (skipSpacing_length spacing rest) (Nat.le_of_succ_le_succ enough)
            cases skipped : skipSpacing spacing rest with
            | nil =>
                -- Nothing is left, but a further sign was found.
                rw [skipped] at read
                cases fuel <;> cases read
            | cons next others =>
                rw [skipSpacing_closed_of_cons skipped, ← closed_cons, ← skipped]
                rcases others_read : readDigits spacing fuel (skipSpacing spacing rest) with
                  ⟨others_digits, others_behind⟩
                rw [others_read] at read
                cases read
                rw [hypothesis shorter others_read]
          · cases read
            rfl

theorem readCount?_closed
    {spacing : Bool}
    {text behind : List Char}
    {count : Nat}
    {sign : Char}
    (read : readCount? spacing text = some (count, sign :: behind)) :
    readCount? spacing (closed text) = some (count, sign :: closed behind) := by
  rcases digits_read : readDigits spacing (text.dropWhile Text.isBlank).length
    (text.dropWhile Text.isBlank) with ⟨digits, after⟩
  simp only [readCount?, digits_read] at read
  split_ifs at read with refused
  simp only [Option.some.injEq, Prod.mk.injEq] at read
  rcases read with ⟨counted, skipped⟩
  cases after with
  | nil => cases spacing <;> cases skipped
  | cons next others =>
      simp only [readCount?, dropWhile_blank_closed, length_closed,
        readDigits_closed (Nat.le_refl _) digits_read, refused]
      rw [← closed_cons next, dropWhile_blank_closed, skipSpacing_closed_of_cons skipped, counted]
      rfl

theorem readCount?_skipSpacing_closed
    {spacing : Bool}
    {text behind : List Char}
    {count : Nat}
    {sign : Char}
    (read : readCount? spacing (skipSpacing spacing text) = some (count, sign :: behind)) :
    readCount? spacing (skipSpacing spacing (closed text)) =
      some (count, sign :: closed behind) := by
  cases skipped : skipSpacing spacing text with
  | nil =>
      rw [skipped] at read
      cases read
  | cons next others =>
      rw [skipSpacing_closed_of_cons skipped, ← closed_cons, ← skipped]
      exact readCount?_closed read

theorem undisturbed_readBounds? (spacing : Bool) : Undisturbed (readBounds? spacing) := by
  intro text bounds behind read
  rcases Option.bind_eq_some_iff.1 read with ⟨⟨min, rest⟩, min_read, read⟩
  dsimp only at read
  split at read
  · cases read
    simp [readBounds?, readCount?_skipSpacing_closed min_read]
  · rename_i others
    split at read
    · rename_i closes
      cases read
      simp [readBounds?, readCount?_skipSpacing_closed min_read, skipSpacing_closed_of_cons closes]
    · rename_i not_closed
      rcases Option.bind_eq_some_iff.1 read with ⟨⟨max, rest⟩, max_read, read⟩
      dsimp only at read
      split at read
      · have max_closed := readCount?_skipSpacing_closed max_read
        cases skipped : skipSpacing spacing others with
        | nil =>
            rw [skipped] at max_read
            cases max_read
        | cons next rest =>
            have open_still : next ≠ '\x7d' := by
              rintro rfl
              exact not_closed rest skipped
            split_ifs at read with ordered
            cases read
            rw [skipSpacing_closed_of_cons skipped] at max_closed
            simp [readBounds?, readCount?_skipSpacing_closed min_read,
              skipSpacing_closed_of_cons skipped, open_still, max_closed, ordered]
      · cases read
  · cases read

end Repetition

/-! ## Escapes -/

namespace Escape

theorem readBraced?_eq (spacing : Bool) (text : List Char) :
    readBraced? spacing text =
      match skipSpacing spacing text with
      | [] => none
      | character :: rest =>
          if character = '\x7d' then
            some ([], rest)
          else
            (readBraced? spacing rest).map fun (content, behind) =>
              (character :: content, behind) := by
  rw [readBraced?.eq_def]
  split <;> simp_all

theorem undisturbed_readBraced? (spacing : Bool) : Undisturbed (readBraced? spacing) := by
  intro text content behind read
  fun_induction readBraced? spacing text generalizing content with
  | case1 text nothing => cases read
  | case2 text rest skipped =>
      cases read
      rw [readBraced?_eq, skipSpacing_closed_of_cons skipped]
      exact if_pos rfl
  | case3 text character rest not_closed skipped hypothesis =>
      rcases Option.map_eq_some_iff.1 read with ⟨⟨others, _⟩, others_read, same⟩
      cases same
      rw [readBraced?_eq, skipSpacing_closed_of_cons skipped]
      simp only [if_neg not_closed, hypothesis others_read]
      rfl

theorem undisturbed_readCounted? (spacing : Bool) (count : Nat) :
    Undisturbed (readCounted? spacing count) := by
  intro text content behind read
  induction count generalizing text content with
  | zero =>
      cases read
      rfl
  | succ count hypothesis =>
      rw [readCounted?] at read ⊢
      cases skipped : skipSpacing spacing text with
      | nil =>
          rw [skipped] at read
          cases read
      | cons character rest =>
          rw [skipped] at read
          rw [skipSpacing_closed_of_cons skipped]
          rcases Option.map_eq_some_iff.1 read with ⟨⟨others, _⟩, others_read, same⟩
          cases same
          simp only [hypothesis others_read]
          rfl

theorem undisturbed_readCode? (spacing : Bool) (count : Nat) :
    Undisturbed (readCode? spacing count) := by
  intro text escape behind read
  rw [readCode?] at read ⊢
  cases skipped : skipSpacing spacing text with
  | nil =>
      rw [skipped] at read
      cases count <;> simp [readCounted?, ofHexadecimal?] at read
  | cons character rest =>
      rw [skipped] at read
      rw [skipSpacing_closed_of_cons skipped]
      split at read
      · rename_i same
        cases same
        rcases Option.bind_eq_some_iff.1 read with ⟨⟨digits, after⟩, digits_read, read⟩
        rcases Option.map_eq_some_iff.1 read with ⟨code, valid, same⟩
        cases same
        simp [undisturbed_readBraced? spacing digits_read, valid]
      · rename_i not_opened
        rcases Option.bind_eq_some_iff.1 read with ⟨⟨digits, after⟩, digits_read, read⟩
        rcases Option.map_eq_some_iff.1 read with ⟨code, valid, same⟩
        cases same
        have no_brace : character ≠ '\x7b' := by
          rintro rfl
          exact not_opened rest rfl
        have digits_closed := undisturbed_readCounted? spacing count digits_read
        rw [closed_cons] at digits_closed
        simp [no_brace, digits_closed, valid]

theorem undisturbed_readClass? (spacing negated : Bool) :
    Undisturbed (readClass? spacing negated) := by
  intro text escape behind read
  rw [readClass?] at read ⊢
  split at read
  · rename_i rest skipped
    rcases Option.bind_eq_some_iff.1 read with ⟨⟨content, after⟩, content_read, read⟩
    rcases Option.bind_eq_some_iff.1 read with ⟨⟨set, refused⟩, named, read⟩
    cases read
    simp [skipSpacing_closed_of_cons skipped, undisturbed_readBraced? spacing content_read, named]
  · rename_i letter rest not_opened skipped
    rcases Option.bind_eq_some_iff.1 read with ⟨set, named, read⟩
    cases read
    simp [skipSpacing_closed_of_cons skipped, named]
  · cases read

theorem undisturbed_readWordEdge? (spacing : Bool) : Undisturbed (readWordEdge? spacing) := by
  intro text escape behind read
  rw [readWordEdge?.eq_def] at read
  split at read
  · rename_i rest
    split at read
    · cases read
    · rename_i character others skipped
      split_ifs at read with named
      · rcases Option.bind_eq_some_iff.1 read with ⟨⟨content, after⟩, content_read, read⟩
        rcases Option.bind_eq_some_iff.1 read with ⟨edge, known, read⟩
        cases read
        simp [readWordEdge?, skipSpacing_closed_of_cons skipped, named,
          undisturbed_readBraced? spacing content_read, known]
      · cases read
        simp [readWordEdge?, skipSpacing_closed_of_cons skipped, named]
  · rename_i not_opened
    cases read
    cases text with
    | nil => rfl
    | cons character rest =>
        have no_brace : character ≠ '\x7b' := by
          rintro rfl
          exact not_opened rest rfl
        simp [readWordEdge?, no_brace]

theorem undisturbed_read? (spacing : Bool) : Undisturbed (read? spacing) := by
  intro text escape behind read
  rw [read?.eq_def] at read
  split at read
  · cases read
  · exact undisturbed_readCode? spacing 2 read
  · exact undisturbed_readCode? spacing 4 read
  · exact undisturbed_readCode? spacing 8 read
  · exact undisturbed_readClass? spacing false read
  · exact undisturbed_readClass? spacing true read
  -- All other letters are escapes without anything behind them, but for the edges of words.
  all_goals
    first
    | exact undisturbed_readWordEdge? spacing read
    | cases read; rfl
    | skip
  split_ifs at read with itself
  cases read
  simp_all [read?]

end Escape

end ParserGraph.Pattern

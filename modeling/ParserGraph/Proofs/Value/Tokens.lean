import ParserGraph.Proofs.Value.Scalars

/-!
# Tokens of written values

The text of a value is split into the tokens of the value, one right behind the other,
whatever follows that could not belong to a number.
-/

namespace ParserGraph.Value

open Token

/-! ## Tokens of values -/

mutual

/-- The tokens of a value. -/
def tokens : Value → List Token
  | .array items => .openArray :: firstItemTokens items
  | .object fields => .openObject :: firstFieldTokens fields
  | .number amount => [.ofNumber amount]
  | value => [.scalar value]

/-- The tokens of items behind the start of their array, its end included. -/
def firstItemTokens : List Value → List Token
  | [] => [.closeArray]
  | item :: rest => tokens item ++ itemTokens rest

/-- The tokens of further items, each behind a comma, and of the end of their array. -/
def itemTokens : List Value → List Token
  | [] => [.closeArray]
  | item :: rest => .comma :: (tokens item ++ itemTokens rest)

/-- The tokens of fields behind the start of their object, its end included. -/
def firstFieldTokens : List (String × Value) → List Token
  | [] => [.closeObject]
  | (key, value) :: rest => .scalar (.text key) :: .colon :: (tokens value ++ fieldTokens rest)

/-- The tokens of further fields, each behind a comma, and of the end of their object. -/
def fieldTokens : List (String × Value) → List Token
  | [] => [.closeObject]
  | (key, value) :: rest =>
      .comma :: .scalar (.text key) :: .colon :: (tokens value ++ fieldTokens rest)

end

/-! ## Text split into tokens -/

/-- The characters start with the tokens, one right behind the other, and the rest follows. -/
inductive Splits : List Char → List Token → List Char → Prop where
  | nothing (rest : List Char) : Splits rest [] rest
  | token {characters behind rest : List Char} {token : Token} {tokens : List Token}
      (visible : ∀ character ∈ characters.head?, isSpace character = false)
      (read : Token.read? characters = some (token, behind))
      (shorter : behind.length < characters.length)
      (others : Splits behind tokens rest) :
      Splits characters (token :: tokens) rest

theorem Splits.append
    {characters behind rest : List Char}
    {tokens others : List Token}
    (first : Splits characters tokens behind)
    (second : Splits behind others rest) :
    Splits characters (tokens ++ others) rest := by
  induction first with
  | nothing => exact second
  | token visible read shorter _ hypothesis => exact .token visible read shorter (hypothesis second)

/-- The fuel is enough for all characters, as each token takes one at least. -/
theorem Splits.readAll?
    {characters : List Char}
    {tokens : List Token}
    (splits : Splits characters tokens [])
    {fuel : Nat}
    (enough : characters.length ≤ fuel) :
    Token.readAll? fuel characters = some tokens := by
  generalize atEnd : ([] : List Char) = rest at splits
  induction splits generalizing fuel with
  | nothing =>
      subst atEnd
      cases fuel <;> rfl
  | @token characters behind rest token tokens visible read shorter _ hypothesis =>
      cases characters with
      | nil => exact absurd shorter (Nat.not_lt_zero _)
      | cons first others =>
          cases fuel with
          | zero => exact absurd enough (by simp)
          | succ fuel =>
              have left : Token.readAll? fuel behind = some tokens :=
                hypothesis (by omega) atEnd
              rw [Token.readAll?, List.dropWhile_cons, visible first rfl]
              simp only [Bool.false_eq_true, if_false, read, Option.bind_eq_bind,
                Option.bind_some, left, Option.map_some]

/-- One token whose text is no space. -/
theorem splits_token
    (text : List Char)
    {rest : List Char}
    {token : Token}
    (visible : ∀ character ∈ text.head?, isSpace character = false)
    (some_text : text ≠ [])
    (read : Token.read? (text ++ rest) = some (token, rest)) :
    Splits (text ++ rest) [token] rest := by
  refine .token ?_ read ?_ (.nothing rest)
  · rw [List.head?_append_of_ne_nil _ some_text]
    exact visible
  · have longer := List.length_pos_iff.2 some_text
    rw [List.length_append]
    omega

/-- A digit is no space. -/
theorem isSpace_of_isDigit {character : Char} (isDigit : character.isDigit = true) :
    isSpace character = false := by
  simp only [isSpace, Bool.or_eq_false_iff, beq_eq_false_iff_ne]
  refine ⟨⟨⟨?_, ?_⟩, ?_⟩, ?_⟩ <;>
    · rintro rfl
      cases isDigit

theorem isSpace_head?_literal
    {literal : Decimal.Literal}
    (isWritten : literal.IsWritten) :
    ∀ character ∈ literal.characters.head?, isSpace character = false := by
  intro character leads
  have some_digit := isWritten.whole.some_digit
  cases negative : literal.negative with
  | true =>
      simp only [Decimal.Literal.characters, negative, if_true, List.cons_append] at leads
      cases leads
      rfl
  | false =>
      simp only [Decimal.Literal.characters, negative, Bool.false_eq_true, if_false,
        List.nil_append, List.head?_append_of_ne_nil _ some_digit] at leads
      have digit := isWritten.whole.digits character (List.mem_of_mem_head? leads)
      exact isSpace_of_isDigit (Decimal.isDigit_iff.2 digit)

theorem splits_number (number : Number) {rest : List Char} (ends : EndsNumber rest) :
    Splits (number.write.toList ++ rest) [.ofNumber number] rest := by
  rcases exists_literal_number number with ⟨literal, isWritten, written⟩
  refine splits_token _ ?_ ?_ (read?_write number ends)
  · rw [written]
    exact isSpace_head?_literal isWritten
  · rw [written, Decimal.Literal.characters]
    simp [isWritten.whole.some_digit]

theorem splits_text (content : String) (rest : List Char) :
    Splits ((writeText content).toList ++ rest) [.scalar (.text content)] rest := by
  refine splits_token _ ?_ ?_ (read?_writeText content rest)
  · intro character leads
    rw [writeText, String.toList_append, String.toList_append] at leads
    cases leads
    rfl
  · simp [writeText]

theorem splits_word
    (first : Char)
    (others : List Char)
    {token : Token}
    (visible : isSpace first = false)
    (rest : List Char)
    (read : Token.read? (first :: others ++ rest) = some (token, rest)) :
    Splits (first :: others ++ rest) [token] rest :=
  splits_token (first :: others) (by simpa using visible) (List.cons_ne_nil _ _) read

/-- A character that is a token of its own. -/
theorem splits_mark
    (mark : Char)
    {token : Token}
    (visible : isSpace mark = false)
    (rest : List Char)
    (read : Token.read? (mark :: rest) = some (token, rest)) :
    Splits (mark :: rest) [token] rest :=
  splits_word mark [] visible rest read

/-! ## Arrays and objects -/

/-- Entries behind the first one, each behind a comma. -/
def furtherEntries (entries : List String) : List Char :=
  entries.flatMap fun entry => ',' :: entry.toList

theorem toList_intercalate (first : String) (others : List String) :
    (String.intercalate "," (first :: others)).toList =
      first.toList ++ furtherEntries others := by
  induction others generalizing first with
  | nil => simp [furtherEntries]
  | cons second others hypothesis =>
      have behind := hypothesis second
      rw [String.toList_intercalate] at behind ⊢
      rw [List.map_cons, List.map_cons, List.intercalate_cons_cons]
      rw [List.map_cons] at behind
      rw [behind]
      simp [furtherEntries]

/-- Behind an entry there is a comma or the end of what holds it. -/
theorem endsNumber_furtherEntries
    (entries : List String)
    {rest : List Char}
    (ends : EndsNumber rest) :
    EndsNumber (furtherEntries entries ++ rest) := by
  cases entries with
  | nil => exact ends
  | cons entry entries => exact endsNumber_comma _

/-- The text of the value is split into its tokens, whatever follows that is not its own. -/
def SplitsInto (value : Value) : Prop :=
  ∀ rest, EndsNumber rest → Splits (value.compact.toList ++ rest) value.tokens rest

theorem splits_furtherItems
    {items : List Value}
    (all : ∀ item ∈ items, item.SplitsInto)
    (rest : List Char) :
    Splits (furtherEntries (compactItems items) ++ ']' :: rest) (itemTokens items) rest := by
  induction items with
  | nil => exact splits_mark _ rfl rest rfl
  | cons item items hypothesis =>
      have behind := hypothesis fun other member => all other (List.mem_cons_of_mem _ member)
      have first := all item List.mem_cons_self _
        (endsNumber_furtherEntries (compactItems items) (endsNumber_closeArray rest))
      have comma := fun rest => splits_mark ',' rfl rest rfl
      simp only [compactItems, furtherEntries, List.flatMap_cons, List.cons_append,
        List.append_assoc, itemTokens]
      exact (comma _).append (first.append behind)

theorem splitsInto_array {items : List Value} (all : ∀ item ∈ items, item.SplitsInto) :
    (array items).SplitsInto := by
  intro rest _
  have opening := fun rest => splits_mark '[' rfl rest rfl
  cases items with
  | nil => exact (opening (']' :: rest)).append (splits_mark _ rfl rest rfl)
  | cons item items =>
      have behind := splits_furtherItems
        (fun other member => all other (List.mem_cons_of_mem _ member)) rest
      have first := all item List.mem_cons_self _
        (endsNumber_furtherEntries (compactItems items) (endsNumber_closeArray rest))
      have written : (array (item :: items)).compact.toList ++ rest =
          '[' :: (item.compact.toList ++
            (furtherEntries (compactItems items) ++ ']' :: rest)) := by
        simp only [compact, compactItems, String.toList_append, toList_intercalate]
        simp
      rw [written]
      exact (opening _).append (first.append behind)

/-- The text of a field is split into its key, a colon and the tokens of its value. -/
theorem splits_field
    (key : String)
    {value : Value}
    (splits : value.SplitsInto)
    {rest : List Char}
    (ends : EndsNumber rest) :
    Splits ((writeText key ++ ":" ++ value.compact).toList ++ rest)
      (.scalar (.text key) :: .colon :: value.tokens) rest := by
  have colon := splits_mark ':' rfl (value.compact.toList ++ rest) rfl
  have named := splits_text key (':' :: (value.compact.toList ++ rest))
  simp only [String.toList_append, List.append_assoc]
  exact named.append (colon.append (splits rest ends))

theorem splits_furtherFields
    {fields : List (String × Value)}
    (all : ∀ field ∈ fields, field.2.SplitsInto)
    (rest : List Char) :
    Splits (furtherEntries (compactFields fields) ++ '\x7d' :: rest) (fieldTokens fields) rest := by
  induction fields with
  | nil => exact splits_mark _ rfl rest rfl
  | cons field fields hypothesis =>
      rcases field with ⟨key, value⟩
      have behind := hypothesis fun other member => all other (List.mem_cons_of_mem _ member)
      have first := splits_field key (all (key, value) List.mem_cons_self)
        (endsNumber_furtherEntries (compactFields fields) (endsNumber_closeObject rest))
      have comma := fun rest => splits_mark ',' rfl rest rfl
      simp only [compactFields, furtherEntries, List.flatMap_cons, List.cons_append,
        List.append_assoc, fieldTokens]
      exact (comma _).append (first.append behind)

theorem splitsInto_object
    {fields : List (String × Value)}
    (all : ∀ field ∈ fields, field.2.SplitsInto) :
    (object fields).SplitsInto := by
  intro rest _
  have opening := fun rest => splits_mark '\x7b' rfl rest rfl
  cases fields with
  | nil => exact (opening ('\x7d' :: rest)).append (splits_mark _ rfl rest rfl)
  | cons field fields =>
      rcases field with ⟨key, value⟩
      have behind := splits_furtherFields
        (fun other member => all other (List.mem_cons_of_mem _ member)) rest
      have first := splits_field key (all (key, value) List.mem_cons_self)
        (endsNumber_furtherEntries (compactFields fields) (endsNumber_closeObject rest))
      have written : (object ((key, value) :: fields)).compact.toList ++ rest =
          '\x7b' :: ((writeText key ++ ":" ++ value.compact).toList ++
            (furtherEntries (compactFields fields) ++ '\x7d' :: rest)) := by
        simp only [compact, compactFields, String.toList_append, toList_intercalate]
        simp
      rw [written]
      exact (opening _).append (first.append behind)

/-- The text of a value is split into its tokens. -/
theorem splitsInto (value : Value) : value.SplitsInto := by
  induction value with
  | null => exact fun rest _ => splits_word 'n' ['u', 'l', 'l'] rfl rest rfl
  | bool flag =>
      intro rest _
      cases flag with
      | true => exact splits_word 't' ['r', 'u', 'e'] rfl rest rfl
      | false => exact splits_word 'f' ['a', 'l', 's', 'e'] rfl rest rfl
  | number amount => exact fun _ ends => splits_number amount ends
  | text content => exact fun rest _ => splits_text content rest
  | array items hypothesis => exact splitsInto_array hypothesis
  | object fields hypothesis => exact splitsInto_object hypothesis

end ParserGraph.Value

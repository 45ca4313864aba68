import ParserGraph.Proofs.Value.Tokens
import ParserGraph.Value.Normal

/-!
# Written values read again

A value that is written and read again comes back with its texts, its keys and its integers
as they are, and with what its other numbers are read as.  It is refused if a number is, or
if too many arrays and objects are open at a time.  So a value comes back as it is exactly if
it is not too deep and each of its numbers comes back.
-/

namespace ParserGraph.Value

open Token

/-! ## Values as they are read again -/

mutual

/-- What the text of a value is read as, inside of so many open arrays and objects. -/
def reread? (depth : Nat) : Value → Option Value
  | .number amount => amount.reread?.map .number
  | .array items =>
      if depth < depthLimit then (rereadItems? (depth + 1) items).map .array else none
  | .object fields =>
      if depth < depthLimit then (rereadFields? (depth + 1) fields).map .object else none
  | value => some value

def rereadItems? (depth : Nat) : List Value → Option (List Value)
  | [] => some []
  | item :: rest =>
      (reread? depth item).bind fun read =>
        (rereadItems? depth rest).map fun others => read :: others

def rereadFields? (depth : Nat) : List (String × Value) → Option (List (String × Value))
  | [] => some []
  | (key, value) :: rest =>
      (reread? depth value).bind fun read =>
        (rereadFields? depth rest).map fun others => (key, read) :: others

end

/-! ## Tokens taken up -/

/-- The value that is complete, if there is one. -/
def Expected.complete? : Expected → Option Value
  | .separator complete => some complete
  | _ => none

/-- A step for each token, as long as no value is complete. -/
theorem takeFrom?_cons
    (expected : Expected)
    (incomplete : expected.complete? = none)
    (frames : List Frame)
    (token : Token)
    (rest : List Token) :
    takeFrom? false expected frames (token :: rest) =
      (advance? false frames expected token).bind fun next =>
        takeFrom? false next.1 next.2 rest := by
  rw [takeFrom?]
  · cases advance? false frames expected token <;> rfl
  · rintro value rfl _
    cases incomplete

/-- A step for each token behind a complete value, as long as an array or object is open. -/
theorem takeFrom?_separator
    (value : Value)
    (frame : Frame)
    (frames : List Frame)
    (token : Token)
    (rest : List Token) :
    takeFrom? false (.separator value) (frame :: frames) (token :: rest) =
      (resume? value (frame :: frames) token).bind fun next =>
        takeFrom? false next.1 next.2 rest := by
  rw [takeFrom?]
  · rw [advance?]
    cases resume? value (frame :: frames) token <;> rfl
  · nofun

/-- The tokens of the value are taken up as what its text is read as. -/
def IsTaken (value : Value) : Prop :=
  ∀ frames rest, takeFrom? false .value frames (value.tokens ++ rest) =
    (value.reread? frames.length).bind fun read => takeFrom? false (.separator read) frames rest

theorem isTaken_scalar
    {value : Value}
    (scalar : value.tokens = [.scalar value])
    (kept : ∀ depth, value.reread? depth = some value) :
    value.IsTaken := by
  intro frames rest
  rw [scalar, kept, List.singleton_append, takeFrom?_cons .value rfl]
  rfl

theorem isTaken_number (amount : Number) : (number amount).IsTaken := by
  intro frames rest
  rw [tokens, List.singleton_append, takeFrom?_cons .value rfl, reread?, ofNumber]
  cases amount.reread? <;> rfl

/-- The first token of a value does not end an array. -/
theorem takeFrom?_firstItem
    (value : Value)
    (frames : List Frame)
    (rest : List Token) :
    takeFrom? false .firstItem frames (value.tokens ++ rest) =
      takeFrom? false .value frames (value.tokens ++ rest) := by
  have startsAlike : ∀ token others, token ≠ .closeArray →
      takeFrom? false .firstItem frames (token :: others) =
        takeFrom? false .value frames (token :: others) := by
    intro token others starts
    rw [takeFrom?_cons .firstItem rfl, takeFrom?_cons .value rfl]
    cases token <;> first | rfl | exact absurd rfl starts
  cases value with
  | number amount =>
      refine startsAlike _ _ ?_
      unfold ofNumber
      cases amount.reread? <;> nofun
  | _ => exact startsAlike _ _ nofun

/-- Items behind a complete value are taken up one after the other, up to the end of the array. -/
theorem takeFrom?_items
    {items : List Value}
    (all : ∀ item ∈ items, item.IsTaken)
    (value : Value)
    (earlier : List Value)
    (frames : List Frame)
    (rest : List Token) :
    takeFrom? false (.separator value) (.array earlier :: frames) (itemTokens items ++ rest) =
      (rereadItems? (frames.length + 1) items).bind fun others =>
        takeFrom? false (.separator (.array (earlier.reverse ++ value :: others))) frames rest := by
  induction items generalizing value earlier with
  | nil =>
      rw [itemTokens, List.singleton_append, takeFrom?_separator]
      simp [resume?, rereadItems?]
  | cons item items hypothesis =>
      have first := all item List.mem_cons_self (.array (value :: earlier) :: frames)
        (itemTokens items ++ rest)
      have behind := hypothesis fun other member => all other (List.mem_cons_of_mem _ member)
      rw [itemTokens, List.cons_append, takeFrom?_separator,
        List.append_assoc]
      simp only [resume?, Option.bind_some, first, List.length_cons, rereadItems?]
      cases reread? (frames.length + 1) item with
      | none => rfl
      | some read =>
          rw [Option.bind_some, behind, Option.bind_some, Option.bind_map]
          simp

theorem isTaken_array {items : List Value} (all : ∀ item ∈ items, item.IsTaken) :
    (array items).IsTaken := by
  intro frames rest
  rw [tokens, List.cons_append, takeFrom?_cons .value rfl, reread?]
  by_cases fits : frames.length < depthLimit
  · have opened : advance? false frames .value .openArray =
        some (.firstItem, .array [] :: frames) := by
      simp [advance?, start?, fits]
    rw [opened, Option.bind_some, if_pos fits]
    cases items with
    | nil =>
        rw [firstItemTokens, List.singleton_append, takeFrom?_cons .firstItem rfl]
        rfl
    | cons item items =>
        have first := all item List.mem_cons_self (.array [] :: frames) (itemTokens items ++ rest)
        have behind := takeFrom?_items fun other member =>
          all other (List.mem_cons_of_mem _ member)
        rw [firstItemTokens, List.append_assoc, takeFrom?_firstItem, first, List.length_cons,
          rereadItems?]
        cases reread? (frames.length + 1) item with
        | none => rfl
        | some read =>
            rw [Option.bind_some, behind, Option.bind_some, Option.bind_map, Option.bind_map]
            rfl
  · have refused : advance? false frames .value .openArray = none := by
      simp [advance?, start?, fits]
    rw [refused, if_neg fits]
    rfl

/-- Behind a colon the tokens of a value are taken up as the value of its key. -/
theorem takeFrom?_field
    {value : Value}
    (taken : value.IsTaken)
    (fields : List (String × Value))
    (key : String)
    (frames : List Frame)
    (rest : List Token) :
    takeFrom? false (.colon fields key) frames (.colon :: (value.tokens ++ rest)) =
      (value.reread? (frames.length + 1)).bind fun read =>
        takeFrom? false (.separator read) (.object fields key :: frames) rest := by
  rw [takeFrom?_cons (.colon fields key) rfl]
  exact taken (.object fields key :: frames) rest

/-- Fields behind a complete one are taken up one after the other, up to the end of the object. -/
theorem takeFrom?_fields
    {fields : List (String × Value)}
    (all : ∀ field ∈ fields, field.2.IsTaken)
    (key : String)
    (value : Value)
    (earlier : List (String × Value))
    (frames : List Frame)
    (rest : List Token) :
    takeFrom? false (.separator value) (.object earlier key :: frames)
        (fieldTokens fields ++ rest) =
      (rereadFields? (frames.length + 1) fields).bind fun others =>
        takeFrom? false (.separator (.object (earlier.reverse ++ (key, value) :: others))) frames
          rest := by
  induction fields generalizing key value earlier with
  | nil =>
      rw [fieldTokens, List.singleton_append, takeFrom?_separator]
      simp [resume?, rereadFields?]
  | cons field fields hypothesis =>
      rcases field with ⟨name, part⟩
      have first := takeFrom?_field (all (name, part) List.mem_cons_self)
        ((key, value) :: earlier) name frames (fieldTokens fields ++ rest)
      have behind := hypothesis fun other member => all other (List.mem_cons_of_mem _ member)
      rw [fieldTokens, List.cons_append, takeFrom?_separator,
        List.cons_append, List.cons_append, List.append_assoc]
      simp only [resume?, Option.bind_some]
      rw [takeFrom?_cons (.key ((key, value) :: earlier)) rfl]
      simp only [advance?, key?, Option.map_some, Option.bind_some, first, rereadFields?]
      cases reread? (frames.length + 1) part with
      | none => rfl
      | some read =>
          rw [Option.bind_some, behind, Option.bind_some, Option.bind_map]
          simp

theorem isTaken_object
    {fields : List (String × Value)}
    (all : ∀ field ∈ fields, field.2.IsTaken) :
    (object fields).IsTaken := by
  intro frames rest
  rw [tokens, List.cons_append, takeFrom?_cons .value rfl, reread?]
  by_cases fits : frames.length < depthLimit
  · have opened : advance? false frames .value .openObject = some (.firstKey, frames) := by
      simp [advance?, start?, fits]
    rw [opened, Option.bind_some, if_pos fits]
    cases fields with
    | nil =>
        rw [firstFieldTokens, List.singleton_append, takeFrom?_cons .firstKey rfl]
        rfl
    | cons field fields =>
        rcases field with ⟨key, value⟩
        have first := takeFrom?_field (all (key, value) List.mem_cons_self) [] key frames
          (fieldTokens fields ++ rest)
        have behind := takeFrom?_fields fun other member =>
          all other (List.mem_cons_of_mem _ member)
        rw [firstFieldTokens, List.cons_append, List.cons_append, List.append_assoc,
          takeFrom?_cons .firstKey rfl]
        simp only [advance?, key?, Option.map_some, Option.bind_some, first, rereadFields?]
        cases reread? (frames.length + 1) value with
        | none => rfl
        | some read =>
            rw [Option.bind_some, behind, Option.bind_some, Option.bind_map, Option.bind_map]
            rfl
  · have refused : advance? false frames .value .openObject = none := by
      simp [advance?, start?, fits]
    rw [refused, if_neg fits]
    rfl

theorem isTaken (value : Value) : value.IsTaken := by
  induction value with
  | null | bool | text => exact isTaken_scalar rfl fun _ => rfl
  | number amount => exact isTaken_number amount
  | array items hypothesis => exact isTaken_array hypothesis
  | object fields hypothesis => exact isTaken_object hypothesis

/-! ## Texts read -/

/-- What the text of a value is read as is the value as it is read again. -/
theorem read?_compact (value : Value) : read? value.compact = value.reread? 0 := by
  have splits := value.splitsInto [] endsNumber_nil
  rw [List.append_nil] at splits
  have taken := value.isTaken [] []
  rw [List.append_nil] at taken
  rw [read?, readWith?, splits.readAll? (Nat.le_refl _)]
  simp only [Option.bind_eq_bind, Option.bind_some, take?, taken, List.length_nil]
  cases value.reread? 0 with
  | none => rfl
  | some read => simp [takeFrom?]

/-! ## Values that come back -/

mutual

/-- The most arrays and objects of the value that are inside of one another. -/
def height : Value → Nat
  | .array items => heightOfItems items + 1
  | .object fields => heightOfFields fields + 1
  | _ => 0

def heightOfItems : List Value → Nat
  | [] => 0
  | item :: rest => max (height item) (heightOfItems rest)

def heightOfFields : List (String × Value) → Nat
  | [] => 0
  | (_, value) :: rest => max (height value) (heightOfFields rest)

end

mutual

/-- All numbers in the value. -/
def numbers : Value → List Number
  | .number amount => [amount]
  | .array items => numbersOfItems items
  | .object fields => numbersOfFields fields
  | _ => []

def numbersOfItems : List Value → List Number
  | [] => []
  | item :: rest => numbers item ++ numbersOfItems rest

def numbersOfFields : List (String × Value) → List Number
  | [] => []
  | (_, value) :: rest => numbers value ++ numbersOfFields rest

end

/-- Inside of so many arrays and objects the value is read as it is. -/
def ComesBack (depth : Nat) (value : Value) : Prop :=
  value.reread? depth = some value

theorem rereadItems?_eq_self_iff {depth : Nat} {items : List Value} :
    rereadItems? depth items = some items ↔ ∀ item ∈ items, item.ComesBack depth := by
  induction items with
  | nil => simp [rereadItems?]
  | cons item items hypothesis =>
      rw [rereadItems?, List.forall_mem_cons, ← hypothesis, ComesBack]
      cases reread? depth item <;> cases rereadItems? depth items <;> simp

theorem rereadFields?_eq_self_iff {depth : Nat} {fields : List (String × Value)} :
    rereadFields? depth fields = some fields ↔ ∀ field ∈ fields, field.2.ComesBack depth := by
  induction fields with
  | nil => simp [rereadFields?]
  | cons field fields hypothesis =>
      rcases field with ⟨key, value⟩
      rw [rereadFields?, List.forall_mem_cons, ← hypothesis, ComesBack]
      cases reread? depth value <;> cases rereadFields? depth fields <;> simp

theorem comesBack_array_iff {depth : Nat} {items : List Value} :
    (array items).ComesBack depth ↔
      depth < depthLimit ∧ ∀ item ∈ items, item.ComesBack (depth + 1) := by
  rw [← rereadItems?_eq_self_iff, ComesBack, reread?]
  split_ifs with fits <;> simp [fits]

theorem comesBack_object_iff {depth : Nat} {fields : List (String × Value)} :
    (object fields).ComesBack depth ↔
      depth < depthLimit ∧ ∀ field ∈ fields, field.2.ComesBack (depth + 1) := by
  rw [← rereadFields?_eq_self_iff, ComesBack, reread?]
  split_ifs with fits <;> simp [fits]

theorem heightOfFields_eq (fields : List (String × Value)) :
    heightOfFields fields = heightOfItems (fields.map Prod.snd) := by
  induction fields with
  | nil => rfl
  | cons field fields hypothesis =>
      rw [heightOfFields, List.map_cons, heightOfItems, hypothesis]

theorem numbersOfFields_eq (fields : List (String × Value)) :
    numbersOfFields fields = numbersOfItems (fields.map Prod.snd) := by
  induction fields with
  | nil => rfl
  | cons field fields hypothesis =>
      rw [numbersOfFields, List.map_cons, numbersOfItems, hypothesis]

/-- The value is not too deep, and all its numbers come back. -/
def IsExact (depth : Nat) (value : Value) : Prop :=
  depth + value.height ≤ depthLimit ∧
    ∀ number ∈ value.numbers, number.reread? = some number

theorem forall_mem_isExact_iff
    {depth : Nat}
    (fits : depth ≤ depthLimit)
    {items : List Value} :
    (∀ item ∈ items, item.IsExact depth) ↔
      depth + heightOfItems items ≤ depthLimit ∧
        ∀ number ∈ numbersOfItems items, number.reread? = some number := by
  induction items with
  | nil => simp [heightOfItems, numbersOfItems, fits]
  | cons item items hypothesis =>
      have highest : depth + max item.height (heightOfItems items) ≤ depthLimit ↔
          depth + item.height ≤ depthLimit ∧ depth + heightOfItems items ≤ depthLimit := by
        omega
      rw [List.forall_mem_cons, hypothesis, IsExact, heightOfItems, numbersOfItems, highest,
        List.forall_mem_append]
      exact and_and_and_comm

/-- One array or object more is open around what is inside. -/
theorem forall_mem_isExact_inside_iff {depth : Nat} {items : List Value} :
    (depth < depthLimit ∧ ∀ item ∈ items, item.IsExact (depth + 1)) ↔
      depth + (heightOfItems items + 1) ≤ depthLimit ∧
        ∀ number ∈ numbersOfItems items, number.reread? = some number := by
  have deeper : depth + (heightOfItems items + 1) = depth + 1 + heightOfItems items := by omega
  rw [deeper]
  constructor
  · rintro ⟨inside, all⟩
    exact (forall_mem_isExact_iff inside).1 all
  · intro exact_
    have inside : depth + 1 ≤ depthLimit := by omega
    exact ⟨inside, (forall_mem_isExact_iff inside).2 exact_⟩

/-- A value comes back exactly if it is not too deep and all its numbers come back. -/
theorem comesBack_iff
    {depth : Nat}
    (fits : depth ≤ depthLimit)
    (value : Value) :
    value.ComesBack depth ↔ value.IsExact depth := by
  induction value generalizing depth with
  | null | bool | text => simp [ComesBack, reread?, IsExact, height, numbers, fits]
  | number amount => simp [ComesBack, reread?, IsExact, height, numbers, fits]
  | array items hypothesis =>
      rw [comesBack_array_iff, IsExact, height, numbers, ← forall_mem_isExact_inside_iff]
      exact and_congr_right fun inside =>
        forall₂_congr fun item member => hypothesis item member inside
  | object fields hypothesis =>
      rw [comesBack_object_iff, IsExact, height, numbers, heightOfFields_eq, numbersOfFields_eq,
        ← forall_mem_isExact_inside_iff, List.forall_mem_map]
      exact and_congr_right fun inside =>
        forall₂_congr fun field member => hypothesis field member inside

/--
The text of a value is read as the value exactly if the value is not too deep and all its
numbers come back, as integers always do.
-/
theorem read?_compact_eq_some_iff (value : Value) :
    read? value.compact = some value ↔
      value.height ≤ depthLimit ∧ ∀ number ∈ value.numbers, number.reread? = some number := by
  have back := comesBack_iff (Nat.zero_le depthLimit) value
  rwa [ComesBack, IsExact, Nat.zero_add, ← read?_compact] at back

-- The double 1e-23 is read as the double behind it.
example :
    Number.reread? (.float { negative := false, rank := 4262707295203537489 }) =
      some (.float { negative := false, rank := 4262707295203537490 }) := by
  decide +kernel

/-! ## Normal values -/

theorem exists_of_mem_rereadItems?
    {depth : Nat}
    {items others : List Value}
    (read : rereadItems? depth items = some others) :
    ∀ other ∈ others, ∃ item ∈ items, item.reread? depth = some other := by
  induction items generalizing others with
  | nil =>
      cases read
      nofun
  | cons item items hypothesis =>
      rcases Option.bind_eq_some_iff.1 read with ⟨first, firstRead, read⟩
      rcases Option.map_eq_some_iff.1 read with ⟨behind, itemsRead, rfl⟩
      intro other member
      rcases List.mem_cons.1 member with rfl | member
      · exact ⟨item, List.mem_cons_self, firstRead⟩
      · rcases hypothesis itemsRead other member with ⟨source, sourceMember, sourceRead⟩
        exact ⟨source, List.mem_cons_of_mem _ sourceMember, sourceRead⟩

/-- Fields are read under the keys that they have. -/
theorem rereadFields?_fields
    {depth : Nat}
    {fields others : List (String × Value)}
    (read : rereadFields? depth fields = some others) :
    others.map Prod.fst = fields.map Prod.fst ∧
      rereadItems? depth (fields.map Prod.snd) = some (others.map Prod.snd) := by
  induction fields generalizing others with
  | nil =>
      cases read
      exact ⟨rfl, rfl⟩
  | cons field fields hypothesis =>
      rcases field with ⟨key, value⟩
      rcases Option.bind_eq_some_iff.1 read with ⟨first, firstRead, read⟩
      rcases Option.map_eq_some_iff.1 read with ⟨behind, fieldsRead, rfl⟩
      rcases hypothesis fieldsRead with ⟨keys, values⟩
      refine ⟨congrArg (key :: ·) keys, ?_⟩
      rw [List.map_cons, rereadItems?, firstRead, Option.bind_some, values]
      rfl

/-- What a normal value is read as is normal. -/
theorem IsNormal.reread
    {value read : Value}
    (normal : value.IsNormal)
    {depth : Nat}
    (isRead : value.reread? depth = some read) :
    read.IsNormal := by
  induction value generalizing depth read with
  | null | bool | text =>
      cases isRead
      exact normal
  | number amount =>
      rcases Option.map_eq_some_iff.1 isRead with ⟨other, _, rfl⟩
      rfl
  | array items hypothesis =>
      rw [reread?] at isRead
      split_ifs at isRead
      rcases Option.map_eq_some_iff.1 isRead with ⟨others, itemsRead, rfl⟩
      have itemsNormal := isNormal_array_iff.1 normal
      refine isNormal_array_iff.2 fun other member => ?_
      rcases exists_of_mem_rereadItems? itemsRead other member with ⟨item, itemMember, itemRead⟩
      exact hypothesis item itemMember (itemsNormal item itemMember) itemRead
  | object fields hypothesis =>
      rw [reread?] at isRead
      split_ifs at isRead
      rcases Option.map_eq_some_iff.1 isRead with ⟨others, fieldsRead, rfl⟩
      rcases isNormal_object_iff.1 normal with ⟨increase, fieldsNormal⟩
      rcases rereadFields?_fields fieldsRead with ⟨keys, values⟩
      refine isNormal_object_iff.2 ⟨?_, fun other member => ?_⟩
      · rw [KeysIncrease, ← List.pairwise_map (f := Prod.fst), keys]
        exact List.pairwise_map.2 increase
      · rcases exists_of_mem_rereadItems? values other.2 (List.mem_map_of_mem member) with
          ⟨value, valueMember, valueRead⟩
        rcases List.mem_map.1 valueMember with ⟨field, fieldMember, rfl⟩
        exact hypothesis field fieldMember (fieldsNormal field fieldMember) valueRead

end ParserGraph.Value

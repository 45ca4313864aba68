import ParserGraph.Proofs.Sameness
import ParserGraph.Transform

/-!
# The sign of a zero

Values that the program takes as equal may still be different: they differ in the signs
of zeros and in nothing else.  The texts that such values are written as part at the
first of these zeros, where one of them goes on with the digit and the other one with the
sign.  So do the texts that they are joined to.  Values that are the same and written
alike are therefore equal.
-/

namespace ParserGraph

namespace Text

/-- Where two texts part, one goes on with the digit of a zero and the other with its sign. -/
inductive PartAtSign : String → String → Prop where
  | digit (back other : String) : PartAtSign ("0" ++ back) ("-" ++ other)
  | sign (back other : String) : PartAtSign ("-" ++ back) ("0" ++ other)
  | further (front : String) {first second : String} (parts : PartAtSign first second) :
      PartAtSign (front ++ first) (front ++ second)

namespace PartAtSign

variable {first second : String}

theorem ne (parts : PartAtSign first second) : first ≠ second := by
  induction parts with
  | digit back other =>
      intro equal
      simpa using congrArg String.toList equal
  | sign back other =>
      intro equal
      simpa using congrArg String.toList equal
  | further front _ hypothesis =>
      intro equal
      exact hypothesis ((String.append_right_inj front).1 equal)

/-- Whatever follows, the texts have parted. -/
theorem followed (parts : PartAtSign first second) (later following : String) :
    PartAtSign (first ++ later) (second ++ following) := by
  induction parts with
  | digit back other =>
      rw [String.append_assoc, String.append_assoc]
      exact digit _ _
  | sign back other =>
      rw [String.append_assoc, String.append_assoc]
      exact sign _ _
  | further front _ hypothesis =>
      rw [String.append_assoc, String.append_assoc]
      exact further front hypothesis

end PartAtSign

/-- Of two lists of texts, the first texts that are different part at a sign. -/
inductive DivergeAtSign : List String → List String → Prop where
  | here {first second : String} (parts : PartAtSign first second) (rest others : List String) :
      DivergeAtSign (first :: rest) (second :: others)
  | further (text : String) {texts others : List String} (later : DivergeAtSign texts others) :
      DivergeAtSign (text :: texts) (text :: others)

/-- The first of some texts between separators comes first. -/
theorem exists_intercalate_cons (separator text : String) (rest : List String) :
    ∃ later, String.intercalate separator (text :: rest) = text ++ later := by
  cases rest with
  | nil => exact ⟨"", by simp⟩
  | cons next rest =>
      exact ⟨_, by rw [String.intercalate_cons_cons, String.append_assoc]⟩

theorem DivergeAtSign.intercalate
    {texts others : List String}
    (diverge : DivergeAtSign texts others)
    (separator : String) :
    PartAtSign (String.intercalate separator texts) (String.intercalate separator others) := by
  induction diverge with
  | here parts rest others =>
      rcases exists_intercalate_cons separator _ rest with ⟨later, first⟩
      rcases exists_intercalate_cons separator _ others with ⟨following, second⟩
      rw [first, second]
      exact parts.followed later following
  | further text later hypothesis =>
      -- Something is left of both lists, so a separator stands behind the text.
      cases later with
      | here =>
          rw [String.intercalate_cons_cons, String.intercalate_cons_cons]
          exact hypothesis.further _
      | further =>
          rw [String.intercalate_cons_cons, String.intercalate_cons_cons]
          exact hypothesis.further _

end Text

open Text

/-- Numbers that are the same are equal, or they are zeros with different signs. -/
theorem Number.eq_or_partAtSign
    {first second : Number}
    (alike : first.same second = true) :
    first = second ∨ PartAtSign first.write second.write := by
  cases first with
  | integer value _ =>
      cases second with
      | integer other _ =>
          have equal : value = other := by simpa [same] using alike
          subst equal
          exact Or.inl rfl
      | float other => simp [same] at alike
  | float value =>
      cases second with
      | integer other _ => simp [same] at alike
      | float other =>
          rcases value with ⟨negative, rank, finite⟩
          rcases other with ⟨otherNegative, otherRank, otherFinite⟩
          simp only [same, Decimal.Binary64.sameNumber, Bool.and_eq_true, Bool.or_eq_true,
            beq_iff_eq] at alike
          rcases alike with ⟨rfl, zero | rfl⟩
          · subst zero
            cases negative <;> cases otherNegative
            · exact Or.inl rfl
            · exact Or.inr (PartAtSign.digit ".0" "0.0")
            · exact Or.inr (PartAtSign.sign "0.0" ".0")
            · exact Or.inl rfl
          · exact Or.inl rfl

namespace Value

/-- What stands between the quotation marks of a text that is written. -/
def escaped (content : String) : String :=
  String.join (content.toList.map writeCharacter)

theorem escaped_append (front back : String) :
    escaped (front ++ back) = escaped front ++ escaped back := by
  simp [escaped]

/-- Neither a digit nor a minus sign is escaped. -/
theorem partAtSign_escaped {first second : String} (parts : PartAtSign first second) :
    PartAtSign (escaped first) (escaped second) := by
  have zero : escaped "0" = "0" := rfl
  have minus : escaped "-" = "-" := rfl
  induction parts with
  | digit back other =>
      rw [escaped_append, escaped_append, zero, minus]
      exact PartAtSign.digit _ _
  | sign back other =>
      rw [escaped_append, escaped_append, zero, minus]
      exact PartAtSign.sign _ _
  | further front _ hypothesis =>
      rw [escaped_append, escaped_append]
      exact hypothesis.further _

theorem partAtSign_writeText {first second : String} (parts : PartAtSign first second) :
    PartAtSign (writeText first) (writeText second) :=
  ((partAtSign_escaped parts).further "\"").followed "\"" "\""

mutual

/-- Values that are the same are equal, or written texts that part at a sign. -/
theorem eq_or_partAtSign_compact : (first second : Value) → first.same second = true →
    first = second ∨ PartAtSign first.compact second.compact
  | .null, second, alike => by
      cases second <;> simp [same] at alike
      exact Or.inl rfl
  | .bool flag, second, alike => by
      cases second <;> simp [same] at alike
      exact Or.inl (congrArg Value.bool alike)
  | .text content, second, alike => by
      cases second <;> simp [same] at alike
      exact Or.inl (congrArg Value.text alike)
  | .number content, second, alike => by
      cases second with
      | number other =>
          rcases Number.eq_or_partAtSign alike with equal | parts
          · exact Or.inl (congrArg Value.number equal)
          · exact Or.inr parts
      | _ => simp [same] at alike
  | .array items, second, alike => by
      cases second with
      | array others =>
          rcases eq_or_diverge_compactItems items others alike with equal | diverge
          · exact Or.inl (congrArg Value.array equal)
          · exact Or.inr (((diverge.intercalate ",").further "[").followed "]" "]")
      | _ => simp [same] at alike
  | .object fields, second, alike => by
      cases second with
      | object others =>
          rcases eq_or_diverge_compactFields fields others alike with equal | diverge
          · exact Or.inl (congrArg Value.object equal)
          · exact Or.inr (((diverge.intercalate ",").further "\x7b").followed "\x7d" "\x7d")
      | _ => simp [same] at alike

theorem eq_or_diverge_compactItems : (items others : List Value) →
    sameItems items others = true →
      items = others ∨ DivergeAtSign (compactItems items) (compactItems others)
  | [], [], _ => Or.inl rfl
  | [], _ :: _, alike => by simp [sameItems] at alike
  | _ :: _, [], alike => by simp [sameItems] at alike
  | first :: rest, second :: others, alike => by
      simp only [sameItems, Bool.and_eq_true] at alike
      rcases eq_or_partAtSign_compact first second alike.1 with rfl | parts
      · rcases eq_or_diverge_compactItems rest others alike.2 with rfl | diverge
        · exact Or.inl rfl
        · exact Or.inr (diverge.further first.compact)
      · exact Or.inr (.here parts _ _)

theorem eq_or_diverge_compactFields : (fields others : List (String × Value)) →
    sameFields fields others = true →
      fields = others ∨ DivergeAtSign (compactFields fields) (compactFields others)
  | [], [], _ => Or.inl rfl
  | [], _ :: _, alike => by simp [sameFields] at alike
  | _ :: _, [], alike => by simp [sameFields] at alike
  | (key, first) :: rest, (otherKey, second) :: others, alike => by
      simp only [sameFields, Bool.and_eq_true, beq_iff_eq] at alike
      rcases alike with ⟨⟨rfl, first_alike⟩, rest_alike⟩
      rcases eq_or_partAtSign_compact first second first_alike with rfl | parts
      · rcases eq_or_diverge_compactFields rest others rest_alike with rfl | diverge
        · exact Or.inl rfl
        · exact Or.inr (diverge.further _)
      · exact Or.inr (.here (parts.further (writeText key ++ ":")) _ _)

end

end Value

namespace Conversion

mutual

/-- Values that are the same are equal, or joined to texts that part at a sign. -/
theorem eq_or_partAtSign_joined : (first second : Value) → first.same second = true →
    first = second ∨ PartAtSign (joined first) (joined second)
  | .array items, second, alike => by
      cases second with
      | array others =>
          rcases eq_or_partAtSign_joinedItems items others alike with equal | parts
          · exact Or.inl (congrArg Value.array equal)
          · exact Or.inr parts
      | _ => simp [Value.same] at alike
  | .null, second, alike => by
      cases second <;> simp [Value.same] at alike
      exact Or.inl rfl
  | .text content, second, alike => by
      cases second <;> simp [Value.same] at alike
      exact Or.inl (congrArg Value.text alike)
  | .bool flag, second, alike => by
      cases second <;> simp [Value.same] at alike
      exact Or.inl (congrArg Value.bool alike)
  | .number content, second, alike => by
      cases second with
      | number other => exact Value.eq_or_partAtSign_compact _ _ alike
      | _ => simp [Value.same] at alike
  | .object fields, second, alike => by
      cases second with
      | object others => exact Value.eq_or_partAtSign_compact _ _ alike
      | _ => simp [Value.same] at alike

theorem eq_or_partAtSign_joinedItems : (items others : List Value) →
    Value.sameItems items others = true →
      items = others ∨ PartAtSign (joinedItems items) (joinedItems others)
  | [], [], _ => Or.inl rfl
  | [], _ :: _, alike => by simp [Value.sameItems] at alike
  | _ :: _, [], alike => by simp [Value.sameItems] at alike
  | first :: rest, second :: others, alike => by
      simp only [Value.sameItems, Bool.and_eq_true] at alike
      rcases eq_or_partAtSign_joined first second alike.1 with rfl | parts
      · rcases eq_or_partAtSign_joinedItems rest others alike.2 with rfl | parts
        · exact Or.inl rfl
        · exact Or.inr (parts.further (joined first))
      · exact Or.inr (parts.followed _ _)

end

/-- No builtin conversion hides a difference between values that are the same. -/
theorem eq_or_partAtSign_apply
    {conversion : Conversion}
    (builtin : conversion ∈ builtins)
    {first second : Value}
    (alike : first.same second = true) :
    first = second ∨
      PartAtSign (conversion.apply first).compact (conversion.apply second).compact := by
  have written := Value.eq_or_partAtSign_compact first second alike
  simp only [builtins, List.mem_cons, List.not_mem_nil, or_false] at builtin
  rcases builtin with rfl | rfl | rfl
  · -- Only a text is changed, and what is the same as a text is that text.
    cases first with
    | text content =>
        cases second <;> simp [Value.same] at alike
        exact Or.inl (congrArg Value.text alike)
    | _ => cases second <;> first | (simp [Value.same] at alike; done) | exact written
  · rcases eq_or_partAtSign_joined first second alike with equal | parts
    · exact Or.inl equal
    · exact Or.inr (Value.partAtSign_writeText parts)
  · cases first with
    | text content =>
        cases second <;> simp [Value.same] at alike
        exact Or.inl (congrArg Value.text alike)
    | _ => cases second <;> first | (simp [Value.same] at alike; done) | exact written

end Conversion

end ParserGraph

import ParserGraph.Text.Position

/-!
# Slices of text

Text can be cut at an offset only between two of its characters, or at its start or
end.  A slice is therefore optional: there is none where the offset lies beyond the end
or inside a character.
-/

namespace ParserGraph.Text

theorem charactersWithin_prefix (characters : List Char) (bytes : Nat) :
    charactersWithin characters bytes <+: characters := by
  induction characters generalizing bytes with
  | nil => exact List.prefix_refl _
  | cons character rest hypothesis =>
      rw [charactersWithin]
      split
      · exact List.cons_prefix_cons.2 ⟨rfl, hypothesis _⟩
      · exact List.nil_prefix

/-- Text can be taken apart at the boundaries between its characters, and nowhere else. -/
theorem isBoundary_iff {characters : List Char} {offset : Nat} :
    IsBoundary characters offset ↔
      ∃ front back, front ++ back = characters ∧ byteLength front = offset := by
  constructor
  · intro boundary
    rcases charactersWithin_prefix characters offset with ⟨back, whole⟩
    exact ⟨_, back, whole, boundary⟩
  · rintro ⟨front, back, rfl, rfl⟩
    rw [IsBoundary, charactersWithin_append]

theorem IsBoundary.le {characters : List Char} {offset : Nat}
    (boundary : IsBoundary characters offset) : offset ≤ byteLength characters := by
  rcases isBoundary_iff.1 boundary with ⟨front, back, rfl, rfl⟩
  simp

theorem isBoundary_zero (characters : List Char) : IsBoundary characters 0 :=
  isBoundary_iff.2 ⟨[], characters, rfl, rfl⟩

theorem charactersWithin_append_add (front back : List Char) (offset : Nat) :
    charactersWithin (front ++ back) (byteLength front + offset) =
      front ++ charactersWithin back offset := by
  induction front with
  | nil => simp
  | cons character rest hypothesis =>
      have left : byteLength (character :: rest) + offset - character.utf8Size =
          byteLength rest + offset := by
        rw [byteLength_cons]
        omega
      have within : character.utf8Size ≤ byteLength (character :: rest) + offset := by
        rw [byteLength_cons]
        omega
      rw [List.cons_append, charactersWithin, if_pos within, left, hypothesis, List.cons_append]

/-- The boundaries behind a front are those of what follows the front. -/
theorem isBoundary_append_add {front back : List Char} {offset : Nat} :
    IsBoundary (front ++ back) (byteLength front + offset) ↔ IsBoundary back offset := by
  rw [IsBoundary, IsBoundary, charactersWithin_append_add, byteLength_append,
    Nat.add_left_cancel_iff]

/-- Text is taken apart at an offset in one way only. -/
theorem append_inj_of_byteLength {front back upper lower : List Char}
    (whole : front ++ back = upper ++ lower)
    (level : byteLength front = byteLength upper) :
    front = upper ∧ back = lower := by
  have fronts : front = upper := by
    rw [← charactersWithin_append front back, whole, level, charactersWithin_append]
  subst fronts
  exact ⟨rfl, List.append_cancel_left whole⟩

/-- The text from an offset on. -/
def sliceFrom? (characters : List Char) (offset : Nat) : Option (List Char) :=
  if IsBoundary characters offset then
    some (characters.drop (charactersWithin characters offset).length)
  else
    none

/-- The text from one offset to another. -/
def slice? (characters : List Char) (first last : Nat) : Option (List Char) :=
  if first ≤ last ∧ IsBoundary characters last then
    sliceFrom? (charactersWithin characters last) first
  else
    none

@[simp]
theorem sliceFrom?_append (front back : List Char) :
    sliceFrom? (front ++ back) (byteLength front) = some back := by
  have boundary : IsBoundary (front ++ back) (byteLength front) :=
    isBoundary_iff.2 ⟨front, back, rfl, rfl⟩
  rw [sliceFrom?, if_pos boundary, charactersWithin_append, List.drop_left]

/-- From an offset behind a front on, there is what follows the front. -/
theorem sliceFrom?_append_add (front back : List Char) (offset : Nat) :
    sliceFrom? (front ++ back) (byteLength front + offset) = sliceFrom? back offset := by
  simp only [sliceFrom?, isBoundary_append_add, charactersWithin_append_add, List.length_append,
    List.drop_length_add_append]

theorem slice?_append (front middle back : List Char) :
    slice? (front ++ (middle ++ back)) (byteLength front) (byteLength (front ++ middle)) =
      some middle := by
  have boundary : IsBoundary (front ++ (middle ++ back)) (byteLength (front ++ middle)) :=
    isBoundary_iff.2 ⟨front ++ middle, back, List.append_assoc _ _ _, rfl⟩
  have ordered : byteLength front ≤ byteLength (front ++ middle) := by simp
  rw [slice?, if_pos ⟨ordered, boundary⟩, ← List.append_assoc, charactersWithin_append,
    sliceFrom?_append]

/-- At two boundaries text is taken apart into three pieces. -/
theorem exists_append_of_isBoundary {characters : List Char} {first last : Nat}
    (ordered : first ≤ last)
    (starts : IsBoundary characters first)
    (stops : IsBoundary characters last) :
    ∃ front middle back, front ++ (middle ++ back) = characters ∧
      byteLength front = first ∧ byteLength (front ++ middle) = last := by
  rcases isBoundary_iff.1 starts with ⟨front, back, whole, rfl⟩
  rcases isBoundary_iff.1 stops with ⟨upper, lower, rfl, rfl⟩
  -- One of the two fronts starts with the other, and the offsets say which.
  rcases List.append_eq_append_iff.1 whole with ⟨middle, rfl, _⟩ | ⟨beyond, rfl, _⟩
  · exact ⟨front, middle, lower, (List.append_assoc _ _ _).symm, rfl, rfl⟩
  · have empty : beyond = [] := by
      rw [byteLength_append] at ordered
      have short := length_le_byteLength beyond
      exact List.length_eq_zero_iff.1 (by omega)
    subst empty
    exact ⟨upper, [], lower, rfl, by simp, by simp⟩

/-- Between two boundaries there is a slice. -/
theorem exists_slice?_eq_some {characters : List Char} {first last : Nat}
    (ordered : first ≤ last)
    (starts : IsBoundary characters first)
    (stops : IsBoundary characters last) :
    ∃ middle, slice? characters first last = some middle := by
  rcases exists_append_of_isBoundary ordered starts stops with ⟨front, middle, back, rfl, rfl, rfl⟩
  exact ⟨middle, slice?_append front middle back⟩

-- The second byte of a character of two bytes is no place to cut.
example : sliceFrom? ['n', 'é'] 1 = some ['é'] ∧ sliceFrom? ['n', 'é'] 2 = none := by decide

end ParserGraph.Text

/-!
# Lengths in bytes

Offsets into an input count the bytes of its UTF-8 form.  A list of characters
is measured by the sum of the bytes that its characters take.
-/

namespace ParserGraph.Text

/-- The number of bytes that the UTF-8 form of the characters takes. -/
def byteLength : List Char → Nat
  | [] => 0
  | character :: rest => character.utf8Size + byteLength rest

@[simp]
theorem byteLength_nil : byteLength [] = 0 := rfl

@[simp]
theorem byteLength_cons (character : Char) (rest : List Char) :
    byteLength (character :: rest) = character.utf8Size + byteLength rest := rfl

@[simp]
theorem byteLength_append (front back : List Char) :
    byteLength (front ++ back) = byteLength front + byteLength back := by
  induction front with
  | nil => simp
  | cons character rest hypothesis => simp [hypothesis, Nat.add_assoc]

/-- Every character takes a byte at least, so text has no more characters than bytes. -/
theorem length_le_byteLength (characters : List Char) :
    characters.length ≤ byteLength characters := by
  induction characters with
  | nil => simp
  | cons character rest hypothesis =>
      have positive := Char.utf8Size_pos character
      simp only [List.length_cons, byteLength_cons]
      omega

/-- The characters that end within a number of bytes. -/
def charactersWithin : List Char → Nat → List Char
  | [], _ => []
  | character :: rest, bytes =>
      if character.utf8Size ≤ bytes then
        character :: charactersWithin rest (bytes - character.utf8Size)
      else
        []

/-- Characters in front of others end within their own length. -/
@[simp]
theorem charactersWithin_append (front back : List Char) :
    charactersWithin (front ++ back) (byteLength front) = front := by
  induction front with
  | nil =>
      cases back with
      | nil => rfl
      | cons character rest =>
          have positive := Char.utf8Size_pos character
          simp only [List.nil_append, byteLength_nil, charactersWithin]
          rw [if_neg (by omega)]
  | cons character rest hypothesis =>
      simp [charactersWithin, hypothesis]

/-- The offset lies between two characters, or at the start or end of the text. -/
def IsBoundary (characters : List Char) (offset : Nat) : Prop :=
  byteLength (charactersWithin characters offset) = offset

instance (characters : List Char) (offset : Nat) :
    Decidable (IsBoundary characters offset) :=
  inferInstanceAs (Decidable (_ = _))

end ParserGraph.Text

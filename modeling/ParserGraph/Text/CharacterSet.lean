import ParserGraph.Text.Runs

/-!
# Character sets

A set of characters is the list of its ranges of code points, which are kept in
increasing order and with a gap between one range and the next.  A range may go across
the surrogates, which are no characters; ranges that end and start beside them stay two.
-/

namespace ParserGraph.Text

def nextCode (code : Nat) : Nat :=
  if code = 0xD7FF then 0xE000 else code + 1

/-- The code point of the character in front. -/
def previousCode (code : Nat) : Nat :=
  if code = 0xE000 then 0xD7FF else code - 1

def lastCode : Nat := 0x10FFFF

/-! ## Ranges -/

/-- Ranges in increasing order, each with a character in it, and with a gap behind each one. -/
def AreApart (ranges : List (Nat × Nat)) : Prop :=
  (∀ range ∈ ranges, range.1 ≤ range.2) ∧
    ranges.Pairwise fun range later => range.2 + 1 < later.1

instance (ranges : List (Nat × Nat)) : Decidable (AreApart ranges) :=
  inferInstanceAs (Decidable (_ ∧ _))

theorem areApart_nil : AreApart [] :=
  ⟨by simp, .nil⟩

theorem areApart_cons {first last : Nat} {rest : List (Nat × Nat)} :
    AreApart ((first, last) :: rest) ↔
      first ≤ last ∧ (∀ later ∈ rest, last + 1 < later.1) ∧ AreApart rest := by
  simp only [AreApart, List.forall_mem_cons, List.pairwise_cons]
  constructor
  · rintro ⟨⟨between, filled⟩, behind, apart⟩
    exact ⟨between, behind, filled, apart⟩
  · rintro ⟨between, behind, filled, apart⟩
    exact ⟨⟨between, filled⟩, behind, apart⟩

/-- A range put among ranges that are apart; ranges that it meets become one with it. -/
def insertRange (first last : Nat) : List (Nat × Nat) → List (Nat × Nat)
  | [] => [(first, last)]
  | (otherFirst, otherLast) :: rest =>
      if last + 1 < otherFirst then
        (first, last) :: (otherFirst, otherLast) :: rest
      else if otherLast + 1 < first then
        (otherFirst, otherLast) :: insertRange first last rest
      else
        insertRange (min first otherFirst) (max last otherLast) rest

/-- What lies in front of a range and of all others lies in front of them together. -/
theorem forall_mem_insertRange
    {code first last : Nat}
    {ranges : List (Nat × Nat)}
    (front : code < first)
    (others : ∀ range ∈ ranges, code < range.1) :
    ∀ range ∈ insertRange first last ranges, code < range.1 := by
  induction ranges generalizing first last with
  | nil => simpa [insertRange] using front
  | cons other rest hypothesis =>
      rcases List.forall_mem_cons.1 others with ⟨head, tail⟩
      rw [insertRange]
      split
      · exact List.forall_mem_cons.2 ⟨front, others⟩
      · split
        · exact List.forall_mem_cons.2 ⟨head, hypothesis front tail⟩
        · exact hypothesis (Nat.lt_min.2 ⟨front, head⟩) tail

theorem AreApart.insertRange
    {first last : Nat}
    {ranges : List (Nat × Nat)}
    (between : first ≤ last)
    (apart : AreApart ranges) :
    AreApart (insertRange first last ranges) := by
  induction ranges generalizing first last with
  | nil => exact areApart_cons.2 ⟨between, by simp, areApart_nil⟩
  | cons other rest hypothesis =>
      rcases other with ⟨otherFirst, otherLast⟩
      rcases areApart_cons.1 apart with ⟨otherBetween, behind, restApart⟩
      rw [Text.insertRange]
      split
      · rename_i front
        refine areApart_cons.2 ⟨between, List.forall_mem_cons.2 ⟨front, ?_⟩, apart⟩
        intro later member
        have further := behind later member
        omega
      · split
        · rename_i after
          exact areApart_cons.2
            ⟨otherBetween, forall_mem_insertRange after behind, hypothesis between restApart⟩
        · exact hypothesis (by omega) restApart

/-- Ranges put among ranges that are apart; a range that ends before it starts is left out. -/
def insertRanges (ranges others : List (Nat × Nat)) : List (Nat × Nat) :=
  ranges.foldr
    (fun range joined =>
      if range.1 ≤ range.2 then insertRange range.1 range.2 joined else joined)
    others

theorem AreApart.insertRanges
    {others : List (Nat × Nat)}
    (apart : AreApart others)
    (ranges : List (Nat × Nat)) :
    AreApart (insertRanges ranges others) := by
  induction ranges with
  | nil => exact apart
  | cons range rest hypothesis =>
      rw [Text.insertRanges, List.foldr_cons, ← Text.insertRanges]
      split
      · rename_i between
        exact hypothesis.insertRange between
      · exact hypothesis

/-! ## Sets -/

/-- A set of characters. -/
structure CharacterSet where
  /-- The first and the last code point of each range. -/
  ranges : List (Nat × Nat)
  apart : AreApart ranges
deriving DecidableEq, Repr

namespace CharacterSet

def within (code : Nat) (range : Nat × Nat) : Bool :=
  range.1 ≤ code && code ≤ range.2

def contains (set : CharacterSet) (character : Char) : Bool :=
  set.ranges.any (within character.toNat)

def ofRanges (ranges : List (Nat × Nat)) : CharacterSet :=
  { ranges := insertRanges ranges [], apart := areApart_nil.insertRanges ranges }

def empty : CharacterSet := { ranges := [], apart := areApart_nil }

/-- The characters from one code point to another. -/
def range (first last : Nat) : CharacterSet := ofRanges [(first, last)]

def single (character : Char) : CharacterSet :=
  range character.toNat character.toNat

def ascii : CharacterSet := range 0x00 0x7F

@[simp]
theorem contains_single (character other : Char) :
    (single character).contains other = true ↔ other = character := by
  simp only [single, range, ofRanges, insertRanges, List.foldr_cons, List.foldr_nil, Nat.le_refl,
    if_true, insertRange, contains, within, List.any_cons, List.any_nil, Bool.or_false,
    Bool.and_eq_true, decide_eq_true_eq]
  constructor
  · intro between
    exact Char.toNat_inj.1 (Nat.le_antisymm between.2 between.1)
  · rintro rfl
    exact ⟨Nat.le_refl _, Nat.le_refl _⟩

/-- A set together with the characters of some ranges. -/
def withRanges (set : CharacterSet) (ranges : List (Nat × Nat)) : CharacterSet :=
  { ranges := insertRanges ranges set.ranges, apart := set.apart.insertRanges ranges }

def union (left right : CharacterSet) : CharacterSet :=
  right.withRanges left.ranges

def unionOf (sets : List CharacterSet) : CharacterSet :=
  sets.foldr union empty

/-- What ranges in increasing order leave out, from a code point on. -/
def gapsFrom (start : Nat) : List (Nat × Nat) → List (Nat × Nat)
  | [] => if start ≤ lastCode then [(start, lastCode)] else []
  | (first, last) :: rest =>
      let behind := gapsFrom (nextCode last) rest
      if start < first then (start, previousCode first) :: behind else behind

/-- Ranges meet at the surrogates: one ends in front of them, one starts behind them. -/
def meetAtSurrogates (ranges : List (Nat × Nat)) : Bool :=
  ranges.any (·.2 == 0xD7FF) && ranges.any (·.1 == 0xE000)

/--
All other characters.  What lies between two ranges has the character behind the first
and the character in front of the second for its ends, also where the ranges meet at
the surrogates: a complement then holds the two characters that they meet with.
-/
def complement (set : CharacterSet) : CharacterSet :=
  let meeting := if meetAtSurrogates set.ranges then [(0xD7FF, 0xE000)] else []
  ofRanges (gapsFrom 0 set.ranges ++ meeting)

/-- The ranges that ranges in increasing order have in common. -/
def commonRanges : (left right : List (Nat × Nat)) → List (Nat × Nat)
  | leftRange :: left, rightRange :: right =>
      let first := max leftRange.1 rightRange.1
      let last := min leftRange.2 rightRange.2
      let common := if first ≤ last then [(first, last)] else []
      if leftRange.2 < rightRange.2 then
        common ++ commonRanges left (rightRange :: right)
      else
        common ++ commonRanges (leftRange :: left) right
  | _, _ => []
termination_by left right => left.length + right.length

def intersection (left right : CharacterSet) : CharacterSet :=
  ofRanges (commonRanges left.ranges right.ranges)

/-- The characters of a set that are not in another one. -/
def difference (left right : CharacterSet) : CharacterSet :=
  ofRanges (commonRanges left.ranges (gapsFrom 0 right.ranges))

/-- The characters in exactly one of two sets. -/
def symmetricDifference (left right : CharacterSet) : CharacterSet :=
  (left.union right).difference (left.intersection right)

def ofRuns (chosen : Char → Bool) (runs : List (Nat × Char)) : CharacterSet :=
  ofRanges (Runs.rangesFrom chosen 0 runs)

/-- The set that a text writes: runs of characters inside, marked y, and outside. -/
def ofText (text : String) : CharacterSet :=
  ofRuns (· == 'y') (Runs.ofText text)

def isAscii (set : CharacterSet) : Bool :=
  set.ranges.all fun range => range.2 < 0x80

def single? (set : CharacterSet) : Option Char :=
  match set.ranges with
  | [(first, last)] => if first = last then some (Char.ofNat first) else none
  | _ => none

end CharacterSet

end ParserGraph.Text

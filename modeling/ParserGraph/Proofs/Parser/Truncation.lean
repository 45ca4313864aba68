import ParserGraph.Proofs.Parser.Readings

/-!
# Bounds as truncation

Under bounds, a repetition gives the first values of the repetition without bounds, as many
as the greatest number lets through, and ends where the last of those rounds ended; it
matches exactly if they are enough.  So do lists, with one exception: a list that may take
no item is empty, even if it should have items.

A greater greatest number therefore makes values longer, and a greater least number can take
a match away but never changes one.
-/

namespace ParserGraph

/-- How many of a number of values the bounds let through. -/
def Bounds.letThrough (bounds : Bounds) (count : Nat) : Nat :=
  Min.min count (bounds.max.getD count)

/-- One greatest number lets through all that another one does. -/
def AllowsAll (max other : Option Nat) : Prop :=
  ∀ most ∈ max, ∃ few ∈ other, few ≤ most

theorem AllowsAll.letThrough_le
    {max other : Option Nat}
    (allows : AllowsAll max other)
    (least count : Nat) :
    ({ min := least, max := other } : Bounds).letThrough count ≤
      ({ min := least, max } : Bounds).letThrough count := by
  cases max with
  | none => exact Nat.le_trans (Nat.min_le_left _ _) (Nat.le_of_eq (Nat.min_self _).symm)
  | some most =>
      rcases allows most rfl with ⟨few, rfl, fewer⟩
      simp only [Bounds.letThrough, Option.getD_some]
      omega

namespace Reading

theorem take_letThrough (bounds : Bounds) (readings : List Reading) :
    readings.take (bounds.letThrough readings.length) = upTo bounds.max readings := by
  rw [Bounds.letThrough, upTo, Nat.min_comm, ← List.take_eq_take_min]

theorem length_upTo (bounds : Bounds) (readings : List Reading) :
    (upTo bounds.max readings).length = bounds.letThrough readings.length := by
  rw [Bounds.letThrough, upTo, List.length_take, Nat.min_comm]

/-- The values of one reading are the first ones of another. -/
def Starts (first second : Reading) : Prop :=
  ∃ values further, first.value = .array values ∧ second.value = .array further ∧
    values <+: further

theorem starts_collected
    (cursor : Cursor)
    (readings : List Reading)
    {few most : Nat}
    (fewer : few ≤ most) :
    (collected cursor (readings.take few)).Starts (collected cursor (readings.take most)) := by
  refine ⟨_, _, rfl, rfl, ?_⟩
  exact (List.take_prefix_take_left fewer).map Reading.value

end Reading

namespace Parser

open Reading

variable [Pattern.Engine]

/-- What a family of parsers reads from a place on under bounds, by what it reads without. -/
structure Truncates
    (family : Bounds → Parser)
    (possible : Bounds → Prop)
    (cursor : Cursor)
    (readings : List Reading) : Prop where
  /-- Without bounds there is a match, with the values of all readings. -/
  unbounded : (family {}).reads? cursor = some (collected cursor readings)
  /-- The first readings are given, up to the end of the last of them, if they are enough. -/
  bounded : ∀ bounds, possible bounds →
    (family bounds).reads? cursor =
      if bounds.min ≤ bounds.letThrough readings.length then
        some (collected cursor (readings.take (bounds.letThrough readings.length)))
      else
        none
  /-- With more values allowed, a match stays one, and its values go on. -/
  more_allowed : ∀ least max other reading, AllowsAll max other →
    (family { min := least, max := other }).reads? cursor = some reading →
      (possible { min := least, max := other } →
        ((family { min := least, max }).reads? cursor).isSome) ∧
      ∀ further, (family { min := least, max }).reads? cursor = some further →
        reading.Starts further
  /-- With more values needed, there is the same match or none. -/
  more_needed : ∀ least greater max, least ≤ greater →
    (family { min := greater, max }).reads? cursor = none ∨
      (family { min := greater, max }).reads? cursor =
        (family { min := least, max }).reads? cursor

/--
All follows from what is read under bounds.  A lenient family is one that gives no values
if none are allowed, even if some are needed.
-/
theorem truncates_of_reads?_eq
    {family : Bounds → Parser}
    {lenient : Bool}
    {cursor : Cursor}
    {readings : List Reading}
    (read : ∀ bounds, (family bounds).reads? cursor =
      if bounds.min ≤ bounds.letThrough readings.length ∨
          (lenient = true ∧ bounds.max = some 0) then
        some (collected cursor (readings.take (bounds.letThrough readings.length)))
      else
        none) :
    Truncates family (fun bounds => lenient = true → bounds.max = some 0 → bounds.min = 0)
      cursor readings where
  unbounded := by
    have all : ({} : Bounds).letThrough readings.length = readings.length :=
      Nat.min_self _
    rw [read, if_pos (Or.inl (Nat.zero_le _)), all, List.take_length]
  bounded := by
    intro bounds possible
    have enough : (bounds.min ≤ bounds.letThrough readings.length ∨
        (lenient = true ∧ bounds.max = some 0)) ↔
          bounds.min ≤ bounds.letThrough readings.length := by
      constructor
      · rintro (enough | ⟨spared, no_value⟩)
        · exact enough
        · exact possible spared no_value ▸ Nat.zero_le _
      · exact Or.inl
    rw [read, if_congr enough rfl rfl]
  more_allowed := by
    intro least max other reading allows reads
    have fewer := allows.letThrough_le least readings.length
    rw [read] at reads
    split_ifs at reads with enough
    cases reads
    constructor
    · intro possible
      have still : least ≤ ({ min := least, max } : Bounds).letThrough readings.length := by
        rcases enough with enough | ⟨spared, no_value⟩
        · exact Nat.le_trans enough fewer
        · exact Nat.le_trans (Nat.le_of_eq (possible spared no_value)) (Nat.zero_le _)
      rw [read, if_pos (Or.inl still)]
      rfl
    · intro further reads
      rw [read] at reads
      split_ifs at reads
      cases reads
      exact starts_collected cursor readings fewer
  more_needed := by
    intro least greater max further
    rw [read, read]
    by_cases enough : greater ≤ ({ min := greater, max } : Bounds).letThrough readings.length ∨
        (lenient = true ∧ max = some 0)
    · have still : least ≤ ({ min := least, max } : Bounds).letThrough readings.length ∨
          (lenient = true ∧ max = some 0) :=
        enough.imp_left (Nat.le_trans further)
      rw [if_pos enough, if_pos still]
      exact Or.inr rfl
    · rw [if_neg enough]
      exact Or.inl rfl

theorem Truncates.of_possible
    {family : Bounds → Parser}
    {possible others : Bounds → Prop}
    {cursor : Cursor}
    {readings : List Reading}
    (truncates : Truncates family possible cursor readings)
    (fewer : ∀ bounds, others bounds → possible bounds) :
    Truncates family others cursor readings where
  unbounded := truncates.unbounded
  bounded bounds other := truncates.bounded bounds (fewer bounds other)
  more_allowed least max other reading allows reads := by
    rcases truncates.more_allowed least max other reading allows reads with ⟨stays, starts⟩
    exact ⟨fun suits => stays (fewer _ suits), starts⟩
  more_needed := truncates.more_needed

theorem truncates_repetition (inner : Parser) (cursor : Cursor) :
    Truncates (repetition inner) (fun _ => True) cursor (inner.rounds cursor) := by
  have read : ∀ bounds, (repetition inner bounds).reads? cursor =
      if bounds.min ≤ bounds.letThrough (inner.rounds cursor).length ∨
          (false = true ∧ bounds.max = some 0) then
        some (collected cursor ((inner.rounds cursor).take
          (bounds.letThrough (inner.rounds cursor).length)))
      else
        none := by
    intro bounds
    rw [reads?_repetition, length_upTo, take_letThrough]
    simp
  exact (truncates_of_reads?_eq read).of_possible (by simp)

theorem truncates_sepBy (item separator : Parser) (cursor : Cursor) :
    Truncates (sepBy item separator) (fun bounds => bounds.max = some 0 → bounds.min = 0) cursor
      (item.listed separator cursor) := by
  have read : ∀ bounds, (sepBy item separator bounds).reads? cursor =
      if bounds.min ≤ bounds.letThrough (item.listed separator cursor).length ∨
          (true = true ∧ bounds.max = some 0) then
        some (collected cursor ((item.listed separator cursor).take
          (bounds.letThrough (item.listed separator cursor).length)))
      else
        none := by
    intro bounds
    by_cases no_item : bounds.max = some 0
    · rw [reads?_sepBy_of_no_item item separator no_item, if_pos (Or.inr ⟨rfl, no_item⟩),
        take_letThrough, no_item, upTo_zero]
      rfl
    · rw [reads?_sepBy item separator no_item, length_upTo, take_letThrough]
      simp [no_item]
  exact (truncates_of_reads?_eq read).of_possible fun _ possible _ => possible

/-- What bounds do to a repetition and to a list from a place on. -/
structure BoundsTruncate (inner item separator : Parser) (cursor : Cursor) : Prop where
  repetition : Truncates (repetition inner) (fun _ => True) cursor (inner.rounds cursor)
  /-- Each round is what is read where the one in front of it ended. -/
  rounds : inner.Consecutive cursor (inner.rounds cursor)
  list : Truncates (sepBy item separator) (fun bounds => bounds.max = some 0 → bounds.min = 0)
    cursor (item.listed separator cursor)
  /-- Behind the first item there are separators, each with an item where it ended. -/
  items : ∀ first further, item.listed separator cursor = first :: further →
    item.reads? cursor = some first ∧
      (next separator item).Consecutive first.cursor further

/-- Bounds cut a repetition short, and a list unless it should have items and may take none. -/
theorem bounds_truncate (inner item separator : Parser) (cursor : Cursor) :
    BoundsTruncate inner item separator cursor where
  repetition := truncates_repetition inner cursor
  rounds := consecutive_rounds inner cursor
  list := truncates_sepBy item separator cursor
  items := by
    intro first further listing
    rw [listed] at listing
    cases found : item.reads? cursor with
    | none => simp [found] at listing
    | some reading =>
        simp only [found, List.cons.injEq] at listing
        rcases listing with ⟨rfl, rfl⟩
        exact ⟨rfl, consecutive_rounds _ _⟩

end Parser

end ParserGraph

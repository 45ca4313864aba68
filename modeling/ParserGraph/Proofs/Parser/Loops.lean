import ParserGraph.Proofs.Parser.FurthestFailure

/-!
# Repetitions and lists as loops

The loops of repetitions and lists go on while the greatest number leaves room, so that
the number of values stays within the bounds of either.  A list is an item with a
repetition of separators and items behind it.
-/

namespace ParserGraph

/-! ## What a parser reads -/

namespace Parser

variable [Pattern.Engine]

/-- What a parser reads from a place on, if it matches there. -/
def reads? (parser : Parser) (cursor : Cursor) : Option Reading :=
  (scan parser cursor (.startingAt cursor.offset)).1

/-- What failed before does not matter for what is read. -/
theorem fst_scan (parser : Parser) (cursor : Cursor) (record : FailureRecord) :
    (scan parser cursor record).1 = parser.reads? cursor := by
  have follows := follows_evaluateLeniently parser cursor
  rw [reads?, follows, follows]

end Parser

/-! ## What loops keep -/

namespace Scan

/-- A loop ends, and what each of its steps keeps holds where it ends if it holds at the start. -/
theorem collect_keeps
    {step : Cursor → Scan Reading}
    {max : Option Nat}
    (Holds : List Value → Cursor → Prop)
    (kept : ∀ values cursor record reading, hasRoom max values = true → Holds values cursor →
      (step cursor record).1 = some reading →
        Holds (values ++ [reading.value]) reading.cursor)
    {values : List Value}
    {cursor : Cursor}
    (start : Holds values cursor)
    (record : FailureRecord) :
    ∃ series last, collect step max values cursor record = (some series, last) ∧
      Holds series.values series.cursor := by
  induction left : cursor.rest.length using Nat.strongRecOn generalizing values cursor record with
  | ind length hypothesis =>
      rw [collect]
      split_ifs with room
      · simp only [andThen, attempt]
        rcases result : step cursor record with ⟨_ | reading, next⟩
        · exact ⟨_, _, rfl, start⟩
        · have holds : Holds (values ++ [reading.value]) reading.cursor :=
            kept values cursor record reading room start (by rw [result])
          simp only
          split_ifs with shorter
          · exact hypothesis _ (left ▸ shorter) holds next rfl
          · exact ⟨_, _, rfl, holds⟩
      · exact ⟨_, _, rfl, start⟩

end Scan

theorem Series.fst_atLeast
    (series : Series)
    (min : Nat)
    (noun : String)
    (record : FailureRecord) :
    (series.atLeast min noun record).1 =
      if min ≤ series.values.length then
        some { value := .array series.values, cursor := series.cursor }
      else
        none := by
  rw [atLeast]
  split_ifs <;> rfl

/-! ## Numbers of values -/

/-- The value is an array with a number of values that the bounds allow. -/
def Bounds.Admits (bounds : Bounds) (value : Value) : Prop :=
  ∃ values, value = .array values ∧ bounds.min ≤ values.length ∧
    ∀ most ∈ bounds.max, values.length ≤ most

namespace Scan

/-- A step is made only if there is room for its value, so that the loop keeps to its bound. -/
theorem collect_within
    (step : Cursor → Scan Reading)
    {max : Option Nat}
    {values : List Value}
    (within : ∀ most ∈ max, values.length ≤ most)
    (cursor : Cursor)
    (record : FailureRecord) :
    ∃ series last, collect step max values cursor record = (some series, last) ∧
      ∀ most ∈ max, series.values.length ≤ most := by
  refine collect_keeps (fun values _ => ∀ most ∈ max, values.length ≤ most) ?_ within record
  rintro values cursor record reading room _ _ most ⟨⟩
  simpa [hasRoom, Nat.succ_le_iff] using room

/-- What a loop and the check behind it let pass is within the bounds. -/
theorem admits_of_collect
    {step : Cursor → Scan Reading}
    {bounds : Bounds}
    {noun : String}
    {values : List Value}
    {cursor : Cursor}
    {record : FailureRecord}
    {reading : Reading}
    (within : ∀ most ∈ bounds.max, values.length ≤ most)
    (reads : ((collect step bounds.max values cursor).andThen
      (fun series => series.atLeast bounds.min noun) record).1 = some reading) :
    bounds.Admits reading.value := by
  rcases collect_within step within cursor record with ⟨series, last, collected, stillWithin⟩
  rw [andThen_of_eq collected, Series.fst_atLeast] at reads
  split_ifs at reads with enough
  cases reads
  exact ⟨series.values, rfl, enough, stillWithin⟩

end Scan

namespace Parser

section Counts

variable [Pattern.Engine]

/-- A list that may take no item is empty, even if it should have items. -/
theorem reads?_sepBy_of_no_item
    (item separator : Parser)
    {bounds : Bounds}
    (no_item : bounds.max = some 0)
    (cursor : Cursor) :
    (sepBy item separator bounds).reads? cursor = some { value := .array [], cursor } := by
  rw [reads?, scan, scanSepBy, if_pos no_item]
  rfl

/-- What a list reads that may take an item, by whether there is one. -/
theorem exists_reads?_sepBy
    (item separator : Parser)
    {bounds : Bounds}
    (takes_items : bounds.max ≠ some 0)
    (cursor : Cursor) :
    ∃ record, (sepBy item separator bounds).reads? cursor =
      match item.reads? cursor with
      | none => if bounds.min = 0 then some { value := .array [], cursor } else none
      | some first =>
          ((Scan.collect (Scan.separated (scan item) (scan separator)) bounds.max [first.value]
            first.cursor).andThen (fun series => series.atLeast bounds.min "items") record).1 := by
  rw [reads?, scan, scanSepBy, if_neg takes_items,
    ← fst_scan item cursor (.startingAt cursor.offset)]
  simp only [Scan.andThen, Scan.attempt, ← Scan.collectItems_eq_collect]
  rcases scan item cursor (.startingAt cursor.offset) with ⟨_ | first, record⟩
  · refine ⟨record, ?_⟩
    simp only
    split_ifs <;> rfl
  · exact ⟨record, rfl⟩

/-- A list that may take an item is within its bounds. -/
theorem admits_of_reads?_sepBy
    {item separator : Parser}
    {bounds : Bounds}
    (takes_items : bounds.max ≠ some 0)
    {cursor : Cursor}
    {reading : Reading}
    (reads : (sepBy item separator bounds).reads? cursor = some reading) :
    bounds.Admits reading.value := by
  rcases exists_reads?_sepBy item separator takes_items cursor with ⟨record, list⟩
  rw [list] at reads
  cases found : item.reads? cursor with
  | none =>
      simp only [found] at reads
      split_ifs at reads with none_needed
      cases reads
      exact ⟨[], rfl, Nat.le_zero.2 none_needed, by simp⟩
  | some first =>
      simp only [found] at reads
      refine Scan.admits_of_collect ?_ reads
      intro most bounded
      have some_room : most ≠ 0 := fun none => takes_items (none ▸ bounded)
      simpa [Nat.one_le_iff_ne_zero] using some_room

/-- How the numbers of values that a repetition and a list give relate to their bounds. -/
structure KeepsCounts (inner item separator : Parser) (bounds : Bounds) : Prop where
  repetition : ∀ cursor reading,
    (repetition inner bounds).reads? cursor = some reading → bounds.Admits reading.value
  /-- Every list that is read is within its bounds exactly if it may take an item or needs none. -/
  list : (∀ cursor reading,
    (sepBy item separator bounds).reads? cursor = some reading → bounds.Admits reading.value) ↔
      (bounds.max = some 0 → bounds.min = 0)
  /-- A list that may take no item takes none, whatever it needs. -/
  no_item : bounds.max = some 0 → ∀ cursor,
    (sepBy item separator bounds).reads? cursor = some { value := .array [], cursor }

/--
Repetitions keep to their bounds.  So do lists, unless the bounds contradict each other
in that no item is allowed and some are needed: such a list is empty.
-/
theorem keepsCounts (inner item separator : Parser) (bounds : Bounds) :
    KeepsCounts inner item separator bounds where
  repetition := by
    intro cursor reading reads
    rw [reads?, scan] at reads
    exact Scan.admits_of_collect (by simp) reads
  list := by
    constructor
    · intro admitted no_item
      have reads := reads?_sepBy_of_no_item item separator no_item (.start "")
      rcases admitted _ _ reads with ⟨values, empty, enough, -⟩
      cases empty
      exact Nat.le_zero.1 enough
    · intro attainable cursor reading reads
      by_cases no_item : bounds.max = some 0
      · rw [reads?_sepBy_of_no_item item separator no_item] at reads
        cases reads
        exact ⟨[], rfl, Nat.le_zero.2 (attainable no_item), by simp⟩
      · exact admits_of_reads?_sepBy no_item reads
  no_item no_item cursor := reads?_sepBy_of_no_item item separator no_item cursor

end Counts

/-- A list of at least two items and at most none reads none, and matches. -/
theorem not_admits_of_contradicting_bounds :
    ¬ ∀ reading,
      (sepBy (.text "a") (.text ",") { min := 2, max := some 0 }).reads? (.start "a,a") =
        some reading → ({ min := 2, max := some 0 } : Bounds).Admits reading.value := by
  intro admitted
  have no_item : ({ min := 2, max := some 0 } : Bounds).max = some 0 := rfl
  have reads := reads?_sepBy_of_no_item (.text "a") (.text ",") no_item (.start "a,a")
  rcases admitted _ reads with ⟨values, empty, enough, -⟩
  cases empty
  exact absurd enough (by decide)

/-! ## Lists as repetitions -/

/-- What a list reads behind its first item: separators, each with an item behind it. -/
def furtherItems (item separator : Parser) (bounds : Bounds) : Parser :=
  .repetition (.next separator item) { min := bounds.min - 1, max := bounds.max.map (· - 1) }

/-- A list reads a first value and then what a repetition reads, and ends where that ends. -/
def Heads (value : Value) (further list : Reading) : Prop :=
  ∃ values, further.value = .array values ∧
    list = { value := .array (value :: values), cursor := further.cursor }

/-- With a value in front, a series may be asked for one value more. -/
theorem rel_atLeast_precededBy
    (series : Series)
    (value : Value)
    (min : Nat)
    (noun otherNoun : String)
    (record : FailureRecord) :
    Option.Rel (Heads value) (series.atLeast (min - 1) noun record).1
      ((series.precededBy value).atLeast min otherNoun record).1 := by
  rw [Series.fst_atLeast, Series.fst_atLeast]
  have counted : (series.precededBy value).values.length = series.values.length + 1 := rfl
  by_cases enough : min - 1 ≤ series.values.length
  · rw [if_pos enough, if_pos (by omega)]
    exact .some ⟨series.values, rfl, rfl⟩
  · rw [if_neg enough, if_neg (by omega)]
    exact .none

section Items

variable [Pattern.Engine]

/-- The last value is that of an item, and nothing is read behind the item. -/
def EndsWith (item : Parser) (values : List Value) (stop : Cursor) : Prop :=
  ∃ place last, item.reads? place = some last ∧ values.getLast? = some last.value ∧
    stop = last.cursor

/-- What a list reads from a place on, by its first item and the repetition behind that. -/
structure ListsFurtherItems
    (item separator : Parser)
    (bounds : Bounds)
    (cursor : Cursor) : Prop where
  without_item : item.reads? cursor = none →
    (sepBy item separator bounds).reads? cursor =
      if bounds.min = 0 then some { value := .array [], cursor } else none
  /-- Both match or neither does, and then the list ends where the repetition does. -/
  behind_item : ∀ first, item.reads? cursor = some first →
    Option.Rel (Heads first.value) ((furtherItems item separator bounds).reads? first.cursor)
      ((sepBy item separator bounds).reads? cursor)
  /-- No separator is read behind the last item. -/
  ends_with_item : ∀ first list, item.reads? cursor = some first →
    (sepBy item separator bounds).reads? cursor = some list →
      ∃ values, list.value = .array values ∧ item.EndsWith values list.cursor

/-- A separator with an item behind it ends with the item. -/
theorem exists_reads?_of_separated
    {item separator : Parser}
    {cursor : Cursor}
    {record : FailureRecord}
    {reading : Reading}
    (reads : (Scan.separated (scan item) (scan separator) cursor record).1 = some reading) :
    ∃ place, item.reads? place = some reading := by
  rw [Scan.separated, Scan.andThen] at reads
  rcases opened : scan separator cursor record with ⟨_ | opening, between⟩
  · simp [opened] at reads
  · refine ⟨opening.cursor, ?_⟩
    rw [← fst_scan item opening.cursor between]
    simpa [opened] using reads

/-- The loop of a list is behind an item at its start, and again after each step. -/
theorem collect_endsWith
    {item : Parser}
    (separator : Parser)
    {cursor : Cursor}
    {first : Reading}
    (found : item.reads? cursor = some first)
    (max : Option Nat)
    (record : FailureRecord) :
    ∃ series last, Scan.collect (Scan.separated (scan item) (scan separator)) max [first.value]
        first.cursor record = (some series, last) ∧
      item.EndsWith series.values series.cursor := by
  apply Scan.collect_keeps item.EndsWith
  · intro values _ _ reading _ _ reads
    rcases exists_reads?_of_separated reads with ⟨place, further⟩
    exact ⟨place, reading, further, by simp, rfl⟩
  · exact ⟨cursor, first, found, rfl, rfl⟩

theorem reads?_furtherItems
    (item separator : Parser)
    (bounds : Bounds)
    (cursor : Cursor)
    (record : FailureRecord) :
    (furtherItems item separator bounds).reads? cursor =
      ((Scan.collect (Scan.separated (scan item) (scan separator)) (bounds.max.map (· - 1)) []
        cursor).andThen
          (fun series => series.atLeast (bounds.min - 1) "repetitions") record).1 := by
  have pair : scan (.next separator item) = Scan.separated (scan item) (scan separator) := by
    funext place
    rw [scan, Scan.separated]
  rw [← fst_scan _ cursor record, furtherItems, scan, pair]

/-- A list that may take an item is one item, and a repetition of separators and items. -/
theorem listsFurtherItems
    (item separator : Parser)
    {bounds : Bounds}
    (takes_items : bounds.max ≠ some 0)
    (cursor : Cursor) :
    ListsFurtherItems item separator bounds cursor := by
  rcases exists_reads?_sepBy item separator takes_items cursor with ⟨record, list⟩
  constructor
  · intro no_item
    rw [list, no_item]
  · intro first found
    rw [list, found, reads?_furtherItems item separator bounds first.cursor record]
    simp only
    rw [Scan.collect_singleton, Scan.andThen_assoc]
    have none_yet : ∀ most ∈ bounds.max.map (· - 1), ([] : List Value).length ≤ most := by simp
    rcases Scan.collect_within (Scan.separated (scan item) (scan separator)) none_yet first.cursor
      record with ⟨series, last, collected, -⟩
    rw [Scan.andThen_of_eq collected, Scan.andThen_of_eq collected, Scan.succeed_andThen]
    exact rel_atLeast_precededBy series first.value bounds.min _ _ last
  · intro first result found reads
    rcases collect_endsWith separator found bounds.max record with
      ⟨series, last, collected, ends⟩
    rw [list, found] at reads
    simp only at reads
    rw [Scan.andThen_of_eq collected, Series.fst_atLeast] at reads
    split_ifs at reads with enough
    cases reads
    exact ⟨series.values, rfl, ends⟩

end Items

example : (sepBy (.text "a") (.text ",") { min := 1 }).reads? (.start "a,a,") =
    some
      { value := .array [.text "a", .text "a"]
        cursor := { offset := 3, rest := [','] } } := by cbv

/-- A separator behind the last item is left there. -/
theorem listsFurtherItems_of_dangling_separator :
    ({ min := 1 } : Bounds).max ≠ some 0 ∧
      reads? (.text "a") (.start "a,a,") =
        some { value := .text "a", cursor := { offset := 1, rest := [',', 'a', ','] } } ∧
      ListsFurtherItems (.text "a") (.text ",") { min := 1 } (.start "a,a,") :=
  ⟨by decide, rfl, listsFurtherItems (.text "a") (.text ",") (by decide) (.start "a,a,")⟩

end Parser

end ParserGraph

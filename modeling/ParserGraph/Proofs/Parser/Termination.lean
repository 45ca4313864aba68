import ParserGraph.Proofs.Parser.Boundaries

/-!
# Scans end

Nothing but its own conditions ends the loop of a repetition or of a list: there is no room
for a further value, a step fails, or a step stands still.  Every such loop has a finite run,
and so every parser answers, however its loops are nested and whatever may be read from
nothing inside them.

In a run each lap but the last ends behind the place where the lap in front of it ended.  So
there is at most one lap for each byte that is left, and one more; a list has its first item
in front of these.
-/

namespace ParserGraph

/-! ## Runs of loops -/

/-- What the laps of a loop add up to: their values, up to where the last of them ended. -/
def Stops.ofLaps (start : Nat) (laps : List Stop) (failed : Bool) : Stops :=
  { values := laps.map Stop.value
    offset := (laps.getLast?.map Stop.offset).getD start
    failed }

theorem Stops.ofLaps_cons (start : Nat) (lap : Stop) (laps : List Stop) (failed : Bool) :
    ofLaps start (lap :: laps) failed = (ofLaps lap.offset laps failed).precededBy lap.value := by
  cases laps with
  | nil => rfl
  | cons next others => simp [ofLaps, precededBy, List.getLast?_eq_some_getLast]

namespace Slicing

/--
A run of a loop, lap by lap.  The loop ends if there is no room for a further value, if a
step fails, or behind a step that stands still, and goes on in all other cases, be it
backwards.  A loop that goes on for ever has no run.
-/
inductive LoopRun (step : Nat → Slicing Stop) :
    (limit : Option Nat) → (offset : Nat) → (before : Ledger) →
      (laps : List Stop) → (failed : Bool) → (after : Ledger) → Prop where
  | full (offset : Nat) (before : Ledger) : LoopRun step (some 0) offset before [] false before
  | failed {limit : Option Nat} {offset : Nat} {before after : Ledger} :
      limit ≠ some 0 → step offset before = some (none, after) →
      LoopRun step limit offset before [] true after
  | still {limit : Option Nat} {offset : Nat} {before after : Ledger} {lap : Stop} :
      limit ≠ some 0 → step offset before = some (some lap, after) → lap.offset = offset →
      LoopRun step limit offset before [lap] false after
  | further {limit : Option Nat} {offset : Nat} {before middle after : Ledger} {lap : Stop}
      {laps : List Stop} {failed : Bool} :
      limit ≠ some 0 → step offset before = some (some lap, middle) → lap.offset ≠ offset →
      LoopRun step (limit.map (· - 1)) lap.offset middle laps failed after →
      LoopRun step limit offset before (lap :: laps) failed after

/-- Each lap but the last ends behind the place where the one in front of it ended. -/
def Advances : (start : Nat) → (laps : List Stop) → Prop
  | _, [] => True
  | start, [lap] => start ≤ lap.offset
  | start, lap :: next :: others => start < lap.offset ∧ Advances lap.offset (next :: others)

/-- At most so many laps, each but the last of which ends behind the one in front of it. -/
structure InTime (input : List Char) (limit : Option Nat) (start : Nat) (laps : List Stop) :
    Prop where
  length_le : laps.length ≤ Text.byteLength input - start + 1
  length_le_limit : ∀ most ∈ limit, laps.length ≤ most
  advances : Advances start laps

section Loops

variable [Pattern.Engine]
variable {search : Search} {input : List Char} {step : Nat → Slicing Stop}
variable {scan : Cursor → Scan Reading}

/-- A step from a boundary stops at another one, there or further on. -/
theorem Mirrors.within
    (mirrors : Mirrors search input step scan)
    {offset : Nat}
    {before after : Ledger}
    {stop : Stop}
    (boundary : Text.IsBoundary input offset)
    (stepped : step offset before = some (some stop, after)) :
    Text.Within input offset stop.offset := by
  rcases mirrors boundary before with ⟨result, middle, done, answers⟩
  rw [stepped] at done
  cases done
  exact answers.reached stop rfl

/-- A loop has a run, which gives what the loop gives. -/
theorem Mirrors.exists_loopRun
    (mirrors : Mirrors search input step scan)
    (limit : Option Nat)
    {offset : Nat}
    (boundary : Text.IsBoundary input offset)
    (before : Ledger) :
    ∃ laps failed after, LoopRun step limit offset before laps failed after ∧
      Slicing.again input step limit offset before =
        some (some (.ofLaps offset laps failed), after) := by
  induction left : Text.byteLength input - offset using Nat.strongRecOn
    generalizing limit offset before with
  | ind length hypothesis =>
      rw [Slicing.again]
      by_cases none_more : limit = some 0
      · rw [if_pos none_more, none_more]
        exact ⟨[], false, before, .full offset before, rfl⟩
      · rw [if_neg none_more]
        rcases mirrors boundary before with ⟨result, middle, stepped, answers⟩
        simp only [Slicing.andThen, Slicing.attempt, stepped, Option.map_some, Option.bind_some]
        cases result with
        | none => exact ⟨[], true, middle, .failed none_more stepped, rfl⟩
        | some lap =>
            have within := answers.reached lap rfl
            by_cases still : lap.offset = offset
            · simp only [if_pos still]
              refine ⟨[lap], false, middle, .still none_more stepped still, rfl⟩
            · have ended := within.inside
              have ahead := within.ahead
              have further : offset < lap.offset ∧ lap.offset ≤ Text.byteLength input := by
                omega
              rcases hypothesis _ (by omega) (limit.map (· - 1)) within.boundary middle rfl with
                ⟨laps, failed, after, run, looped⟩
              refine ⟨lap :: laps, failed, after, .further none_more stepped still run, ?_⟩
              simp only [if_neg still, dif_pos further, Slicing.andThen, looped, Option.bind_some]
              rw [Stops.ofLaps_cons]
              rfl

/-- No run takes longer than what is left of the input, whatever the loop is a loop of. -/
theorem LoopRun.inTime
    (mirrors : Mirrors search input step scan)
    {limit : Option Nat}
    {offset : Nat}
    {before after : Ledger}
    {laps : List Stop}
    {failed : Bool}
    (run : LoopRun step limit offset before laps failed after)
    (boundary : Text.IsBoundary input offset) :
    InTime input limit offset laps := by
  induction run with
  | full => exact ⟨Nat.zero_le _, fun _ _ => Nat.zero_le _, trivial⟩
  | failed => exact ⟨Nat.zero_le _, fun _ _ => Nat.zero_le _, trivial⟩
  | @still limit offset _ _ lap room stepped stands =>
      refine ⟨Nat.le_add_left 1 _, ?_, Nat.le_of_eq stands.symm⟩
      rintro most ⟨⟩
      exact Nat.one_le_iff_ne_zero.2 fun none => room (congrArg some none)
  | @further limit offset _ _ _ lap laps _ room stepped moves _ hypothesis =>
      have within := mirrors.within boundary stepped
      have behind := Nat.lt_of_le_of_ne within.ahead (Ne.symm moves)
      have rest := hypothesis within.boundary
      constructor
      · have left := rest.length_le
        have inside := within.inside
        rw [List.length_cons]
        omega
      · rintro most ⟨⟩
        have some_room : most ≠ 0 := fun none => room (congrArg some none)
        have fewer := rest.length_le_limit (most - 1) rfl
        rw [List.length_cons]
        omega
      · cases laps with
        | nil => exact within.ahead
        | cons next others => exact ⟨behind, rest.advances⟩

end Loops

end Slicing

/-! ## Parsers -/

namespace Parser

open Slicing

variable {search : Search} {input : List Char} {start : Nat}

/-- The loop of a repetition has a run in time, and its laps are what is repeated. -/
def RepeatsInTime
    (search : Search)
    (input : List Char)
    (inner : Parser)
    (bounds : Bounds)
    (start : Nat)
    (before : Ledger) : Prop :=
  ∃ laps failed after,
    LoopRun (scanAt search input inner) bounds.max start before laps failed after ∧
      InTime input bounds.max start laps ∧
      scanAt search input (.repetition inner bounds) start before =
        (Stops.ofLaps start laps failed).atLeast bounds.min "repetitions" after

/--
Behind a first item the loop of a list has a run in time, and its laps are the further items.
There may be one item more than there may be laps.
-/
def ListsInTime
    (search : Search)
    (input : List Char)
    (item separator : Parser)
    (bounds : Bounds)
    (start : Nat)
    (before : Ledger)
    (first : Stop)
    (middle : Ledger) : Prop :=
  ∃ laps failed after,
    LoopRun (scanSeparatedAt (scanAt search input item) (scanAt search input separator))
        (bounds.max.map (· - 1)) first.offset middle laps failed after ∧
      InTime input (bounds.max.map (· - 1)) first.offset laps ∧
      (first :: laps).length ≤ Text.byteLength input - start + 2 ∧
      (∀ most ∈ bounds.max, (first :: laps).length ≤ most) ∧
      scanAt search input (.sepBy item separator bounds) start before =
        ((Stops.ofLaps first.offset laps failed).precededBy first.value).atLeast bounds.min
          "items" after

/-- How scans of a parser, and of repetitions and lists of it, end from an offset on. -/
structure EndsInTime
    [Pattern.Engine]
    (search : Search)
    (input : List Char)
    (parser : Parser)
    (start : Nat)
    (before : Ledger) : Prop where
  /-- There is an answer, with the parsers' own search that of the scan on cursors. -/
  answers : ∃ result after,
    scanAt search input parser start before = some (result, after) ∧
      (search = Pattern.range? →
        scan parser (.ofOffset input start) before.record =
          (result.map (Stop.reading input), after.record))
  repetition : ∀ bounds, RepeatsInTime search input parser bounds start before
  list : ∀ separator bounds first middle, bounds.max ≠ some 0 →
    scanAt search input parser start before = some (some first, middle) →
      ListsInTime search input parser separator bounds start before first middle
  /-- Where no item is allowed or the first one is missing, a list has no items. -/
  no_items : ∀ separator bounds,
    (bounds.max = some 0 ∨
        ∃ middle, scanAt search input parser start before = some (none, middle)) →
      ∃ result after,
        scanAt search input (.sepBy parser separator bounds) start before =
            some (result, after) ∧
          ∀ stop, result = some stop → stop.value = .array []

theorem repeatsInTime
    (sound : search.Sound)
    (inner : Parser)
    (bounds : Bounds)
    (boundary : Text.IsBoundary input start)
    (before : Ledger) :
    RepeatsInTime search input inner bounds start before := by
  have mirrors : Mirrors search input (scanAt search input inner) (scan inner) :=
    mirrors_scanAt sound inner
  rcases mirrors.exists_loopRun bounds.max boundary before with
    ⟨laps, failed, after, run, looped⟩
  refine ⟨laps, failed, after, run, run.inTime mirrors boundary, ?_⟩
  rw [scanAt, Slicing.andThen, looped]
  rfl

theorem listsInTime
    (sound : search.Sound)
    (item separator : Parser)
    {bounds : Bounds}
    (takes_items : bounds.max ≠ some 0)
    (boundary : Text.IsBoundary input start)
    {before middle : Ledger}
    {first : Stop}
    (found : scanAt search input item start before = some (some first, middle)) :
    ListsInTime search input item separator bounds start before first middle := by
  have items : Mirrors search input (scanAt search input item) (scan item) :=
    mirrors_scanAt sound item
  have mirrors := items.separated (mirrors_scanAt sound separator)
  have within : Text.Within input start first.offset := items.within boundary found
  rcases mirrors.exists_loopRun (bounds.max.map (· - 1)) within.boundary middle with
    ⟨laps, failed, after, run, looped⟩
  have inTime := run.inTime mirrors within.boundary
  refine ⟨laps, failed, after, run, inTime, ?_, ?_, ?_⟩
  · have fewer := inTime.length_le
    have ahead := within.ahead
    rw [List.length_cons]
    omega
  · intro most bounded
    have some_room : most ≠ 0 := by
      rintro rfl
      exact takes_items bounded
    have fewer := inTime.length_le_limit (most - 1) (by rw [bounded]; rfl)
    rw [List.length_cons]
    omega
  · rw [scanAt, scanSepByAt, if_neg takes_items]
    simp only [Slicing.andThen, Slicing.attempt, found, Option.map_some, Option.bind_some, looped]

theorem reads_no_items
    (item separator : Parser)
    {bounds : Bounds}
    {before : Ledger}
    (none : bounds.max = some 0 ∨
      ∃ middle, scanAt search input item start before = some (none, middle)) :
    ∃ result after,
      scanAt search input (.sepBy item separator bounds) start before = some (result, after) ∧
        ∀ stop, result = some stop → stop.value = .array [] := by
  rw [scanAt, scanSepByAt]
  by_cases no_item : bounds.max = some 0
  · rw [if_pos no_item]
    refine ⟨_, _, rfl, ?_⟩
    rintro stop ⟨⟩
    rfl
  · rcases none.resolve_left no_item with ⟨middle, missing⟩
    rw [if_neg no_item]
    simp only [Slicing.andThen, Slicing.attempt, missing, Option.map_some, Option.bind_some]
    split_ifs with none_needed
    · refine ⟨_, _, rfl, ?_⟩
      rintro stop ⟨⟩
      rfl
    · exact ⟨_, _, rfl, by simp⟩

/--
From every boundary of an input on, every parser answers, and so do its repetitions and its
lists, the loops of which end in time.
-/
theorem endsInTime
    [Pattern.Engine]
    (sound : search.Sound)
    (parser : Parser)
    (boundary : Text.IsBoundary input start)
    (before : Ledger) :
    EndsInTime search input parser start before where
  answers := by
    rcases mirrors_scanAt sound parser boundary before with ⟨result, after, done, answers⟩
    exact ⟨result, after, done, answers.mirrored⟩
  repetition bounds := repeatsInTime sound parser bounds boundary before
  list separator bounds first middle takes_items found :=
    listsInTime sound parser separator takes_items boundary found
  no_items separator bounds none := reads_no_items parser separator none

/-- Lists of nothings repeated again and again, behind a character of two bytes. -/
theorem endsInTime_of_nothings :
    Pattern.range?.Sound ∧ Text.IsBoundary ['é', 'a'] 2 ∧
      EndsInTime Pattern.range? ['é', 'a']
        (.repetition (.sepBy (.or (.text "a") (.constant .null)) (.constant .null) {}) {}) 2
        { record := .startingAt 0 } :=
  ⟨Pattern.sound_range?, by decide, endsInTime Pattern.sound_range? _ (by decide) _⟩

end Parser

end ParserGraph

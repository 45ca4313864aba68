import ParserGraph.Proofs.Parser.Boundaries

/-!
# Scans behind other text

What a scan answers depends on what is left of the input and on nothing in front of it.  A
scan behind other text gives the values that it gives without that text, and it stops and
fails further on by the length of that text.  The search for patterns may be any function
of the text that it is given, and faults are among the answers.
-/

namespace ParserGraph

/-! ## Answers further on -/

/-- The same failures, further on. -/
def FailureRecord.shifted (distance : Nat) (record : FailureRecord) : FailureRecord :=
  { record with furthest := distance + record.furthest }

theorem FailureRecord.shifted_fail
    {distance : Nat}
    (record : FailureRecord)
    (offset : Nat)
    (label : String) :
    (record.fail offset label).shifted distance =
      (record.shifted distance).fail (distance + offset) label := by
  have further : distance + record.furthest < distance + offset ↔ record.furthest < offset :=
    Nat.add_lt_add_iff_left
  have level : distance + offset = distance + record.furthest ↔ offset = record.furthest :=
    Nat.add_left_cancel_iff
  simp only [fail, shifted, further, level]
  split_ifs <;> rfl

/-- The same failures, further on. -/
def Ledger.shifted (distance : Nat) (ledger : Ledger) : Ledger :=
  { record := ledger.record.shifted distance, offsets := ledger.offsets.map (distance + ·) }

namespace Ledger

variable {distance : Nat}

theorem shifted_fail (ledger : Ledger) (offset : Nat) (label : String) :
    (ledger.fail offset label).shifted distance =
      (ledger.shifted distance).fail (distance + offset) label := by
  simp [shifted, fail, FailureRecord.shifted_fail]

theorem shifted_failAll (ledger : Ledger) (offset : Nat) (labels : List String) :
    (ledger.failAll offset labels).shifted distance =
      (ledger.shifted distance).failAll (distance + offset) labels := by
  induction labels generalizing ledger with
  | nil => rfl
  | cons label rest hypothesis =>
      rw [failAll, List.foldl_cons, ← failAll, hypothesis, shifted_fail]
      rfl

end Ledger

/-- The same value, further on. -/
def Stop.shifted (distance : Nat) (stop : Stop) : Stop :=
  { stop with offset := distance + stop.offset }

/-- The same values, further on. -/
def Stops.shifted (distance : Nat) (stops : Stops) : Stops :=
  { stops with offset := distance + stops.offset }

/-- The same value, further on with as much left. -/
def Reading.shifted (distance : Nat) (reading : Reading) : Reading :=
  { reading with cursor.offset := distance + reading.cursor.offset }

namespace Slicing

/-! ## Steps further on -/

/--
An answer is another one further on: it gives what that one gives, moved, and from a
ledger further on it leaves a ledger further on.
-/
structure Shifted {Result : Type}
    (distance : Nat)
    (move : Result → Result)
    (before earlier : Ledger)
    (answer other : Option Result × Ledger) : Prop where
  result : answer.1 = other.1.map move
  ledger : before = earlier.shifted distance → answer.2 = other.2.shifted distance

/-- From any two ledgers a step is at fault if another one is, and answers the same further on. -/
def Shifts {Result : Type}
    (distance : Nat)
    (move : Result → Result)
    (step other : Slicing Result) : Prop :=
  ∀ before earlier,
    Option.Rel (Shifted distance move before earlier) (step before) (other earlier)

variable {First Second Result : Type} {distance : Nat}

/-- Answers from ledgers that were left further on count as answers from the first ledgers. -/
theorem Shifted.from
    {move : Result → Result}
    {before earlier middle reached : Ledger}
    {answer other : Option (Option Result × Ledger)}
    (answers : Option.Rel (Shifted distance move middle reached) answer other)
    (left : before = earlier.shifted distance → middle = reached.shifted distance) :
    Option.Rel (Shifted distance move before earlier) answer other := by
  cases answers with
  | none => exact .none
  | some shifted => exact .some ⟨shifted.result, fun start => shifted.ledger (left start)⟩

theorem shifts_succeed
    {move : Result → Result}
    {result other : Result}
    (moved : result = move other) :
    Shifts distance move (.succeed result) (.succeed other) :=
  fun _ _ => .some ⟨congrArg some moved, id⟩

theorem shifts_giveUp {move : Result → Result} : Shifts distance move .giveUp .giveUp :=
  fun _ _ => .some ⟨rfl, id⟩

theorem shifts_fail {move : Result → Result} (offset : Nat) (label : String) :
    Shifts distance move (.fail (distance + offset) label) (.fail offset label) := by
  intro before earlier
  refine .some ⟨rfl, ?_⟩
  rintro rfl
  exact (Ledger.shifted_fail earlier offset label).symm

/-- A slice is not moved, and where there is none both steps are at fault. -/
theorem shifts_cut (slice : Option Result) : Shifts distance id (.cut slice) (.cut slice) := by
  intro before earlier
  cases slice with
  | none => exact .none
  | some result => exact .some ⟨rfl, id⟩

/-- Where there is no slice, both steps are at fault. -/
theorem shifts_cut_none {move : Result → Result} :
    Shifts distance move (.cut none) (.cut none) :=
  fun _ _ => .none

/-- Both steps are at fault, or both answer and the answers tell how they are moved. -/
theorem Shifts.fault_or_answers
    {move : Result → Result}
    {step other : Slicing Result}
    (shifts : Shifts distance move step other)
    (before earlier : Ledger) :
    (step before = none ∧ other earlier = none) ∨
      ∃ given after left,
        step before = some (given.map move, after) ∧ other earlier = some (given, left) ∧
          (before = earlier.shifted distance → after = left.shifted distance) := by
  have answers := shifts before earlier
  generalize step before = answer at answers ⊢
  generalize other earlier = answerOther at answers ⊢
  cases answers with
  | none => exact Or.inl ⟨rfl, rfl⟩
  | @some answer answerOther shifted =>
      rcases answer with ⟨result, after⟩
      rcases answerOther with ⟨given, left⟩
      rcases shifted with ⟨moved, further⟩
      cases moved
      exact Or.inr ⟨given, after, left, rfl, rfl, further⟩

namespace Shifts

theorem andThen
    {firstMove : First → First}
    {move : Second → Second}
    {first firstOther : Slicing First}
    {second secondOther : First → Slicing Second}
    (start : Shifts distance firstMove first firstOther)
    (onwards : ∀ result,
      Shifts distance move (second (firstMove result)) (secondOther result)) :
    Shifts distance move (first.andThen second) (firstOther.andThen secondOther) := by
  intro before earlier
  rw [Slicing.andThen, Slicing.andThen]
  rcases start.fault_or_answers before earlier with
    ⟨fault, faultOther⟩ | ⟨given, middle, reached, done, doneOther, further⟩
  · rw [fault, faultOther]
    exact .none
  · rw [done, doneOther]
    cases given with
    | none => exact .some ⟨rfl, further⟩
    | some given => exact Shifted.from (onwards given middle reached) further

theorem orElse
    {move : Result → Result}
    {first second firstOther secondOther : Slicing Result}
    (start : Shifts distance move first firstOther)
    (next : Shifts distance move second secondOther) :
    Shifts distance move (first.orElse second) (firstOther.orElse secondOther) := by
  intro before earlier
  rw [Slicing.orElse, Slicing.orElse]
  rcases start.fault_or_answers before earlier with
    ⟨fault, faultOther⟩ | ⟨given, middle, reached, done, doneOther, further⟩
  · rw [fault, faultOther]
    exact .none
  · rw [done, doneOther]
    cases given with
    | none => exact Shifted.from (next middle reached) further
    | some given => exact .some ⟨rfl, further⟩

theorem attempt
    {move : Result → Result}
    {step other : Slicing Result}
    (shifts : Shifts distance move step other) :
    Shifts distance (Option.map move) (.attempt step) (.attempt other) := by
  intro before earlier
  rw [Slicing.attempt, Slicing.attempt]
  rcases shifts.fault_or_answers before earlier with
    ⟨fault, faultOther⟩ | ⟨given, after, left, done, doneOther, further⟩
  · rw [fault, faultOther]
    exact .none
  · rw [done, doneOther]
    exact .some ⟨rfl, further⟩

/-- The record that a label gives its step is moved, too. -/
theorem labelled
    {move : Result → Result}
    {step other : Slicing Result}
    (shifts : Shifts distance move step other)
    (offset : Nat)
    (label : String) :
    Shifts distance move (step.labelled (distance + offset) label)
      (other.labelled offset label) := by
  intro before earlier
  rw [Slicing.labelled, Slicing.labelled]
  rcases shifts.fault_or_answers { before with record := .startingAt (distance + offset) }
    { earlier with record := .startingAt offset } with
    ⟨fault, faultOther⟩ | ⟨given, inner, innerOther, done, doneOther, further⟩
  · rw [fault, faultOther]
    exact .none
  · rw [done, doneOther]
    -- The step starts from records of its own, so only the ledgers around them must match.
    have moved : before = earlier.shifted distance → inner = innerOther.shifted distance := by
      rintro rfl
      exact further rfl
    cases given with
    | none =>
        refine .some ⟨rfl, ?_⟩
        rintro rfl
        cases moved rfl
        exact (Ledger.shifted_fail { innerOther with record := earlier.record }
          innerOther.record.furthest label).symm
    | some given =>
        refine .some ⟨rfl, ?_⟩
        rintro rfl
        cases moved rfl
        exact (Ledger.shifted_failAll { innerOther with record := earlier.record }
          innerOther.record.furthest innerOther.record.expected.labels).symm

/-- Whatever the ledgers are, both steps give the same, moved. -/
theorem results
    {move : Result → Result}
    {step other : Slicing Result}
    (shifts : Shifts distance move step other)
    (before earlier : Ledger) :
    (step before).map Prod.fst = (other earlier).map fun answer => answer.1.map move := by
  rcases shifts.fault_or_answers before earlier with
    ⟨fault, faultOther⟩ | ⟨given, after, left, done, doneOther, _⟩
  · rw [fault, faultOther]
    rfl
  · rw [done, doneOther]
    rfl

/-- From a ledger further on a step gives and leaves the same, moved. -/
theorem answer
    {move : Result → Result}
    {step other : Slicing Result}
    (shifts : Shifts distance move step other)
    (earlier : Ledger) :
    step (earlier.shifted distance) =
      (other earlier).map (Prod.map (Option.map move) (Ledger.shifted distance)) := by
  rcases shifts.fault_or_answers (earlier.shifted distance) earlier with
    ⟨fault, faultOther⟩ | ⟨given, after, left, done, doneOther, further⟩
  · rw [fault, faultOther]
    rfl
  · rw [done, doneOther, further rfl]
    rfl

end Shifts

/-! ## Scans further on -/

/-- From every offset on, a step does what another one does from in front of a distance on. -/
def Moves (distance : Nat) (step other : Nat → Slicing Stop) : Prop :=
  ∀ offset, Shifts distance (Stop.shifted distance) (step (distance + offset)) (other offset)

variable {step other : Nat → Slicing Stop}

namespace Moves

theorem optional
    (moves : Moves distance step other)
    (offset : Nat) :
    Shifts distance (distance + ·) (Parser.scanOptionalAt step (distance + offset))
      (Parser.scanOptionalAt other offset) := by
  refine (moves offset).attempt.andThen fun result => shifts_succeed ?_
  cases result <;> rfl

theorem separated
    {item itemOther separator separatorOther : Nat → Slicing Stop}
    (items : Moves distance item itemOther)
    (separators : Moves distance separator separatorOther) :
    Moves distance (Parser.scanSeparatedAt item separator)
      (Parser.scanSeparatedAt itemOther separatorOther) :=
  fun offset => (separators offset).andThen fun stop => items stop.offset

/-- Standing still, going on and leaving the input are told apart by what is left of it. -/
theorem again
    {front : List Char}
    (back : List Char)
    (moves : Moves (Text.byteLength front) step other)
    (limit : Option Nat)
    (offset : Nat) :
    Shifts (Text.byteLength front) (Stops.shifted (Text.byteLength front))
      (Slicing.again (front ++ back) step limit (Text.byteLength front + offset))
      (Slicing.again back other limit offset) := by
  induction left : Text.byteLength back - offset using Nat.strongRecOn
    generalizing limit offset with
  | ind length hypothesis =>
      rw [Slicing.again, Slicing.again]
      split_ifs with none_more
      · exact shifts_succeed rfl
      · refine (moves offset).attempt.andThen fun result => ?_
        cases result with
        | none => exact shifts_succeed rfl
        | some stop =>
            have still : (stop.shifted (Text.byteLength front)).offset =
                Text.byteLength front + offset ↔ stop.offset = offset :=
              Nat.add_left_cancel_iff
            have ahead : Text.byteLength front + offset <
                (stop.shifted (Text.byteLength front)).offset ↔ offset < stop.offset :=
              Nat.add_lt_add_iff_left
            have inside : (stop.shifted (Text.byteLength front)).offset ≤
                Text.byteLength (front ++ back) ↔ stop.offset ≤ Text.byteLength back := by
              rw [Text.byteLength_append]
              exact Nat.add_le_add_iff_left
            simp only [Option.map_some, still, ahead, inside]
            split_ifs with stays further
            · exact shifts_succeed rfl
            · have onwards := hypothesis _ (by omega) (limit.map (· - 1)) stop.offset rfl
              exact onwards.andThen fun stops => shifts_succeed rfl
            · exact shifts_cut_none

end Moves

theorem shifts_atLeast (stops : Stops) (min : Nat) (noun : String) :
    Shifts distance (Stop.shifted distance) ((stops.shifted distance).atLeast min noun)
      (stops.atLeast min noun) := by
  have values : (stops.shifted distance).values = stops.values := rfl
  have failed : (stops.shifted distance).failed = stops.failed := rfl
  rw [Stops.atLeast, Stops.atLeast, values, failed]
  split_ifs with enough ended
  · exact shifts_succeed rfl
  · exact shifts_giveUp
  · exact shifts_fail stops.offset _

end Slicing

namespace Parser

open Slicing

variable {search : Search} {front back : List Char}

theorem moves_scanTextAt (literal : String) :
    Moves (Text.byteLength front) (scanTextAt (front ++ back) literal)
      (scanTextAt back literal) := by
  intro offset
  rw [scanTextAt, scanTextAt, Text.sliceFrom?_append_add]
  refine (shifts_cut _).andThen fun rest => ?_
  rw [id]
  split_ifs with stands
  · refine shifts_succeed ?_
    rw [Stop.shifted, Nat.add_assoc]
  · exact shifts_fail offset _

/-- The search is given what is left, which is the same. -/
theorem moves_scanPatternAt (matcher : Pattern) :
    Moves (Text.byteLength front) (scanPatternAt search (front ++ back) matcher)
      (scanPatternAt search back matcher) := by
  intro offset
  rw [scanPatternAt, scanPatternAt, Text.sliceFrom?_append_add]
  refine (shifts_cut _).andThen fun rest => ?_
  rw [id]
  cases search matcher rest with
  | none => exact shifts_fail offset _
  | some place =>
      refine (shifts_cut _).andThen fun matched => shifts_succeed ?_
      rw [Stop.shifted, Nat.add_assoc]
      rfl

theorem moves_scanSepByAt
    {item itemOther separator separatorOther : Nat → Slicing Stop}
    (items : Moves (Text.byteLength front) item itemOther)
    (separators : Moves (Text.byteLength front) separator separatorOther)
    (bounds : Bounds) :
    Moves (Text.byteLength front) (scanSepByAt (front ++ back) item separator bounds)
      (scanSepByAt back itemOther separatorOther bounds) := by
  intro offset
  rw [scanSepByAt, scanSepByAt]
  by_cases no_item : bounds.max = some 0
  · rw [if_pos no_item, if_pos no_item]
    exact shifts_succeed rfl
  · rw [if_neg no_item, if_neg no_item]
    refine (items offset).attempt.andThen fun result => ?_
    cases result with
    | none =>
        simp only [Option.map_none]
        split_ifs with none_needed
        · exact shifts_succeed rfl
        · exact shifts_giveUp
    | some first =>
        have further := (items.separated separators).again back (bounds.max.map (· - 1))
          first.offset
        refine further.andThen fun stops => ?_
        exact shifts_atLeast (stops.precededBy first.value) bounds.min "items"

/-- A scan of the parser behind the front does what it does without it. -/
def MovesBehind (search : Search) (front back : List Char) (parser : Parser) : Prop :=
  Moves (Text.byteLength front) (scanAt search (front ++ back) parser) (scanAt search back parser)

variable {first second : Parser}

theorem movesBehind_combinePair
    (firsts : first.MovesBehind search front back)
    (seconds : second.MovesBehind search front back)
    (operator : PairOperator) :
    (operator.combine first second).MovesBehind search front back := by
  intro offset
  cases operator with
  | and | skip =>
      refine (firsts offset).andThen fun left => ?_
      refine (seconds left.offset).andThen fun right => ?_
      exact shifts_succeed rfl
  | or =>
      exact (firsts offset).orElse (seconds offset)
  | next =>
      exact (firsts offset).andThen fun left => seconds left.offset
  | trim =>
      have trimmed := seconds.optional
      refine (trimmed offset).andThen fun start => ?_
      refine (firsts start).andThen fun stop => ?_
      refine (trimmed stop.offset).andThen fun last => ?_
      exact shifts_succeed rfl

theorem movesBehind_wrap
    {after : Option Parser}
    (befores : first.MovesBehind search front back)
    (contents : second.MovesBehind search front back)
    (afters : ∀ closing ∈ after, closing.MovesBehind search front back) :
    (wrap first second after).MovesBehind search front back := by
  intro offset
  cases after with
  | none =>
      exact (befores offset).andThen fun opening => contents opening.offset
  | some after =>
      refine (befores offset).andThen fun opening => ?_
      refine (contents opening.offset).andThen fun stop => ?_
      refine (afters after rfl stop.offset).andThen fun closing => ?_
      exact shifts_succeed rfl

theorem shifts_scanAllAt
    {parsers : List Parser}
    (all : ∀ parser ∈ parsers, parser.MovesBehind search front back)
    (offset : Nat) :
    Shifts (Text.byteLength front) (Stops.shifted (Text.byteLength front))
      (scanAllAt search (front ++ back) parsers (Text.byteLength front + offset))
      (scanAllAt search back parsers offset) := by
  induction parsers generalizing offset with
  | nil =>
      exact shifts_succeed rfl
  | cons parser rest hypothesis =>
      rcases List.forall_mem_cons.1 all with ⟨heads, rests⟩
      refine (heads offset).andThen fun stop => ?_
      refine (hypothesis rests stop.offset).andThen fun stops => ?_
      exact shifts_succeed rfl

theorem moves_scanChoiceAt
    {parsers : List Parser}
    (all : ∀ parser ∈ parsers, parser.MovesBehind search front back) :
    Moves (Text.byteLength front) (scanChoiceAt search (front ++ back) parsers)
      (scanChoiceAt search back parsers) := by
  intro offset
  induction parsers with
  | nil =>
      exact shifts_giveUp
  | cons parser rest hypothesis =>
      rcases List.forall_mem_cons.1 all with ⟨heads, rests⟩
      exact (heads offset).orElse (hypothesis rests)

theorem movesBehind_combineSeries
    {parsers : List Parser}
    (all : ∀ parser ∈ parsers, parser.MovesBehind search front back)
    (operator : SeriesOperator) :
    (operator.combine parsers).MovesBehind search front back := by
  intro offset
  cases operator with
  | all =>
      exact (shifts_scanAllAt all offset).andThen fun stops => shifts_succeed rfl
  | choice =>
      exact moves_scanChoiceAt all offset

/-- A scan behind other text does what it does without that text. -/
theorem moves_scanAt (parser : Parser) : parser.MovesBehind search front back := by
  induction parser using induction_on_operations with
  | text literal =>
      intro offset
      exact moves_scanTextAt literal offset
  | pattern matcher =>
      intro offset
      exact moves_scanPatternAt matcher offset
  | constant value =>
      intro offset
      exact shifts_succeed rfl
  | pair operator _ _ firsts seconds => exact movesBehind_combinePair firsts seconds operator
  | sepBy item separator bounds items separators =>
      intro offset
      exact moves_scanSepByAt items separators bounds offset
  | wrap _ _ _ befores contents afters => exact movesBehind_wrap befores contents afters
  | series operator _ all => exact movesBehind_combineSeries all operator
  | repetition inner bounds inners =>
      intro offset
      have steps := inners.again back bounds.max offset
      exact steps.andThen fun stops => shifts_atLeast stops bounds.min "repetitions"
  | map inner transform inners =>
      intro offset
      exact (inners offset).andThen fun stop => shifts_succeed rfl
  | label inner name inners =>
      intro offset
      exact (inners offset).labelled offset name

theorem reading_shifted (front back : List Char) (stop : Stop) :
    (stop.shifted (Text.byteLength front)).reading (front ++ back) =
      (stop.reading back).shifted (Text.byteLength front) := by
  simp only [Stop.reading, Stop.shifted, Reading.shifted, Cursor.ofOffset,
    Text.sliceFrom?_append_add]

/-- Behind other text a scan on cursors reads the same, further on. -/
theorem scan_shifted
    [Pattern.Engine]
    (parser : Parser)
    (front back : List Char)
    (record : FailureRecord) :
    scan parser { offset := Text.byteLength front, rest := back }
        (record.shifted (Text.byteLength front)) =
      Prod.map (Option.map (Reading.shifted (Text.byteLength front)))
        (FailureRecord.shifted (Text.byteLength front))
        (scan parser { offset := 0, rest := back } record) := by
  have boundary : Text.IsBoundary (front ++ back) (Text.byteLength front) :=
    Text.isBoundary_iff.2 ⟨front, back, rfl, rfl⟩
  rcases mirrors_scanAt Pattern.sound_range? parser boundary
    (Ledger.shifted (Text.byteLength front) { record }) with ⟨result, after, done, answers⟩
  rcases mirrors_scanAt Pattern.sound_range? parser (Text.isBoundary_zero back) { record } with
    ⟨other, left, doneAlone, answersAlone⟩
  have moves : Moves (Text.byteLength front) (scanAt Pattern.range? (front ++ back) parser)
      (scanAt Pattern.range? back parser) := moves_scanAt parser
  have moved := (moves 0).answer { record }
  rw [Nat.add_zero, done, doneAlone] at moved
  cases moved
  have started : Cursor.ofOffset back 0 = { offset := 0, rest := back } :=
    Cursor.ofOffset_append [] back
  have reached : Cursor.ofOffset (front ++ back) (Text.byteLength front) =
      { offset := Text.byteLength front, rest := back } := Cursor.ofOffset_append front back
  have scanned := answers.mirrored rfl
  have scannedAlone := answersAlone.mirrored rfl
  rw [reached] at scanned
  rw [started] at scannedAlone
  rw [scannedAlone]
  refine scanned.trans ?_
  simp only [Prod.map, Option.map_map, Function.comp_def, reading_shifted]
  rfl

/--
Behind other text a scan gives the values that it gives without that text.  Whatever the
ledgers are, it is at fault if it is without the text, and else stops further on by the
length of the text.  From a ledger that is further on by that length it leaves one that is.
With the parsers' own search this is what the scan on cursors does, so from records in
which nothing is expected yet it leaves the same expectations, further on.
-/
theorem scanAt_behind_other_text
    [Pattern.Engine]
    (search : Search)
    (parser : Parser)
    (front back : String) :
    let distance := Text.byteLength front.toList
    let behind := scanAt search (front ++ back).toList parser distance
    let alone := scanAt search back.toList parser 0
    (∀ before earlier,
      (behind before).map Prod.fst =
        (alone earlier).map fun answer => answer.1.map (Stop.shifted distance)) ∧
    (∀ earlier,
      behind (earlier.shifted distance) =
        (alone earlier).map
          (Prod.map (Option.map (Stop.shifted distance)) (Ledger.shifted distance))) ∧
    scan parser (.ofOffset (front ++ back).toList distance) (.startingAt distance) =
      Prod.map (Option.map (Reading.shifted distance)) (FailureRecord.shifted distance)
        (scan parser (.start back) (.startingAt 0)) := by
  intro distance behind alone
  have moves : Moves distance (scanAt search (front ++ back).toList parser)
      (scanAt search back.toList parser) := by
    rw [String.toList_append]
    exact moves_scanAt parser
  refine ⟨(moves 0).results, (moves 0).answer, ?_⟩
  have scanned := scan_shifted parser front.toList back.toList (.startingAt 0)
  rw [String.toList_append, Cursor.ofOffset_append]
  exact scanned

end Parser

end ParserGraph

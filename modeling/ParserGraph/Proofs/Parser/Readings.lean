import ParserGraph.Proofs.Parser.Loops

/-!
# Readings

What a parser reads from a place on, by what the parsers inside it read, without regard to
what fails on the way.  The loops of repetitions and lists go through rounds: a round starts
where the one in front of it ended, and the first round that fails or reads nothing ends the
loop.  A repetition takes as many rounds as it may, and a list does so behind its first item.
-/

namespace ParserGraph

namespace Parser

variable [Pattern.Engine]

/-! ## Single parsers -/

theorem reads?_eq_result (parser : Parser) (cursor : Cursor) :
    parser.reads? cursor = (evaluateLeniently parser cursor).result := by
  rw [reads?, follows_evaluateLeniently]

theorem reads?_text (literal : String) (cursor : Cursor) :
    (text literal).reads? cursor =
      if literal.toList.isPrefixOf cursor.rest then
        some
          { value := .text literal
            cursor := cursor.behind literal.toList (cursor.rest.drop literal.toList.length) }
      else
        none := by
  rw [reads?_eq_result, evaluateLeniently, evaluateWith, evaluateText]
  split_ifs <;> rfl

theorem reads?_pattern (matcher : Pattern) (cursor : Cursor) :
    (pattern matcher).reads? cursor =
      (Pattern.Engine.search? matcher cursor.rest).map fun found =>
        { value := .text (String.ofList found.matched)
          cursor := cursor.behind (found.skipped ++ found.matched) found.rest } := by
  rw [reads?_eq_result, evaluateLeniently, evaluateWith, evaluatePattern]
  cases Pattern.Engine.search? matcher cursor.rest <;> rfl

theorem reads?_and (first second : Parser) (cursor : Cursor) :
    (and first second).reads? cursor =
      (first.reads? cursor).bind fun left =>
        (second.reads? left.cursor).map fun right =>
          { value := .array [left.value, right.value], cursor := right.cursor } := by
  simp only [reads?_eq_result, evaluateLeniently, evaluateWith, Trace.result_andThen,
    Option.map_eq_bind]
  rfl

theorem reads?_or (first second : Parser) (cursor : Cursor) :
    (or first second).reads? cursor = (first.reads? cursor).or (second.reads? cursor) := by
  simp only [reads?_eq_result, evaluateLeniently, evaluateWith, Trace.result_orElse]

theorem reads?_label (inner : Parser) (name : String) (cursor : Cursor) :
    (label inner name).reads? cursor = inner.reads? cursor := by
  simp only [reads?_eq_result, evaluateLeniently, evaluateWith, Trace.result_labelled]

/-- What parsers read one behind the other. -/
def readAll? : List Parser → Cursor → Option Series
  | [], cursor => some { values := [], cursor, failed := false }
  | parser :: rest, cursor =>
      (parser.reads? cursor).bind fun reading =>
        (readAll? rest reading.cursor).map (Series.precededBy reading.value)

theorem reads?_all (parsers : List Parser) (cursor : Cursor) :
    (all parsers).reads? cursor =
      (readAll? parsers cursor).map fun series =>
        { value := .array series.values, cursor := series.cursor } := by
  have listed : ∀ cursor, readAll? parsers cursor =
      (evaluateAll (fun _ cursor => .succeed { value := .array [], cursor }) parsers
        cursor).result := by
    induction parsers with
    | nil => exact fun _ => by rw [readAll?, evaluateAll]; rfl
    | cons parser rest hypothesis =>
        intro cursor
        simp only [readAll?, evaluateAll, Trace.result_andThen, hypothesis, reads?_eq_result,
          Option.map_eq_bind]
        rfl
  simp only [reads?_eq_result, evaluateLeniently, evaluateWith, Trace.result_andThen, listed,
    Option.map_eq_bind]
  rfl

theorem reads?_choice (parsers : List Parser) (cursor : Cursor) :
    (choice parsers).reads? cursor = parsers.findSome? (reads? · cursor) := by
  rw [reads?_eq_result, evaluateLeniently, evaluateWith]
  induction parsers with
  | nil =>
      rw [evaluateChoice]
      rfl
  | cons parser rest hypothesis =>
      rw [evaluateChoice, Trace.result_orElse, hypothesis, List.findSome?_cons,
        reads?_eq_result, evaluateLeniently]
      cases (evaluateWith _ parser cursor).result <;> rfl

/-! ## Rounds -/

/-- Readings one behind the other: each is read where the one in front of it ended. -/
inductive Consecutive (parser : Parser) : Cursor → List Reading → Prop where
  | nil (cursor : Cursor) : Consecutive parser cursor []
  | cons {cursor : Cursor} {reading : Reading} {further : List Reading} :
      parser.reads? cursor = some reading → Consecutive parser reading.cursor further →
      Consecutive parser cursor (reading :: further)

theorem Consecutive.take
    {parser : Parser}
    {cursor : Cursor}
    {readings : List Reading}
    (consecutive : parser.Consecutive cursor readings)
    (count : Nat) :
    parser.Consecutive cursor (readings.take count) := by
  induction consecutive generalizing count with
  | nil cursor =>
      rw [List.take_nil]
      exact .nil cursor
  | cons reads _ hypothesis =>
      cases count with
      | zero => exact .nil _
      | succ count => exact .cons reads (hypothesis count)

/-- What a parser reads again and again, until it fails or reads nothing. -/
def rounds (parser : Parser) (cursor : Cursor) : List Reading :=
  match parser.reads? cursor with
  | none => []
  | some reading =>
      if _shorter : reading.cursor.rest.length < cursor.rest.length then
        reading :: rounds parser reading.cursor
      else
        [reading]
termination_by cursor.rest.length

theorem consecutive_rounds (parser : Parser) (cursor : Cursor) :
    parser.Consecutive cursor (parser.rounds cursor) := by
  induction left : cursor.rest.length using Nat.strongRecOn generalizing cursor with
  | ind length hypothesis =>
      rw [rounds]
      cases found : parser.reads? cursor with
      | none => exact .nil cursor
      | some reading =>
          simp only
          split_ifs with shorter
          · exact .cons found (hypothesis _ (left ▸ shorter) reading.cursor rfl)
          · exact .cons found (.nil _)

/-- What a list reads as its items: a first item, and then rounds of a separator with an item. -/
def listed (item separator : Parser) (cursor : Cursor) : List Reading :=
  match item.reads? cursor with
  | none => []
  | some first => first :: (next separator item).rounds first.cursor

end Parser

/-- The place behind the last reading, or where the first one would have started. -/
def Reading.endOf (cursor : Cursor) (readings : List Reading) : Cursor :=
  (readings.getLast?.map Reading.cursor).getD cursor

@[simp]
theorem Reading.endOf_nil (cursor : Cursor) : endOf cursor [] = cursor :=
  rfl

@[simp]
theorem Reading.endOf_cons (cursor : Cursor) (reading : Reading) (further : List Reading) :
    endOf cursor (reading :: further) = endOf reading.cursor further := by
  cases further with
  | nil => rfl
  | cons next others => simp [endOf, List.getLast?_eq_some_getLast]

/-- The array of all values, up to the end of the last reading. -/
def Reading.collected (cursor : Cursor) (readings : List Reading) : Reading :=
  { value := .array (readings.map Reading.value), cursor := endOf cursor readings }

/-- The first readings, as many as a greatest number lets through. -/
def Reading.upTo (max : Option Nat) (readings : List Reading) : List Reading :=
  readings.take (max.getD readings.length)

namespace Reading

@[simp]
theorem upTo_nil (max : Option Nat) : upTo max [] = [] :=
  List.take_nil

theorem upTo_zero (readings : List Reading) : upTo (some 0) readings = [] :=
  rfl

/-- Behind a first reading there is room for one less. -/
theorem upTo_cons
    {max : Option Nat}
    (room : max ≠ some 0)
    (reading : Reading)
    (further : List Reading) :
    upTo max (reading :: further) = reading :: upTo (max.map (· - 1)) further := by
  cases max with
  | none => simp [upTo]
  | some most =>
      cases most with
      | zero => exact absurd rfl room
      | succ most => rfl

end Reading

open Reading in
/-- A loop reads its rounds, as many as it may. -/
theorem Scan.exists_again_eq
    [Pattern.Engine]
    (parser : Parser)
    (limit : Option Nat)
    (cursor : Cursor)
    (record : FailureRecord) :
    ∃ series last, again (Parser.scan parser) limit cursor record = (some series, last) ∧
      series.values = (upTo limit (parser.rounds cursor)).map Reading.value ∧
      series.cursor = endOf cursor (upTo limit (parser.rounds cursor)) := by
  induction left : cursor.rest.length using Nat.strongRecOn generalizing limit cursor record with
  | ind length hypothesis =>
      rw [again, Parser.rounds]
      by_cases no_room : limit = some 0
      · rw [if_pos no_room, no_room, upTo_zero]
        exact ⟨_, _, rfl, rfl, rfl⟩
      · rw [if_neg no_room]
        have reads := Parser.fst_scan parser cursor record
        simp only [andThen, attempt]
        rcases found : Parser.scan parser cursor record with ⟨_ | reading, next⟩
        · rw [found] at reads
          rw [← reads, upTo_nil]
          exact ⟨_, _, rfl, rfl, rfl⟩
        · rw [found] at reads
          simp only [← reads]
          split_ifs with shorter
          · rcases hypothesis _ (left ▸ shorter) (limit.map (· - 1)) reading.cursor next rfl with
              ⟨series, last, looped, values, stop⟩
            rw [upTo_cons no_room, endOf_cons, ← stop]
            refine ⟨series.precededBy reading.value, last, andThen_of_eq looped _, ?_, rfl⟩
            rw [Series.precededBy, values, List.map_cons]
          · rw [upTo_cons no_room, upTo_nil]
            exact ⟨_, _, rfl, rfl, rfl⟩

namespace Parser

open Reading

variable [Pattern.Engine]

/-- A repetition reads its rounds, as many as it may, if those are enough. -/
theorem reads?_repetition (inner : Parser) (bounds : Bounds) (cursor : Cursor) :
    (repetition inner bounds).reads? cursor =
      if bounds.min ≤ (upTo bounds.max (inner.rounds cursor)).length then
        some (collected cursor (upTo bounds.max (inner.rounds cursor)))
      else
        none := by
  rcases Scan.exists_again_eq inner bounds.max cursor (.startingAt cursor.offset) with
    ⟨series, last, looped, values, stop⟩
  rw [reads?, scan_repetition_eq, Scan.andThen_of_eq looped, Series.fst_atLeast, values, stop,
    List.length_map]
  rfl

/-- A list that may take an item reads its items, as many as it may, if those are enough. -/
theorem reads?_sepBy
    (item separator : Parser)
    {bounds : Bounds}
    (takes_items : bounds.max ≠ some 0)
    (cursor : Cursor) :
    (sepBy item separator bounds).reads? cursor =
      if bounds.min ≤ (upTo bounds.max (item.listed separator cursor)).length then
        some (collected cursor (upTo bounds.max (item.listed separator cursor)))
      else
        none := by
  rcases exists_reads?_sepBy item separator takes_items cursor with ⟨record, list⟩
  rw [list, listed]
  cases found : item.reads? cursor with
  | none => simp [collected]
  | some first =>
      have pair : scan (.next separator item) = Scan.separated (scan item) (scan separator) := by
        funext place
        rw [scan, Scan.separated]
      rcases Scan.exists_again_eq (.next separator item) (bounds.max.map (· - 1)) first.cursor
        record with ⟨series, last, looped, values, stop⟩
      rw [pair] at looped
      simp only
      rw [Scan.collect_eq_again, Scan.andThen_assoc, List.length_singleton,
        Scan.andThen_of_eq looped, Scan.succeed_andThen, Series.fst_atLeast, upTo_cons takes_items]
      simp [Series.after, collected, values, stop]

end Parser

end ParserGraph

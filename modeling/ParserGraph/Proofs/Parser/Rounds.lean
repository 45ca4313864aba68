import Mathlib.Tactic.SplitIfs
import ParserGraph.Parser.Scan

/-!
# Rounds of loops

The loops of repetitions and lists collect their values as they go.  Both are one
recursion that collects nothing: a step again and again, of which each takes one from
the number that is left and puts its value in front of the others.  For a list the step
is a separator with an item behind it.
-/

namespace ParserGraph

namespace Series

/-- The values that were read before, and those of the series. -/
def after (before : List Value) (series : Series) : Series :=
  { series with values := before ++ series.values }

end Series

namespace Scan

variable {First Second Third : Type}

@[simp]
theorem succeed_andThen (result : First) (next : First → Scan Second) :
    (succeed result).andThen next = next result :=
  rfl

theorem andThen_of_eq
    {first : Scan First}
    {record last : FailureRecord}
    {result : First}
    (given : first record = (some result, last))
    (next : First → Scan Second) :
    first.andThen next record = next result last := by
  rw [andThen, given]

theorem andThen_assoc
    (first : Scan First)
    (second : First → Scan Second)
    (third : Second → Scan Third) :
    (first.andThen second).andThen third =
      first.andThen fun result => (second result).andThen third := by
  funext record
  simp only [andThen]
  rcases first record with ⟨_ | result, after⟩ <;> rfl

/-- An attempt at two steps is an attempt at each, of which the first may end it. -/
theorem attempt_andThen
    (first : Scan First)
    (second : First → Scan Second)
    (next : Option Second → Scan Third) :
    (attempt (first.andThen second)).andThen next =
      (attempt first).andThen fun result =>
        match result with
        | none => next none
        | some result => (attempt (second result)).andThen next := by
  funext record
  simp only [andThen, attempt]
  rcases first record with ⟨_ | result, after⟩ <;> rfl

/--
A step again and again, up to a number of times, until it fails.  A step that
reads nothing is the last one, as nothing more could be read.
-/
def again
    (step : Cursor → Scan Reading)
    (limit : Option Nat)
    (cursor : Cursor) :
    Scan Series :=
  if limit = some 0 then
    .succeed { values := [], cursor, failed := false }
  else
    (attempt (step cursor)).andThen fun result =>
      match result with
      | none => .succeed { values := [], cursor, failed := true }
      | some reading =>
          if _shorter : reading.cursor.rest.length < cursor.rest.length then
            (again step (limit.map (· - 1)) reading.cursor).andThen fun series =>
              .succeed (series.precededBy reading.value)
          else
            .succeed { values := [reading.value], cursor := reading.cursor, failed := false }
termination_by cursor.rest.length

/-- A separator and an item behind it; the value is the item's. -/
def separated (item separator : Cursor → Scan Reading) (cursor : Cursor) : Scan Reading :=
  (separator cursor).andThen fun reading => item reading.cursor

/-- The two attempts of a list's loop are one attempt at a separator with an item behind it. -/
theorem collectItems_eq_collect
    (item separator : Cursor → Scan Reading)
    (max : Option Nat)
    (values : List Value)
    (cursor : Cursor) :
    collectItems item separator max values cursor =
      collect (separated item separator) max values cursor := by
  induction left : cursor.rest.length using Nat.strongRecOn generalizing values cursor with
  | ind length hypothesis =>
      rw [collectItems, collect]
      split_ifs with room
      · rw [separated, attempt_andThen]
        congr 1
        funext opening
        cases opening with
        | none => rfl
        | some opening =>
            simp only
            congr 1
            funext result
            cases result with
            | none => rfl
            | some reading =>
                simp only
                split_ifs with shorter
                · exact hypothesis _ (left ▸ shorter) _ reading.cursor rfl
                · rfl
      · rfl

theorem hasRoom_iff (max : Option Nat) (values : List Value) :
    hasRoom max values = true ↔ max.map (· - values.length) ≠ some 0 := by
  cases max <;> simp [hasRoom]; omega

/-- A loop that has collected values goes on as one that starts anew with the room that is left. -/
theorem collect_eq_again
    (step : Cursor → Scan Reading)
    (max : Option Nat)
    (values : List Value)
    (cursor : Cursor) :
    collect step max values cursor =
      (again step (max.map (· - values.length)) cursor).andThen fun series =>
        .succeed (series.after values) := by
  induction left : cursor.rest.length using Nat.strongRecOn generalizing values cursor with
  | ind length hypothesis =>
      rw [collect, again]
      by_cases room : hasRoom max values = true
      · rw [if_pos room, if_neg ((hasRoom_iff max values).1 room), andThen_assoc]
        congr 1
        funext result
        cases result with
        | none => simp [Series.after]
        | some reading =>
            simp only
            split_ifs with shorter
            · rw [hypothesis _ (left ▸ shorter) _ reading.cursor rfl, andThen_assoc]
              simp [Series.after, Series.precededBy, Nat.sub_sub, Function.comp_def]
            · simp [Series.after]
      · rw [if_neg room, if_pos (by simpa [hasRoom_iff] using room)]
        simp [Series.after]

/-- With one value collected, a loop does what it does without it and with room for one less. -/
theorem collect_singleton
    (step : Cursor → Scan Reading)
    (max : Option Nat)
    (value : Value)
    (cursor : Cursor) :
    collect step max [value] cursor =
      (collect step (max.map (· - 1)) [] cursor).andThen fun series =>
        .succeed (series.precededBy value) := by
  rw [collect_eq_again, collect_eq_again, andThen_assoc]
  simp [Series.after, Series.precededBy, Function.comp_def]

end Scan

namespace Parser

/-- A repetition is a step again and again, and a check of the number of values. -/
theorem scan_repetition_eq
    [Pattern.Engine]
    (inner : Parser)
    (bounds : Bounds)
    (cursor : Cursor) :
    scan (.repetition inner bounds) cursor =
      (Scan.again (scan inner) bounds.max cursor).andThen fun series =>
        series.atLeast bounds.min "repetitions" := by
  rw [scan, Scan.collect_eq_again, Scan.andThen_assoc]
  simp [Series.after]

/-- A list is an item, further ones behind separators, and a check of the number of values. -/
theorem scanSepBy_eq
    (item separator : Cursor → Scan Reading)
    (bounds : Bounds)
    (cursor : Cursor) :
    scanSepBy item separator bounds cursor =
      if bounds.max = some 0 then
        .succeed { value := .array [], cursor }
      else
        (Scan.attempt (item cursor)).andThen fun result =>
          match result with
          | none =>
              if bounds.min = 0 then .succeed { value := .array [], cursor } else .giveUp
          | some first =>
              (Scan.again (Scan.separated item separator) (bounds.max.map (· - 1))
                first.cursor).andThen fun series =>
                  (series.precededBy first.value).atLeast bounds.min "items" := by
  rw [scanSepBy]
  congr 2
  funext result
  cases result with
  | none => rfl
  | some first =>
      simp only
      rw [Scan.collectItems_eq_collect, Scan.collect_eq_again, Scan.andThen_assoc]
      simp [Series.after, Series.precededBy]

end Parser

end ParserGraph

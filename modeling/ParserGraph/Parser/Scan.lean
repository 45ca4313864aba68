import ParserGraph.Outcome
import ParserGraph.Parser.Basic
import ParserGraph.Text.Quoted

/-!
# Scanning

A parser is run from a place of the input on.  A step either succeeds, with a
value and the place that it reached, or fails.  Failures are kept in a record: the
furthest offset at which something failed, and all that was expected there.
-/

namespace ParserGraph

/-- A place in an input and what is left from there on. -/
structure Cursor where
  /-- The bytes in front of the place. -/
  offset : Nat
  rest : List Char
deriving DecidableEq, Repr

namespace Cursor

def start (input : String) : Cursor :=
  { offset := 0, rest := input.toList }

/-- The place behind some characters, given what is left there. -/
def behind (cursor : Cursor) (passed rest : List Char) : Cursor :=
  { offset := cursor.offset + Text.byteLength passed, rest }

end Cursor

/-- The furthest failures of a scan so far. -/
structure FailureRecord where
  /-- The furthest offset of a failure, or where the scan started. -/
  furthest : Nat
  expected : Expectations
deriving DecidableEq

namespace FailureRecord

/-- A record without failures, from an offset on. -/
def startingAt (offset : Nat) : FailureRecord :=
  { furthest := offset, expected := .empty }

/--
A failure is recorded: one further on replaces the record, one at the furthest
offset adds its label, and one in front of it is ignored.
-/
def fail (record : FailureRecord) (offset : Nat) (label : String) : FailureRecord :=
  if record.furthest < offset then
    { furthest := offset, expected := .insert label .empty }
  else if offset = record.furthest then
    { record with expected := record.expected.insert label }
  else
    record

def failAll (record : FailureRecord) (offset : Nat) (labels : List String) : FailureRecord :=
  labels.foldl (fun record label => record.fail offset label) record

end FailureRecord

/-- A step of a scan: it may give something, and it changes the record of failures. -/
abbrev Scan (Result : Type) := FailureRecord → Option Result × FailureRecord

namespace Scan

variable {First Second Result : Type}

/-- Succeeds without reading. -/
def succeed (result : Result) : Scan Result := fun record =>
  (some result, record)

/-- Fails, as a label was expected at an offset. -/
def fail (offset : Nat) (label : String) : Scan Result := fun record =>
  (none, record.fail offset label)

/-- Fails without an expectation. -/
def giveUp : Scan Result := fun record =>
  (none, record)

/-- One step and then another that goes on from its result. -/
def andThen (first : Scan First) (second : First → Scan Second) : Scan Second := fun record =>
  match first record with
  | (some result, record) => second result record
  | (none, record) => (none, record)

/-- One step, or another if it fails. -/
def orElse (first second : Scan Result) : Scan Result := fun record =>
  match first record with
  | (some result, record) => (some result, record)
  | (none, record) => second record

/-- A step whose failure is a result, too. -/
def attempt (step : Scan First) : Scan (Option First) := fun record =>
  match step record with
  | (result, record) => (some result, record)

/--
A step with a record of its own.  If it fails, only a label is expected at the
furthest place it failed at; if it succeeds, its failures are recorded as they are.
-/
def labelled (offset : Nat) (label : String) (step : Scan Result) : Scan Result := fun record =>
  match step (.startingAt offset) with
  | (some result, inner) =>
      (some result, record.failAll inner.furthest inner.expected.labels)
  | (none, inner) => (none, record.fail inner.furthest label)

end Scan

/-- A value and the place behind what it was read from. -/
structure Reading where
  value : Value
  /-- The place that was reached. -/
  cursor : Cursor

/-- The values of a repetition, the place behind them, and why it ended. -/
structure Series where
  values : List Value
  /-- The place that was reached. -/
  cursor : Cursor
  /-- The repetition ended because a step failed. -/
  failed : Bool

namespace Series

def precededBy (value : Value) (series : Series) : Series :=
  { series with values := value :: series.values }

/-- The array of the values, if there are enough; otherwise more were expected. -/
def atLeast (series : Series) (min : Nat) (noun : String) : Scan Reading :=
  if min ≤ series.values.length then
    .succeed { value := .array series.values, cursor := series.cursor }
  else if series.failed then
    .giveUp
  else
    .fail series.cursor.offset s!"at least {min} {noun}"

end Series

namespace Scan

/-- The greatest number, if there is one, leaves room for one more value. -/
def hasRoom (max : Option Nat) (values : List Value) : Bool :=
  max.all (values.length < ·)

/--
The loop of a repetition, with the values that it has collected.  It goes on while
there is room, and ends when a step fails or reads nothing.
-/
def collect
    (step : Cursor → Scan Reading)
    (max : Option Nat)
    (values : List Value)
    (cursor : Cursor) :
    Scan Series :=
  if hasRoom max values then
    (attempt (step cursor)).andThen fun result =>
      match result with
      | none => .succeed { values, cursor, failed := true }
      | some reading =>
          if _shorter : reading.cursor.rest.length < cursor.rest.length then
            collect step max (values ++ [reading.value]) reading.cursor
          else
            .succeed
              { values := values ++ [reading.value], cursor := reading.cursor, failed := false }
  else
    .succeed { values, cursor, failed := false }
termination_by cursor.rest.length

/--
The loop of a list, with the values that it has collected, the first one among them.
It makes two attempts, at a separator and at the item behind it, and measures what
was read from the end of the item in front.
-/
def collectItems
    (item separator : Cursor → Scan Reading)
    (max : Option Nat)
    (values : List Value)
    (cursor : Cursor) :
    Scan Series :=
  if hasRoom max values then
    (attempt (separator cursor)).andThen fun opening =>
      match opening with
      | none => .succeed { values, cursor, failed := true }
      | some opening =>
          -- A separator without an item behind it is left where it stands.
          (attempt (item opening.cursor)).andThen fun result =>
            match result with
            | none => .succeed { values, cursor, failed := true }
            | some reading =>
                if _shorter : reading.cursor.rest.length < cursor.rest.length then
                  collectItems item separator max (values ++ [reading.value]) reading.cursor
                else
                  .succeed
                    { values := values ++ [reading.value]
                      cursor := reading.cursor
                      failed := false }
  else
    .succeed { values, cursor, failed := false }
termination_by cursor.rest.length

end Scan

namespace Parser

/-- A literal is read if it stands at the place. -/
def scanText (literal : String) (cursor : Cursor) : Scan Reading :=
  let characters := literal.toList
  if characters.isPrefixOf cursor.rest then
    .succeed
      { value := .text literal
        cursor := cursor.behind characters (cursor.rest.drop characters.length) }
  else
    .fail cursor.offset (Text.quoted literal)

/-- The first match of a pattern is read, with all that stands in front of it. -/
def scanPattern [Pattern.Engine] (pattern : Pattern) (cursor : Cursor) : Scan Reading :=
  match Pattern.Engine.search? pattern cursor.rest with
  | some found =>
      .succeed
        { value := .text (String.ofList found.matched)
          cursor := cursor.behind (found.skipped ++ found.matched) found.rest }
  | none => .fail cursor.offset pattern.label

/-- Something that is read if it is there; the place behind it. -/
def scanOptional (step : Cursor → Scan Reading) (cursor : Cursor) : Scan Cursor :=
  (Scan.attempt (step cursor)).andThen fun result =>
    .succeed ((result.map Reading.cursor).getD cursor)

/-- Items with separators between them, and none if the greatest number is zero. -/
def scanSepBy
    (item separator : Cursor → Scan Reading)
    (bounds : Bounds)
    (cursor : Cursor) :
    Scan Reading :=
  if bounds.max = some 0 then
    .succeed { value := .array [], cursor }
  else
    (Scan.attempt (item cursor)).andThen fun result =>
      match result with
      | none =>
          if bounds.min = 0 then .succeed { value := .array [], cursor } else .giveUp
      | some first =>
          (Scan.collectItems item separator bounds.max [first.value] first.cursor).andThen
            fun series => series.atLeast bounds.min "items"

/-- What a run expects that must read the whole input, where it stopped short. -/
def endOfInput : String := "<EOF>"

/-- The whole input must be read. -/
def scanToEnd (reading : Reading) : Scan Reading :=
  if reading.cursor.rest.isEmpty then
    .succeed reading
  else
    .fail reading.cursor.offset endOfInput

/-- The outcome of a step from the start of an input. -/
def outcomeOf (input : String) (step : Scan Reading) : Outcome :=
  match step (.startingAt 0) with
  | (some reading, _) => .success reading.value reading.cursor.offset
  | (none, record) =>
      .failure { expected := record.expected, position := .locate input record.furthest }

section Running

variable [Pattern.Engine]

mutual

/-- A parser is run from a place on. -/
def scan : Parser → Cursor → Scan Reading
  | .text literal, cursor => scanText literal cursor
  | .pattern matcher, cursor => scanPattern matcher cursor
  | .constant value, cursor => .succeed { value, cursor }
  | .and first second, cursor =>
      (scan first cursor).andThen fun left =>
        (scan second left.cursor).andThen fun right =>
          .succeed { value := .array [left.value, right.value], cursor := right.cursor }
  | .or first second, cursor => (scan first cursor).orElse (scan second cursor)
  | .next first second, cursor =>
      (scan first cursor).andThen fun left => scan second left.cursor
  | .skip first second, cursor =>
      (scan first cursor).andThen fun left =>
        (scan second left.cursor).andThen fun right =>
          .succeed { value := left.value, cursor := right.cursor }
  | .trim content trimmer, cursor =>
      (scanOptional (scan trimmer) cursor).andThen fun start =>
        (scan content start).andThen fun reading =>
          (scanOptional (scan trimmer) reading.cursor).andThen fun stop =>
            .succeed { value := reading.value, cursor := stop }
  | .sepBy item separator bounds, cursor =>
      scanSepBy (scan item) (scan separator) bounds cursor
  | .wrap before content none, cursor =>
      (scan before cursor).andThen fun opening => scan content opening.cursor
  | .wrap before content (some after), cursor =>
      (scan before cursor).andThen fun opening =>
        (scan content opening.cursor).andThen fun reading =>
          (scan after reading.cursor).andThen fun closing =>
            .succeed { value := reading.value, cursor := closing.cursor }
  | .all parsers, cursor =>
      (scanAll parsers cursor).andThen fun series =>
        .succeed { value := .array series.values, cursor := series.cursor }
  | .choice parsers, cursor => scanChoice parsers cursor
  | .repetition inner bounds, cursor =>
      (Scan.collect (scan inner) bounds.max [] cursor).andThen fun series =>
        series.atLeast bounds.min "repetitions"
  | .map inner transform, cursor =>
      (scan inner cursor).andThen fun reading =>
        .succeed { reading with value := transform.apply reading.value }
  | .label inner name, cursor => (scan inner cursor).labelled cursor.offset name

/-- Parsers are run one behind the other. -/
def scanAll : List Parser → Cursor → Scan Series
  | [], cursor => .succeed { values := [], cursor, failed := false }
  | parser :: rest, cursor =>
      (scan parser cursor).andThen fun reading =>
        (scanAll rest reading.cursor).andThen fun series =>
          .succeed (series.precededBy reading.value)

/-- Parsers are tried from the same place until one matches. -/
def scanChoice : List Parser → Cursor → Scan Reading
  | [], _ => .giveUp
  | parser :: rest, cursor => (scan parser cursor).orElse (scanChoice rest cursor)

end

/-- The parser matches the start of an input. -/
def run (parser : Parser) (input : String) : Outcome :=
  outcomeOf input (scan parser (.start input))

/-- The parser matches the whole of an input. -/
def parse (parser : Parser) (input : String) : Outcome :=
  outcomeOf input ((scan parser (.start input)).andThen scanToEnd)

end Running

end Parser

end ParserGraph

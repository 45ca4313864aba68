import ParserGraph.Proofs.Parser.Rounds
import ParserGraph.Proofs.Text.Slices

/-!
# Scanning by offsets

A scan that knows places by their byte offsets alone has to cut the input again at every
step, and a cut inside a character or beyond the end is a fault.  Such a scan is given
here beside the one on cursors.  It notes every offset that it records a failure at, and
it takes the search for patterns as a parameter: a function that tells where in a text
the first match lies.
-/

namespace ParserGraph

/-- A search for the first match of a pattern: the offsets of its start and its end. -/
abbrev Search := Pattern → List Char → Option (Nat × Nat)

/-- Matches are ranges of the text, cut between characters. -/
def Search.Sound (search : Search) : Prop :=
  ∀ pattern text first last, search pattern text = some (first, last) →
    first ≤ last ∧ Text.IsBoundary text first ∧ Text.IsBoundary text last

/-- The range of the first match in a text. -/
def Pattern.range? [Pattern.Engine] : Search := fun pattern text =>
  (Pattern.Engine.search? pattern text).map fun found =>
    (Text.byteLength found.skipped, Text.byteLength (found.skipped ++ found.matched))

theorem Pattern.sound_range? [Pattern.Engine] : Search.Sound Pattern.range? := by
  intro pattern text first last ranged
  rcases Option.map_eq_some_iff.1 ranged with ⟨found, matched, place⟩
  cases place
  have whole := Pattern.Engine.search?_append matched
  refine ⟨by simp, ?_, ?_⟩
  · exact Text.isBoundary_iff.2 ⟨_, _, whole, rfl⟩
  · exact Text.isBoundary_iff.2 ⟨_, found.rest, by rw [← whole, List.append_assoc], rfl⟩

namespace Search

/-- Parsers may run with any sound search: a match is cut out of the text at its offsets. -/
@[reducible]
def engine (search : Search) (sound : search.Sound) : Pattern.Engine where
  search? pattern text :=
    (search pattern text).map fun (first, last) =>
      let skipped := Text.charactersWithin text first
      let passed := Text.charactersWithin text last
      { skipped, matched := passed.drop skipped.length, rest := text.drop passed.length }
  search?_append := by
    intro pattern text found matched
    rcases Option.map_eq_some_iff.1 matched with ⟨⟨first, last⟩, searched, rfl⟩
    rcases sound pattern text first last searched with ⟨ordered, starts, stops⟩
    rcases Text.exists_append_of_isBoundary ordered starts stops with
      ⟨front, middle, back, rfl, rfl, rfl⟩
    have skipped := Text.charactersWithin_append front (middle ++ back)
    have passed := Text.charactersWithin_append (front ++ middle) back
    rw [List.append_assoc] at passed
    have behind : (front ++ (middle ++ back)).drop (front ++ middle).length = back := by
      rw [← List.append_assoc, List.drop_left]
    simp only [skipped, passed, List.drop_left, behind]

/-- The matches that parsers then find are where the search finds them. -/
theorem range?_engine (search : Search) (sound : search.Sound) :
    @Pattern.range? (search.engine sound) = search := by
  funext pattern text
  change Option.map _ (Option.map _ (search pattern text)) = search pattern text
  cases searched : search pattern text with
  | none => rfl
  | some place =>
      rcases place with ⟨first, last⟩
      rcases sound pattern text first last searched with ⟨ordered, starts, stops⟩
      rcases Text.exists_append_of_isBoundary ordered starts stops with
        ⟨front, middle, back, rfl, rfl, rfl⟩
      have skipped := Text.charactersWithin_append front (middle ++ back)
      have passed := Text.charactersWithin_append (front ++ middle) back
      rw [List.append_assoc] at passed
      simp only [Option.map_some, skipped, passed, List.drop_left]

end Search

/-- The failures of a scan: the record of them, and the offset of each one so far. -/
structure Ledger where
  record : FailureRecord
  offsets : List Nat := []
deriving DecidableEq

namespace Ledger

def fail (ledger : Ledger) (offset : Nat) (label : String) : Ledger :=
  { record := ledger.record.fail offset label, offsets := ledger.offsets ++ [offset] }

def failAll (ledger : Ledger) (offset : Nat) (labels : List String) : Ledger :=
  labels.foldl (fun ledger label => ledger.fail offset label) ledger

@[simp]
theorem record_failAll (ledger : Ledger) (offset : Nat) (labels : List String) :
    (ledger.failAll offset labels).record = ledger.record.failAll offset labels := by
  induction labels generalizing ledger with
  | nil => rfl
  | cons label rest hypothesis => exact hypothesis (ledger.fail offset label)

@[simp]
theorem offsets_failAll (ledger : Ledger) (offset : Nat) (labels : List String) :
    (ledger.failAll offset labels).offsets =
      ledger.offsets ++ List.replicate labels.length offset := by
  induction labels generalizing ledger with
  | nil => simp [failAll]
  | cons label rest hypothesis =>
      refine (hypothesis (ledger.fail offset label)).trans ?_
      rw [fail, List.append_assoc]
      rfl

end Ledger

/-- A step of a scan by offsets: none is a fault, and otherwise it may give something. -/
abbrev Slicing (Result : Type) := Ledger → Option (Option Result × Ledger)

namespace Slicing

variable {First Second Result : Type}

def succeed (result : Result) : Slicing Result := fun ledger =>
  some (some result, ledger)

def fail (offset : Nat) (label : String) : Slicing Result := fun ledger =>
  some (none, ledger.fail offset label)

/-- Fails without an expectation. -/
def giveUp : Slicing Result := fun ledger =>
  some (none, ledger)

/-- A slice, which is a fault if there is none. -/
def cut (slice : Option Result) : Slicing Result := fun ledger =>
  slice.map fun result => (some result, ledger)

def andThen (first : Slicing First) (second : First → Slicing Second) : Slicing Second :=
  fun ledger =>
    (first ledger).bind fun
      | (some result, ledger) => second result ledger
      | (none, ledger) => some (none, ledger)

def orElse (first second : Slicing Result) : Slicing Result := fun ledger =>
  (first ledger).bind fun
    | (some result, ledger) => some (some result, ledger)
    | (none, ledger) => second ledger

/-- A step whose failure is a result, too. -/
def attempt (step : Slicing First) : Slicing (Option First) := fun ledger =>
  (step ledger).map fun (result, ledger) => (some result, ledger)

/-- A step with a record of its own, of which the label is what is expected if it fails. -/
def labelled (offset : Nat) (label : String) (step : Slicing Result) : Slicing Result :=
  fun ledger =>
    (step { ledger with record := .startingAt offset }).map fun
      | (some result, inner) =>
          (some result, { inner with record := ledger.record }.failAll inner.record.furthest
            inner.record.expected.labels)
      | (none, inner) =>
          (none, { inner with record := ledger.record }.fail inner.record.furthest label)

@[simp]
theorem cut_some_andThen (slice : First) (next : First → Slicing Second) :
    (cut (some slice)).andThen next = next slice := rfl

end Slicing

/-- A value and the offset behind what it was read from. -/
structure Stop where
  value : Value
  offset : Nat

/-- The values of a repetition, the offset behind them, and whether a step failed at the end. -/
structure Stops where
  values : List Value
  offset : Nat
  failed : Bool

namespace Stops

def precededBy (value : Value) (stops : Stops) : Stops :=
  { stops with values := value :: stops.values }

def atLeast (stops : Stops) (min : Nat) (noun : String) : Slicing Stop :=
  if min ≤ stops.values.length then
    .succeed { value := .array stops.values, offset := stops.offset }
  else if stops.failed then
    .giveUp
  else
    .fail stops.offset s!"at least {min} {noun}"

end Stops

/--
A step again and again until it fails or stands still.  To go back or beyond the end of
the input is a fault, without which the loop could go on for ever.
-/
def Slicing.again
    (input : List Char)
    (step : Nat → Slicing Stop)
    (limit : Option Nat)
    (offset : Nat) :
    Slicing Stops :=
  if limit = some 0 then
    .succeed { values := [], offset, failed := false }
  else
    (Slicing.attempt (step offset)).andThen fun result =>
      match result with
      | none => .succeed { values := [], offset, failed := true }
      | some stop =>
          if stop.offset = offset then
            .succeed { values := [stop.value], offset := stop.offset, failed := false }
          else if _further : offset < stop.offset ∧ stop.offset ≤ Text.byteLength input then
            (Slicing.again input step (limit.map (· - 1)) stop.offset).andThen fun stops =>
              .succeed (stops.precededBy stop.value)
          else
            .cut none
termination_by Text.byteLength input - offset

namespace Parser

section Offsets

variable (search : Search) (input : List Char)

def scanTextAt (literal : String) (offset : Nat) : Slicing Stop :=
  (Slicing.cut (Text.sliceFrom? input offset)).andThen fun rest =>
    if literal.toList.isPrefixOf rest then
      .succeed { value := .text literal, offset := offset + Text.byteLength literal.toList }
    else
      .fail offset (Text.quoted literal)

def scanPatternAt (pattern : Pattern) (offset : Nat) : Slicing Stop :=
  (Slicing.cut (Text.sliceFrom? input offset)).andThen fun rest =>
    match search pattern rest with
    | some (first, last) =>
        (Slicing.cut (Text.slice? rest first last)).andThen fun matched =>
          .succeed { value := .text (String.ofList matched), offset := offset + last }
    | none => .fail offset pattern.label

/-- Something that is read if it is there; the offset behind it. -/
def scanOptionalAt (step : Nat → Slicing Stop) (offset : Nat) : Slicing Nat :=
  (Slicing.attempt (step offset)).andThen fun result =>
    .succeed ((result.map Stop.offset).getD offset)

/-- A separator and an item behind it. -/
def scanSeparatedAt (item separator : Nat → Slicing Stop) (offset : Nat) : Slicing Stop :=
  (separator offset).andThen fun stop => item stop.offset

def scanSepByAt
    (item separator : Nat → Slicing Stop)
    (bounds : Bounds)
    (offset : Nat) :
    Slicing Stop :=
  if bounds.max = some 0 then
    .succeed { value := .array [], offset }
  else
    (Slicing.attempt (item offset)).andThen fun result =>
      match result with
      | none =>
          if bounds.min = 0 then .succeed { value := .array [], offset } else .giveUp
      | some first =>
          (Slicing.again input (scanSeparatedAt item separator) (bounds.max.map (· - 1))
            first.offset).andThen fun stops =>
              (stops.precededBy first.value).atLeast bounds.min "items"

mutual

/-- A parser is run from an offset on. -/
def scanAt : Parser → Nat → Slicing Stop
  | .text literal, offset => scanTextAt input literal offset
  | .pattern matcher, offset => scanPatternAt search input matcher offset
  | .constant value, offset => .succeed { value, offset }
  | .and first second, offset =>
      (scanAt first offset).andThen fun left =>
        (scanAt second left.offset).andThen fun right =>
          .succeed { value := .array [left.value, right.value], offset := right.offset }
  | .or first second, offset => (scanAt first offset).orElse (scanAt second offset)
  | .next first second, offset =>
      (scanAt first offset).andThen fun left => scanAt second left.offset
  | .skip first second, offset =>
      (scanAt first offset).andThen fun left =>
        (scanAt second left.offset).andThen fun right =>
          .succeed { value := left.value, offset := right.offset }
  | .trim content trimmer, offset =>
      (scanOptionalAt (scanAt trimmer) offset).andThen fun start =>
        (scanAt content start).andThen fun stop =>
          (scanOptionalAt (scanAt trimmer) stop.offset).andThen fun last =>
            .succeed { value := stop.value, offset := last }
  | .sepBy item separator bounds, offset =>
      scanSepByAt input (scanAt item) (scanAt separator) bounds offset
  | .wrap before content none, offset =>
      (scanAt before offset).andThen fun opening => scanAt content opening.offset
  | .wrap before content (some after), offset =>
      (scanAt before offset).andThen fun opening =>
        (scanAt content opening.offset).andThen fun stop =>
          (scanAt after stop.offset).andThen fun closing =>
            .succeed { value := stop.value, offset := closing.offset }
  | .all parsers, offset =>
      (scanAllAt parsers offset).andThen fun stops =>
        .succeed { value := .array stops.values, offset := stops.offset }
  | .choice parsers, offset => scanChoiceAt parsers offset
  | .repetition inner bounds, offset =>
      (Slicing.again input (scanAt inner) bounds.max offset).andThen fun stops =>
        stops.atLeast bounds.min "repetitions"
  | .map inner transform, offset =>
      (scanAt inner offset).andThen fun stop =>
        .succeed { stop with value := transform.apply stop.value }
  | .label inner name, offset => (scanAt inner offset).labelled offset name

def scanAllAt : List Parser → Nat → Slicing Stops
  | [], offset => .succeed { values := [], offset, failed := false }
  | parser :: rest, offset =>
      (scanAt parser offset).andThen fun stop =>
        (scanAllAt rest stop.offset).andThen fun stops =>
          .succeed (stops.precededBy stop.value)

def scanChoiceAt : List Parser → Nat → Slicing Stop
  | [], _ => .giveUp
  | parser :: rest, offset => (scanAt parser offset).orElse (scanChoiceAt rest offset)

end

end Offsets

/-- The whole input must be read. -/
def scanToEndAt (input : List Char) (stop : Stop) : Slicing Stop :=
  if stop.offset = Text.byteLength input then .succeed stop else .fail stop.offset endOfInput

/-- The outcome of a step from the start of an input; a failure must be located in it. -/
def outcomeOf? (input : String) (step : Slicing Stop) : Option Outcome :=
  (step { record := .startingAt 0 }).bind fun
    | (some stop, _) => some (.success stop.value stop.offset)
    | (none, ledger) =>
        (Position.locate? input ledger.record.furthest).map fun position =>
          .failure { expected := ledger.record.expected, position }

/-- The outcome of a run by offsets, unless there is a fault. -/
def run? (search : Search) (parser : Parser) (input : String) : Option Outcome :=
  outcomeOf? input (scanAt search input.toList parser 0)

/-- The outcome of a run by offsets that must read the whole input, unless there is a fault. -/
def parse? (search : Search) (parser : Parser) (input : String) : Option Outcome :=
  outcomeOf? input ((scanAt search input.toList parser 0).andThen (scanToEndAt input.toList))

end Parser

end ParserGraph

import ParserGraph.Proofs.Parser.Components
import ParserGraph.Proofs.Parser.Tracking

/-!
# Scans stay between characters

A scan by offsets that starts between two characters never cuts the input elsewhere.
Wherever it stops or records a failure, it does so at its start or further on, within the
input and between two characters.  So there is no fault, and with the parsers' own search
the scan is the one on cursors.

All that is needed of the search for patterns is that its matches are ranges of the text.
-/

namespace ParserGraph

namespace Slicing

variable [Pattern.Engine]
variable {search : Search} {input : List Char}
variable {step item separator : Nat → Slicing Stop}
variable {scan scanItem scanSeparator : Cursor → Scan Reading}

/-- From every boundary on, a step tracks the scan from the place there. -/
def Mirrors
    (search : Search)
    (input : List Char)
    (step : Nat → Slicing Stop)
    (scan : Cursor → Scan Reading) : Prop :=
  ∀ ⦃offset⦄, Text.IsBoundary input offset →
    Tracks search input Stop.offset (Stop.reading input) offset (step offset)
      (scan (.ofOffset input offset))

namespace Mirrors

theorem optional
    (mirrors : Mirrors search input step scan)
    ⦃offset : Nat⦄
    (boundary : Text.IsBoundary input offset) :
    Tracks search input id (Cursor.ofOffset input) offset (Parser.scanOptionalAt step offset)
      (Parser.scanOptional scan (.ofOffset input offset)) := by
  refine ((mirrors boundary).attempt boundary).andThen fun result within => ?_
  apply tracks_succeed
  · exact .refl within.boundary
  · cases result <;> rfl

theorem separated
    (items : Mirrors search input item scanItem)
    (separators : Mirrors search input separator scanSeparator) :
    Mirrors search input (Parser.scanSeparatedAt item separator)
      (Scan.separated scanItem scanSeparator) := by
  intro offset boundary
  exact (separators boundary).andThen fun stop within => items within.boundary

/-- What is left of the input bounds the number of steps. -/
theorem again
    (mirrors : Mirrors search input step scan)
    (limit : Option Nat)
    {offset : Nat}
    (boundary : Text.IsBoundary input offset) :
    Tracks search input Stops.offset (Stops.series input) offset
      (Slicing.again input step limit offset)
      (Scan.again scan limit (.ofOffset input offset)) := by
  induction left : Text.byteLength input - offset using Nat.strongRecOn
    generalizing limit offset with
  | ind length hypothesis =>
      rw [Slicing.again, Scan.again]
      split_ifs with none_more
      · exact tracks_succeed (.refl boundary) rfl
      · refine ((mirrors boundary).attempt boundary).andThen fun result within => ?_
        cases result with
        | none => exact tracks_succeed (.refl boundary) rfl
        | some stop =>
            have shorter := Cursor.length_rest_lt_iff boundary within
            have place : ((some stop).map Stop.offset).getD offset = stop.offset := rfl
            rw [place] at within shorter ⊢
            simp only [Option.map_some, Stop.reading, shorter]
            by_cases still : stop.offset = offset
            · simp only [still, ne_eq, not_true, if_true, dite_false]
              exact tracks_succeed (.refl boundary) rfl
            · have ended := within.boundary.le
              have ahead := within.ahead
              have further : offset < stop.offset ∧ stop.offset ≤ Text.byteLength input := by
                omega
              simp only [dif_pos further, ne_eq, still, not_false_eq_true, dite_true]
              have onwards := hypothesis _ (by omega) (limit.map (· - 1)) within.boundary rfl
              refine onwards.andThen fun stops beyond => ?_
              exact tracks_succeed (.refl beyond.boundary) rfl

end Mirrors

theorem tracks_atLeast
    {start : Nat}
    (stops : Stops)
    (within : Text.Within input start stops.offset)
    (min : Nat)
    (noun : String) :
    Tracks search input Stop.offset (Stop.reading input) start (stops.atLeast min noun)
      ((stops.series input).atLeast min noun) := by
  have values : (stops.series input).values = stops.values := rfl
  have failed : (stops.series input).failed = stops.failed := rfl
  rw [Stops.atLeast, Series.atLeast, values, failed]
  split_ifs with enough ended
  · exact tracks_succeed within rfl
  · exact tracks_giveUp
  · exact tracks_fail within _

end Slicing

namespace Parser

open Slicing

section Tracks

variable [Pattern.Engine]
variable {search : Search} {input : List Char}

theorem mirrors_scanTextAt (literal : String) :
    Mirrors search input (scanTextAt input literal) (scanText literal) := by
  intro offset boundary
  rcases Text.isBoundary_iff.1 boundary with ⟨front, back, rfl, rfl⟩
  rw [scanTextAt, scanText, Text.sliceFrom?_append, cut_some_andThen, Cursor.ofOffset_append]
  by_cases stands : literal.toList.isPrefixOf back = true
  · rcases List.isPrefixOf_iff_prefix.1 stands with ⟨rest, rfl⟩
    simp only [if_pos stands, List.drop_left]
    rw [← Text.byteLength_append]
    refine tracks_succeed (.behind front _ rest) ?_
    rw [Stop.reading, Cursor.ofOffset_behind, Cursor.ofOffset_append]
  · simp only [if_neg stands]
    exact tracks_fail (.refl boundary) _

/-- A match that the parsers' own search finds is what a scan on cursors reads. -/
theorem scanPattern_eq
    {matcher : Pattern}
    {cursor : Cursor}
    {passed rest matched : List Char}
    {first : Nat}
    (left : cursor.rest = passed ++ rest)
    (searched : matcher.range? cursor.rest = some (first, Text.byteLength passed))
    (sliced : Text.slice? cursor.rest first (Text.byteLength passed) = some matched) :
    scanPattern matcher cursor =
      .succeed
        { value := .text (String.ofList matched), cursor := cursor.behind passed rest } := by
  rcases Option.map_eq_some_iff.1 searched with ⟨found, there, place⟩
  rcases Prod.mk.inj place with ⟨rfl, level⟩
  have whole := Pattern.Engine.search?_append there
  rw [← List.append_assoc, left] at whole
  rcases Text.append_inj_of_byteLength whole level with ⟨rfl, rfl⟩
  rw [left, List.append_assoc, Text.slice?_append] at sliced
  cases sliced
  rw [scanPattern, there]

/-- A match is a slice of what is left, if the search is sound. -/
theorem mirrors_scanPatternAt (sound : search.Sound) (matcher : Pattern) :
    Mirrors search input (scanPatternAt search input matcher) (scanPattern matcher) := by
  intro offset boundary
  rcases Text.isBoundary_iff.1 boundary with ⟨front, back, rfl, rfl⟩
  rw [scanPatternAt, Text.sliceFrom?_append, cut_some_andThen, Cursor.ofOffset_append]
  cases searched : search matcher back with
  | none =>
      refine (tracks_fail (.refl boundary) matcher.label).of_own ?_
      rintro rfl
      have unmatched : Pattern.Engine.search? matcher back = none :=
        Option.map_eq_none_iff.1 searched
      rw [scanPattern, unmatched]
  | some place =>
      rcases place with ⟨first, last⟩
      rcases sound matcher back first last searched with ⟨ordered, starts, stops⟩
      rcases Text.exists_slice?_eq_some ordered starts stops with ⟨matched, sliced⟩
      rcases Text.isBoundary_iff.1 stops with ⟨passed, rest, rfl, rfl⟩
      simp only [sliced, cut_some_andThen]
      rw [← Text.byteLength_append]
      have tracks : Tracks search (front ++ (passed ++ rest)) Stop.offset
          (Stop.reading (front ++ (passed ++ rest))) (Text.byteLength front)
          (.succeed
            { value := .text (String.ofList matched)
              offset := Text.byteLength (front ++ passed) })
          (.succeed
            { value := .text (String.ofList matched)
              cursor := .behind { offset := Text.byteLength front, rest := passed ++ rest }
                passed rest }) := by
        refine tracks_succeed (.behind front passed rest) ?_
        rw [Stop.reading, Cursor.ofOffset_behind, Cursor.ofOffset_append]
      refine tracks.of_own ?_
      rintro rfl
      exact scanPattern_eq rfl searched sliced

theorem mirrors_scanSepByAt
    {item separator : Nat → Slicing Stop}
    {scanItem scanSeparator : Cursor → Scan Reading}
    (items : Mirrors search input item scanItem)
    (separators : Mirrors search input separator scanSeparator)
    (bounds : Bounds) :
    Mirrors search input (scanSepByAt input item separator bounds)
      (scanSepBy scanItem scanSeparator bounds) := by
  intro offset boundary
  rw [scanSepByAt, scanSepBy_eq]
  by_cases no_item : bounds.max = some 0
  · rw [if_pos no_item, if_pos no_item]
    exact tracks_succeed (.refl boundary) rfl
  · rw [if_neg no_item, if_neg no_item]
    refine ((items boundary).attempt boundary).andThen fun result within => ?_
    cases result with
    | none =>
        simp only [Option.map_none]
        split_ifs with none_needed
        · exact tracks_succeed (.refl boundary) rfl
        · exact tracks_giveUp
    | some first =>
        have further := (items.separated separators).again (bounds.max.map (· - 1)) within.boundary
        refine further.andThen fun stops beyond => ?_
        exact tracks_atLeast (stops.precededBy first.value) (.refl beyond.boundary)
          bounds.min "items"

/-- From every boundary on, the scan of the parser by offsets tracks the one on cursors. -/
def Mirrored (search : Search) (input : List Char) (parser : Parser) : Prop :=
  Mirrors search input (scanAt search input parser) (scan parser)

variable {first second : Parser}

theorem mirrored_combinePair
    (firsts : first.Mirrored search input)
    (seconds : second.Mirrored search input)
    (operator : PairOperator) :
    (operator.combine first second).Mirrored search input := by
  intro offset boundary
  cases operator with
  | and | skip =>
      refine (firsts boundary).andThen fun left within => ?_
      refine (seconds within.boundary).andThen fun right beyond => ?_
      exact tracks_succeed (.refl beyond.boundary) rfl
  | or =>
      exact (firsts boundary).orElse (seconds boundary)
  | next =>
      exact (firsts boundary).andThen fun left within => seconds within.boundary
  | trim =>
      have trimmed := seconds.optional
      refine (trimmed boundary).andThen fun start within => ?_
      refine (firsts within.boundary).andThen fun stop beyond => ?_
      refine (trimmed beyond.boundary).andThen fun last behind => ?_
      exact tracks_succeed (.refl behind.boundary) rfl

theorem mirrored_wrap
    {after : Option Parser}
    (befores : first.Mirrored search input)
    (contents : second.Mirrored search input)
    (afters : ∀ closing ∈ after, closing.Mirrored search input) :
    (wrap first second after).Mirrored search input := by
  intro offset boundary
  cases after with
  | none =>
      exact (befores boundary).andThen fun opening within => contents within.boundary
  | some after =>
      refine (befores boundary).andThen fun opening within => ?_
      refine (contents within.boundary).andThen fun stop beyond => ?_
      refine (afters after rfl beyond.boundary).andThen fun closing behind => ?_
      exact tracks_succeed (.refl behind.boundary) rfl

theorem tracks_scanAllAt
    {parsers : List Parser}
    (all : ∀ parser ∈ parsers, parser.Mirrored search input)
    {offset : Nat}
    (boundary : Text.IsBoundary input offset) :
    Tracks search input Stops.offset (Stops.series input) offset
      (scanAllAt search input parsers offset) (scanAll parsers (.ofOffset input offset)) := by
  induction parsers generalizing offset with
  | nil =>
      exact tracks_succeed (.refl boundary) rfl
  | cons parser rest hypothesis =>
      rcases List.forall_mem_cons.1 all with ⟨heads, rests⟩
      refine (heads boundary).andThen fun stop within => ?_
      refine (hypothesis rests within.boundary).andThen fun stops beyond => ?_
      exact tracks_succeed (.refl beyond.boundary) rfl

theorem mirrors_scanChoiceAt
    {parsers : List Parser}
    (all : ∀ parser ∈ parsers, parser.Mirrored search input) :
    Mirrors search input (scanChoiceAt search input parsers) (scanChoice parsers) := by
  intro offset boundary
  induction parsers with
  | nil =>
      exact tracks_giveUp
  | cons parser rest hypothesis =>
      rcases List.forall_mem_cons.1 all with ⟨heads, rests⟩
      exact (heads boundary).orElse (hypothesis rests)

theorem mirrored_combineSeries
    {parsers : List Parser}
    (all : ∀ parser ∈ parsers, parser.Mirrored search input)
    (operator : SeriesOperator) :
    (operator.combine parsers).Mirrored search input := by
  intro offset boundary
  cases operator with
  | all =>
      refine (tracks_scanAllAt all boundary).andThen fun stops within => ?_
      exact tracks_succeed (.refl within.boundary) rfl
  | choice =>
      exact mirrors_scanChoiceAt all boundary

/-- A scan by offsets tracks the scan on cursors. -/
theorem mirrors_scanAt (sound : search.Sound) (parser : Parser) :
    parser.Mirrored search input := by
  induction parser using induction_on_operations with
  | text literal =>
      intro offset boundary
      exact mirrors_scanTextAt literal boundary
  | pattern matcher =>
      intro offset boundary
      exact mirrors_scanPatternAt sound matcher boundary
  | constant value =>
      intro offset boundary
      exact tracks_succeed (.refl boundary) rfl
  | pair operator _ _ firsts seconds => exact mirrored_combinePair firsts seconds operator
  | sepBy item separator bounds items separators =>
      intro offset boundary
      exact mirrors_scanSepByAt items separators bounds boundary
  | wrap _ _ _ befores contents afters => exact mirrored_wrap befores contents afters
  | series operator _ all => exact mirrored_combineSeries all operator
  | repetition inner bounds inners =>
      intro offset boundary
      rw [scan_repetition_eq]
      refine (inners.again bounds.max boundary).andThen fun stops within => ?_
      exact tracks_atLeast stops (.refl within.boundary) bounds.min "repetitions"
  | map inner transform inners =>
      intro offset boundary
      refine (inners boundary).andThen fun stop within => ?_
      exact tracks_succeed (.refl within.boundary) rfl
  | label inner name inners =>
      intro offset boundary
      exact (inners boundary).labelled boundary name

theorem tracks_scanToEndAt
    {stop : Stop}
    (boundary : Text.IsBoundary input stop.offset) :
    Tracks search input Stop.offset (Stop.reading input) stop.offset
      (scanToEndAt input stop) (scanToEnd (stop.reading input)) := by
  have ended : (stop.reading input).cursor.rest.isEmpty = true ↔
      stop.offset = Text.byteLength input := Cursor.rest_isEmpty_iff boundary
  rw [scanToEndAt, scanToEnd]
  by_cases whole : stop.offset = Text.byteLength input
  · rw [if_pos whole, if_pos (ended.2 whole)]
    exact tracks_succeed (.refl boundary) rfl
  · rw [if_neg whole, if_neg (mt ended.1 whole)]
    exact tracks_fail (.refl boundary) endOfInput

/-- From the start of an input on, a scan by offsets tracks the scan on cursors. -/
theorem tracks_scanAt_start (sound : search.Sound) (parser : Parser) (input : String) :
    Tracks search input.toList Stop.offset (Stop.reading input.toList) 0
      (scanAt search input.toList parser 0) (scan parser (.start input)) := by
  have started : Cursor.ofOffset input.toList 0 = .start input :=
    Cursor.ofOffset_append [] input.toList
  exact started ▸ mirrors_scanAt sound parser (Text.isBoundary_zero input.toList)

/-- So it does if the whole input must be read. -/
theorem tracks_scanAt_whole (sound : search.Sound) (parser : Parser) (input : String) :
    Tracks search input.toList Stop.offset (Stop.reading input.toList) 0
      ((scanAt search input.toList parser 0).andThen (scanToEndAt input.toList))
      ((scan parser (.start input)).andThen scanToEnd) :=
  (tracks_scanAt_start sound parser input).andThen fun _ within =>
    tracks_scanToEndAt within.boundary

/-- A failure is recorded between characters, where it can be located. -/
theorem exists_outcomeOf?_eq_some
    {input : String}
    {step : Slicing Stop}
    {scan : Scan Reading}
    (tracks : Tracks search input.toList Stop.offset (Stop.reading input.toList) 0 step scan) :
    ∃ outcome, outcomeOf? input step = some outcome ∧
      (search = Pattern.range? → outcome = outcomeOf input scan) := by
  rcases tracks { record := .startingAt 0 } with ⟨result, after, done, answers⟩
  cases result with
  | some stop =>
      refine ⟨.success stop.value stop.offset, by rw [outcomeOf?, done]; rfl, ?_⟩
      intro own
      rw [outcomeOf, answers.mirrored own]
      rfl
  | none =>
      have boundary : Text.IsBoundary input.toList after.record.furthest := by
        rcases answers.furthest with kept | moved
        · exact kept.symm ▸ Text.isBoundary_zero input.toList
        · exact moved.boundary
      have located : Position.locate? input after.record.furthest =
          some (.locate input after.record.furthest) := by
        rw [Position.locate?, Nat.min_eq_left boundary.le, if_pos boundary]
      refine ⟨.failure
        { expected := after.record.expected
          position := .locate input after.record.furthest }, ?_, ?_⟩
      · rw [outcomeOf?, done]
        simp [located]
      · intro own
        rw [outcomeOf, answers.mirrored own]
        rfl

/--
Scans stay between characters.  From every boundary of an input on, every parser answers
without a fault, and it stops and fails only at boundaries, there or further on.  Neither
to run a parser nor to let it parse is a fault then.  All this with any sound search for
patterns; with the parsers' own one, the answers are those of the scan on cursors.
-/
theorem scanAt_stays_between_characters
    (search : Search)
    (sound : search.Sound)
    (parser : Parser)
    (input : String) :
    (∀ start before, Text.IsBoundary input.toList start →
      ∃ result after later,
        scanAt search input.toList parser start before = some (result, after) ∧
        after.offsets = before.offsets ++ later ∧
        (∀ stop, result = some stop → Text.Within input.toList start stop.offset) ∧
        (∀ offset ∈ later, Text.Within input.toList start offset) ∧
        (search = Pattern.range? →
          scan parser (.ofOffset input.toList start) before.record =
            (result.map (Stop.reading input.toList), after.record))) ∧
    (∃ outcome, run? search parser input = some outcome ∧
      (search = Pattern.range? → outcome = run parser input)) ∧
    (∃ outcome, parse? search parser input = some outcome ∧
      (search = Pattern.range? → outcome = parse parser input)) := by
  have mirrors : Mirrors search input.toList (scanAt search input.toList parser) (scan parser) :=
    mirrors_scanAt sound parser
  refine ⟨?_, ?_, ?_⟩
  · intro start before boundary
    rcases mirrors boundary before with ⟨result, after, done, answers⟩
    rcases answers.offsets with ⟨later, listed, within⟩
    exact ⟨result, after, later, done, listed, answers.reached, within, answers.mirrored⟩
  · exact exists_outcomeOf?_eq_some (tracks_scanAt_start sound parser input)
  · exact exists_outcomeOf?_eq_some (tracks_scanAt_whole sound parser input)

end Tracks

/-- With the parsers' own search, for one, around a character of two bytes. -/
theorem parse?_around_two_bytes :
    Search.Sound Pattern.range? ∧
      ∃ outcome, parse? Pattern.range? (.trim (.text "n") (.text "é")) "éné!" = some outcome ∧
        outcome = parse (.trim (.text "n") (.text "é")) "éné!" := by
  refine ⟨Pattern.sound_range?, ?_⟩
  rcases (scanAt_stays_between_characters Pattern.range? Pattern.sound_range?
    (.trim (.text "n") (.text "é")) "éné!").2.2 with ⟨outcome, parsed, own⟩
  exact ⟨outcome, parsed, own rfl⟩

/-- Whatever sound search parsers run with, they give what scans by offsets give with it. -/
theorem run_eq_of_engine
    {search : Search}
    (sound : search.Sound)
    (parser : Parser)
    (input : String) :
    run? search parser input = some (@run (search.engine sound) parser input) ∧
      parse? search parser input = some (@parse (search.engine sound) parser input) := by
  let engine := search.engine sound
  have own : search = Pattern.range? := (search.range?_engine sound).symm
  rcases exists_outcomeOf?_eq_some (tracks_scanAt_start sound parser input) with
    ⟨outcome, ran, runs⟩
  rcases exists_outcomeOf?_eq_some (tracks_scanAt_whole sound parser input) with
    ⟨other, parsed, parses⟩
  exact ⟨ran.trans (congrArg some (runs own)), parsed.trans (congrArg some (parses own))⟩

end Parser

end ParserGraph

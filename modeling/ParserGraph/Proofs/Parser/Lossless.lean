import ParserGraph.Proofs.Parser.Boundaries
import ParserGraph.Proofs.Parser.Readings
import ParserGraph.Proofs.Pattern.Anchoring

/-!
# Text given back

Texts, pairs, choices, series, repetitions and labels pass over no text without giving it,
and neither do patterns whose matches start where they are tried.  What a parser of these
alone reads, joined, is the text between the place where it started and the place that it
reached.
-/

namespace ParserGraph

/-- The characters lie between two places. -/
def Cursor.Passes (cursor : Cursor) (passed : List Char) (later : Cursor) : Prop :=
  cursor.rest = passed ++ later.rest ∧ later.offset = cursor.offset + Text.byteLength passed

namespace Cursor.Passes

theorem refl (cursor : Cursor) : cursor.Passes [] cursor :=
  ⟨rfl, rfl⟩

theorem trans
    {cursor between later : Cursor}
    {front back : List Char}
    (first : cursor.Passes front between)
    (second : between.Passes back later) :
    cursor.Passes (front ++ back) later := by
  constructor
  · rw [first.1, second.1, List.append_assoc]
  · rw [second.2, first.2, Text.byteLength_append, Nat.add_assoc]

/-- What is left at the later place ends what is left at the place in front. -/
theorem suffix
    {cursor later : Cursor}
    {passed : List Char}
    (passes : cursor.Passes passed later) :
    later.rest <:+ cursor.rest :=
  ⟨passed, passes.1.symm⟩

/-- Between two places of an input lies the slice from one offset to the other. -/
theorem slice?_eq
    {input passed : List Char}
    {start : Nat}
    {later : Cursor}
    (boundary : Text.IsBoundary input start)
    (passes : (Cursor.ofOffset input start).Passes passed later) :
    Text.slice? input start later.offset = some passed := by
  rcases Text.isBoundary_iff.1 boundary with ⟨front, back, rfl, rfl⟩
  rw [ofOffset_append] at passes
  rcases passes with ⟨rfl, stop⟩
  rw [stop, ← Text.byteLength_append, Text.slice?_append]

end Cursor.Passes

/-- In no ending of a text does the pattern match further on without matching at the start. -/
def Pattern.MatchesInPlace [Pattern.Engine] (matcher : Pattern) (text : List Char) : Prop :=
  ∀ rest found, rest <:+ text → Pattern.Engine.search? matcher rest = some found →
    found.skipped = []

namespace Parser

/-- A joined pair is what is joined from its first value and from its second. -/
theorem joined_pair (first second : Value) :
    (Conversion.joined (.array [first, second])).toList =
      (Conversion.joined first).toList ++ (Conversion.joined second).toList := by
  simp [Conversion.joined, Conversion.joinedItems]

section Kept

variable [Pattern.Engine]

/-- The outermost operation gives all that it passes over, and all that its parsers give. -/
def GivesAll (text : List Char) : Parser → Prop
  | .text _ | .and _ _ | .or _ _ | .all _ | .choice _ | .repetition _ _ | .label _ _ => True
  | .pattern matcher => matcher.MatchesInPlace text
  | _ => False

/-- All operations inside give all text of an input that they pass over. -/
def KeepsText (text : List Char) (parser : Parser) : Prop :=
  ∀ part : Parser, part.PartOf parser → part.GivesAll text

theorem KeepsText.component
    {text : List Char}
    {component parser : Parser}
    (keeps : parser.KeepsText text)
    (member : component ∈ parser.components) :
    component.KeepsText text :=
  fun part inside => keeps part (inside.trans (.inside member (.whole component)))

/-- Text is kept if the outermost operation gives all, and the parsers that it combines keep it. -/
theorem keepsText_iff {text : List Char} {parser : Parser} :
    parser.KeepsText text ↔
      parser.GivesAll text ∧ ∀ component ∈ parser.components, component.KeepsText text := by
  constructor
  · exact fun keeps => ⟨keeps parser (.whole parser), fun _ member => keeps.component member⟩
  · rintro ⟨outermost, inside⟩ part within
    cases within with
    | whole => exact outermost
    | inside member further => exact inside _ member part further

theorem keepsText_text (text : List Char) (literal : String) :
    (Parser.text literal).KeepsText text :=
  keepsText_iff.2 ⟨trivial, by simp [components]⟩

/-- What the parser reads within a text is, joined, what it passes over. -/
def Spells (text : List Char) (parser : Parser) : Prop :=
  ∀ cursor reading, cursor.rest <:+ text → parser.reads? cursor = some reading →
    cursor.Passes (Conversion.joined reading.value).toList reading.cursor

variable {text : List Char}

theorem spells_text (literal : String) : (Parser.text literal).Spells text := by
  intro cursor reading _ reads
  rw [reads?_text] at reads
  split_ifs at reads with stands
  cases reads
  rcases List.isPrefixOf_iff_prefix.1 stands with ⟨rest, whole⟩
  rw [Conversion.joined, ← whole, List.drop_left]
  exact ⟨whole.symm, rfl⟩

/-- A pattern passes over what stands in front of its match, and over the match that it gives. -/
theorem passes_of_reads?_pattern
    {matcher : Pattern}
    {cursor : Cursor}
    {reading : Reading}
    (reads : (pattern matcher).reads? cursor = some reading) :
    ∃ found, Pattern.Engine.search? matcher cursor.rest = some found ∧
      reading.value = .text (String.ofList found.matched) ∧
      cursor.Passes (found.skipped ++ found.matched) reading.cursor := by
  rw [reads?_pattern] at reads
  rcases Option.map_eq_some_iff.1 reads with ⟨found, matched, rfl⟩
  refine ⟨found, matched, rfl, ?_, rfl⟩
  rw [List.append_assoc]
  exact (Pattern.Engine.search?_append matched).symm

theorem spells_pattern
    {matcher : Pattern}
    (in_place : matcher.MatchesInPlace text) :
    (pattern matcher).Spells text := by
  intro cursor reading within reads
  rcases passes_of_reads?_pattern reads with ⟨found, matched, value, passes⟩
  rw [in_place cursor.rest found within matched, List.nil_append] at passes
  rw [value, Conversion.joined, String.toList_ofList]
  exact passes

theorem Spells.and
    {first second : Parser}
    (firsts : first.Spells text)
    (seconds : second.Spells text) :
    (Parser.and first second).Spells text := by
  intro cursor reading within reads
  rw [reads?_and] at reads
  rcases Option.bind_eq_some_iff.1 reads with ⟨left, readsFirst, reads⟩
  rcases Option.map_eq_some_iff.1 reads with ⟨right, readsSecond, rfl⟩
  have front := firsts cursor left within readsFirst
  have back := seconds left.cursor right (front.suffix.trans within) readsSecond
  rw [joined_pair]
  exact front.trans back

theorem Spells.or
    {first second : Parser}
    (firsts : first.Spells text)
    (seconds : second.Spells text) :
    (Parser.or first second).Spells text := by
  intro cursor reading within reads
  rw [reads?_or] at reads
  rcases Option.or_eq_some_iff.1 reads with reads | ⟨_, reads⟩
  · exact firsts cursor reading within reads
  · exact seconds cursor reading within reads

theorem Spells.label
    {inner : Parser}
    (inners : inner.Spells text)
    (name : String) :
    (Parser.label inner name).Spells text := by
  intro cursor reading within reads
  rw [reads?_label] at reads
  exact inners cursor reading within reads

/-- Parsers one behind the other pass over what they give one behind the other. -/
theorem passes_of_readAll?
    {parsers : List Parser}
    (spell : ∀ parser ∈ parsers, parser.Spells text)
    {cursor : Cursor}
    (within : cursor.rest <:+ text)
    {series : Series}
    (reads : readAll? parsers cursor = some series) :
    cursor.Passes (Conversion.joinedItems series.values).toList series.cursor := by
  induction parsers generalizing cursor series with
  | nil =>
      rw [readAll?] at reads
      cases reads
      simpa [Conversion.joinedItems] using Cursor.Passes.refl cursor
  | cons parser rest hypothesis =>
      rcases List.forall_mem_cons.1 spell with ⟨spells, others⟩
      rw [readAll?] at reads
      rcases Option.bind_eq_some_iff.1 reads with ⟨reading, readsFirst, reads⟩
      rcases Option.map_eq_some_iff.1 reads with ⟨further, readsRest, rfl⟩
      have front := spells cursor reading within readsFirst
      have back := hypothesis others (front.suffix.trans within) readsRest
      rw [Series.precededBy, Conversion.joinedItems, String.toList_append]
      exact front.trans back

theorem Spells.all
    {parsers : List Parser}
    (spell : ∀ parser ∈ parsers, parser.Spells text) :
    (Parser.all parsers).Spells text := by
  intro cursor reading within reads
  rw [reads?_all] at reads
  rcases Option.map_eq_some_iff.1 reads with ⟨series, listed, rfl⟩
  rw [Conversion.joined]
  exact passes_of_readAll? spell within listed

theorem Spells.choice
    {parsers : List Parser}
    (spell : ∀ parser ∈ parsers, parser.Spells text) :
    (Parser.choice parsers).Spells text := by
  intro cursor reading within reads
  rw [reads?_choice] at reads
  rcases List.exists_of_findSome?_eq_some reads with ⟨parser, member, reads⟩
  exact spell parser member cursor reading within reads

/-- Rounds pass over what they give one behind the other, and so does the last one. -/
theorem Consecutive.passes
    {parser : Parser}
    (spells : parser.Spells text)
    {cursor : Cursor}
    (within : cursor.rest <:+ text)
    {readings : List Reading}
    (consecutive : parser.Consecutive cursor readings) :
    cursor.Passes (Conversion.joinedItems (readings.map Reading.value)).toList
      (Reading.endOf cursor readings) := by
  induction consecutive with
  | nil cursor => simpa [Conversion.joinedItems] using Cursor.Passes.refl cursor
  | cons reads _ hypothesis =>
      have front := spells _ _ within reads
      have back := hypothesis (front.suffix.trans within)
      rw [List.map_cons, Conversion.joinedItems, String.toList_append, Reading.endOf_cons]
      exact front.trans back

theorem Spells.repetition
    {inner : Parser}
    (inners : inner.Spells text)
    (bounds : Bounds) :
    (Parser.repetition inner bounds).Spells text := by
  intro cursor reading within reads
  rw [reads?_repetition] at reads
  split_ifs at reads with enough
  cases reads
  exact ((consecutive_rounds inner cursor).take _).passes inners within

/-- Parsers that keep text spell what they pass over: by the operations inside. -/
theorem KeepsText.spells {parser : Parser} (keeps : parser.KeepsText text) :
    parser.Spells text := by
  induction parser using induction_on_components with
  | put_together parser hypothesis =>
      have inside : ∀ component ∈ parser.components, component.Spells text :=
        fun component member => hypothesis component member (keeps.component member)
      have outermost : parser.GivesAll text := keeps parser (.whole parser)
      cases parser with
      | text literal => exact spells_text literal
      | pattern matcher => exact spells_pattern outermost
      | and first second =>
          exact (inside first (by simp [components])).and (inside second (by simp [components]))
      | or first second =>
          exact (inside first (by simp [components])).or (inside second (by simp [components]))
      | all parsers => exact .all inside
      | choice parsers => exact .choice inside
      | repetition inner bounds => exact (inside inner (by simp [components])).repetition bounds
      | label inner name => exact (inside inner (by simp [components])).label name
      | constant | next | skip | trim | sepBy | wrap | map => exact outermost.elim

/--
A parser of texts, patterns that match in place, pairs, choices, series, repetitions and
labels gives back the text that it reads: its value, joined, is the slice of the input from
where it started to where it ended.
-/
theorem join_gives_back_text
    {parser : Parser}
    {input : String}
    (keeps : parser.KeepsText input.toList)
    {start : Nat}
    (boundary : Text.IsBoundary input.toList start)
    {before after : FailureRecord}
    {reading : Reading}
    (scanned : scan parser (.ofOffset input.toList start) before = (some reading, after)) :
    ∃ text, Text.slice? input.toList start reading.cursor.offset = some text ∧
      Conversion.join.apply reading.value = .text (String.ofList text) := by
  have reads : parser.reads? (.ofOffset input.toList start) = some reading := by
    rw [← fst_scan parser _ before, scanned]
  have within : (Cursor.ofOffset input.toList start).rest <:+ input.toList := by
    rcases Text.isBoundary_iff.1 boundary with ⟨front, back, whole, rfl⟩
    rw [← whole, Cursor.ofOffset_append]
    exact List.suffix_append front back
  have passes := keeps.spells _ reading within reads
  refine ⟨_, passes.slice?_eq boundary, ?_⟩
  rw [String.ofList_toList]
  rfl

end Kept

/-- Anchored patterns match in place whatever the text is. -/
theorem keepsText_pattern
    {matcher : Pattern}
    (anchored : matcher.IsAnchored)
    (text : List Char) :
    (pattern matcher).KeepsText text :=
  keepsText_iff.2 ⟨fun rest found _ => anchored rest found, by simp [components]⟩

/-- A letter of two bytes and a repetition whose last round is empty, behind a hyphen. -/
theorem join_gives_back_letter_of_two_bytes :
    ∃ matcher, Pattern.ofSource? "[é]" none = some matcher ∧
      ∃ text, Text.slice? "-éb!".toList 1 4 = some text ∧
        Conversion.join.apply (.array [.text "é", .array [.text "b", .text ""]]) =
          .text (String.ofList text) := by
  have finds : ((Pattern.ofSource? "[é]" none).bind (·.find? ['é', 'b', '!'])) =
      some { skipped := [], matched := ['é'], rest := ['b', '!'] } := by decide +kernel
  rcases Option.bind_eq_some_iff.1 finds with ⟨matcher, compiled, found⟩
  have anchored : matcher.IsAnchored := by
    refine Pattern.isAnchored_of_not_isChoice (Pattern.not_isChoice_of_alone ?_)
    rw [Pattern.source_of_ofSource? compiled]
    decide +kernel
  have repeated (text : List Char) :
      (((Parser.text "b").or (.text "")).repetition {}).KeepsText text := by
    refine keepsText_iff.2 ⟨trivial, List.forall_mem_singleton.2 (keepsText_iff.2 ⟨trivial, ?_⟩)⟩
    simp [components, keepsText_text]
  have keeps (text : List Char) :
      ((pattern matcher).and (((Parser.text "b").or (.text "")).repetition {})).KeepsText text :=
    keepsText_iff.2 ⟨trivial, by simp [components, keepsText_pattern anchored, repeated]⟩
  have first : ((Parser.text "b").or (.text "")).reads? { offset := 3, rest := ['b', '!'] } =
      some { value := .text "b", cursor := { offset := 4, rest := ['!'] } } := rfl
  have last : ((Parser.text "b").or (.text "")).reads? { offset := 4, rest := ['!'] } =
      some { value := .text "", cursor := { offset := 4, rest := ['!'] } } := rfl
  have turns : ((Parser.text "b").or (.text "")).rounds { offset := 3, rest := ['b', '!'] } =
      [{ value := .text "b", cursor := { offset := 4, rest := ['!'] } },
        { value := .text "", cursor := { offset := 4, rest := ['!'] } }] := by
    rw [rounds, first]
    simp only
    rw [rounds, last]
    rfl
  have reads :
      ((pattern matcher).and (((Parser.text "b").or (.text "")).repetition {})).reads?
          (.ofOffset "-éb!".toList 1) =
        some
          { value := .array [.text "é", .array [.text "b", .text ""]]
            cursor := { offset := 4, rest := ['!'] } } := by
    have more : (((Parser.text "b").or (.text "")).repetition {}).reads?
        { offset := 3, rest := ['b', '!'] } =
          some
            { value := .array [.text "b", .text ""]
              cursor := { offset := 4, rest := ['!'] } } := by
      rw [reads?_repetition, turns]
      rfl
    rw [reads?_and, reads?_pattern,
      show Pattern.Engine.search? matcher (Cursor.ofOffset "-éb!".toList 1).rest = _ from found]
    exact congrArg (Option.map _) more
  have boundary : Text.IsBoundary "-éb!".toList 1 := by decide
  exact ⟨matcher, compiled, join_gives_back_text (keeps _) boundary
    (Prod.ext ((fst_scan _ _ (.startingAt 0)).trans reads) rfl)⟩

end Parser

end ParserGraph

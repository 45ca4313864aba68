import ParserGraph.Proofs.Parser.Surroundings
import ParserGraph.Proofs.Value.Signs

/-!
# Parsers that are the same

Parsers that are the same read alike and fail alike, with the same expectations at the same
places.  Their parts at the same places give values that are the same exactly if no
transform makes a difference of the values that it is given there.  Of the transforms that
are known by name only joining does: it writes a zero with its sign, so that it has to be
given equal values.
-/

namespace ParserGraph

/-! ## Values that are the same -/

/-- The program takes the values as equal. -/
def Value.Alike (first second : Value) : Prop :=
  first.same second = true

namespace Value

theorem Alike.refl (value : Value) : value.Alike value :=
  (same_iff value value).2 rfl

theorem congruence_alike : Congruence Alike where
  refl := Alike.refl
  array := by
    intro firsts seconds alike
    rw [Alike, same]
    induction alike with
    | nil => rfl
    | cons head _ hypothesis =>
        rw [sameItems, Bool.and_eq_true]
        exact ⟨head, hypothesis⟩

end Value

namespace Conversion

variable {first second : Value}

/-- What changes texts only keeps values that are the same, as such texts are equal. -/
theorem alike_of_texts
    {convert : Value → Value}
    (keeps : ∀ value, (∀ content, value ≠ .text content) → convert value = value)
    (alike : first.Alike second) :
    (convert first).Alike (convert second) := by
  by_cases texts : ∃ content, first = .text content
  · rcases texts with ⟨content, rfl⟩
    cases second <;> simp [Value.Alike, Value.same] at alike
    subst alike
    exact Value.Alike.refl _
  · have different : ∀ content, first ≠ .text content := fun content equal =>
      texts ⟨content, equal⟩
    have others : ∀ content, second ≠ .text content := by
      rintro content rfl
      cases first <;> simp [Value.Alike, Value.same] at alike
      exact different _ rfl
    rw [keeps first different, keeps second others]
    exact alike

/-- Except for joining, the builtin conversions keep values that are the same. -/
theorem alike_apply
    {conversion : Conversion}
    (builtin : conversion ∈ builtins)
    (other : conversion ≠ .join)
    (alike : first.Alike second) :
    (conversion.apply first).Alike (conversion.apply second) := by
  refine alike_of_texts ?_ alike
  intro value different
  simp only [builtins, List.mem_cons, List.not_mem_nil, or_false] at builtin
  rcases builtin with rfl | rfl | rfl
  · cases value with
    | text content => exact absurd rfl (different content)
    | _ => rfl
  · exact absurd rfl other
  · cases value with
    | text content => exact absurd rfl (different content)
    | _ => rfl

/-- Joining tells values apart that are the same without being equal. -/
theorem alike_join_iff (alike : first.Alike second) :
    (Conversion.join.apply first).Alike (Conversion.join.apply second) ↔ first = second := by
  constructor
  · intro joined
    rcases eq_or_partAtSign_joined first second alike with equal | parts
    · exact equal
    · simp only [Value.Alike, join, Value.same, beq_iff_eq] at joined
      exact absurd joined parts.ne
  · rintro rfl
    exact Value.Alike.refl _

end Conversion

namespace Parser

/-! ## Parts at the same place -/

/-- Parts of two parsers at the same place in both of them. -/
inductive Corresponding : Parser → Parser → Parser → Parser → Prop where
  | whole (first second : Parser) : Corresponding first second first second
  | inside {part other component counterpart first second : Parser} :
      (component, counterpart) ∈ first.components.zip second.components →
        Corresponding part other component counterpart → Corresponding part other first second

section Likeness

variable {first second part other inner counterpart : Parser}

theorem Corresponding.trans
    (within : Corresponding part other inner counterpart)
    (inside : Corresponding inner counterpart first second) :
    Corresponding part other first second := by
  induction inside with
  | whole => exact within
  | inside member _ hypothesis => exact .inside member hypothesis

/-! ## What is the same as an operation -/

theorem sameList_iff_forall₂ {parsers others : List Parser} :
    sameList parsers others = true ↔
      List.Forall₂ (fun parser other => parser.same other = true) parsers others := by
  induction parsers generalizing others with
  | nil => cases others <;> simp [sameList]
  | cons parser rest hypothesis => cases others <;> simp [sameList, hypothesis]

theorem components_canonical (parser : Parser) :
    parser.canonical.components = parser.components.map canonical := by
  cases parser with
  | wrap before content after => cases after <;> rfl
  | all parsers =>
      rw [canonical, canonicalList_eq_map]
      rfl
  | choice parsers =>
      rw [canonical, canonicalList_eq_map]
      rfl
  | _ => rfl

/-- Parts at the same place of parsers that are the same are the same. -/
theorem Corresponding.same
    (inside : Corresponding part other first second)
    (alike : first.same second = true) :
    part.same other = true := by
  induction inside with
  | whole => exact alike
  | @inside component counterpart first second member _ hypothesis =>
      refine hypothesis ((same_iff component counterpart).2 ?_)
      have level := congrArg components ((same_iff first second).1 alike)
      rw [components_canonical, components_canonical, ← List.forall₂_eq_eq_eq,
        List.forall₂_map_left_iff, List.forall₂_map_right_iff, List.forall₂_iff_zip] at level
      exact level.2 member

variable [Pattern.Engine]

section Agreement

variable {values : Value → Value → Prop}

/-- Wherever both parsers have a transform, related values stay related. -/
def Transmits (values : Value → Value → Prop) (first second : Parser) : Prop :=
  ∀ inner counterpart transform other,
    Corresponding (map inner transform) (map counterpart other) first second →
      inner.Agrees values (· = ·) counterpart →
        (map inner transform).Agrees values (· = ·) (map counterpart other)

theorem Transmits.component
    {values : Value → Value → Prop}
    (transmits : Transmits values first second)
    (member : (inner, counterpart) ∈ first.components.zip second.components) :
    Transmits values inner counterpart := by
  intro below belowOther transform other inside
  exact transmits below belowOther transform other (.inside member inside)

/-- Whatever is the same as the parser agrees with it, as far as the transforms inside let it. -/
def AgreesIfSame (values : Value → Value → Prop) (parser : Parser) : Prop :=
  ∀ other, parser.same other = true → Transmits values parser other →
    parser.Agrees values (· = ·) other

variable (congruence : Value.Congruence values)

include congruence

theorem agreesIfSame_combinePair
    (firsts : first.AgreesIfSame values)
    (seconds : second.AgreesIfSame values)
    (operator : PairOperator) :
    (operator.combine first second).AgreesIfSame values := by
  intro whole alike transmits
  rcases same_combinePair_iff.1 alike with ⟨other, another, rfl, firstAlike, secondAlike⟩
  have firstAgrees := firsts other firstAlike (transmits.component (by simp))
  have secondAgrees := seconds another secondAlike (transmits.component (by simp))
  exact firstAgrees.combinePair congruence FailureEvent.comparison_eq secondAgrees operator

theorem agreesIfSame_combineSeries
    {parsers : List Parser}
    (all : ∀ parser ∈ parsers, parser.AgreesIfSame values)
    (operator : SeriesOperator) :
    (operator.combine parsers).AgreesIfSame values := by
  intro whole alike transmits
  rcases same_combineSeries_iff.1 alike with ⟨others, rfl, listAlike⟩
  have listed := sameList_iff_forall₂.1 listAlike
  refine .combineSeries congruence FailureEvent.comparison_eq ?_ operator
  refine List.forall₂_iff_zip.2 ⟨listed.length_eq, fun member => ?_⟩
  refine all _ (List.of_mem_zip member).1 _ ((List.forall₂_iff_zip.1 listed).2 member) ?_
  exact transmits.component (by simpa using member)

theorem agreesIfSame_sepBy
    (items : first.AgreesIfSame values)
    (separators : second.AgreesIfSame values)
    (bounds : Bounds) :
    (sepBy first second bounds).AgreesIfSame values := by
  intro whole alike transmits
  cases whole with
  | sepBy item separator otherBounds =>
      simp only [same, Bool.and_eq_true, beq_iff_eq] at alike
      rcases alike with ⟨⟨itemAlike, separatorAlike⟩, rfl⟩
      have itemAgrees := items item itemAlike (transmits.component (by simp [components]))
      have separatorAgrees :=
        separators separator separatorAlike (transmits.component (by simp [components]))
      exact itemAgrees.sepBy congruence FailureEvent.comparison_eq separatorAgrees bounds
  | _ => simp [same] at alike

omit congruence in
theorem agreesIfSame_wrap
    {after : Option Parser}
    (befores : first.AgreesIfSame values)
    (contents : second.AgreesIfSame values)
    (afters : ∀ closing ∈ after, closing.AgreesIfSame values) :
    (wrap first second after).AgreesIfSame values := by
  intro whole alike transmits
  cases whole with
  | wrap before content closing? =>
      have parts : first.same before = true ∧ second.same content = true := by
        cases after <;> cases closing? <;> simp_all [same]
      have beforeAgrees := befores before parts.1 (transmits.component (by simp [components]))
      have contentAgrees := contents content parts.2 (transmits.component (by simp [components]))
      cases after with
      | none =>
          cases closing? with
          | none => exact beforeAgrees.wrap FailureEvent.comparison_eq contentAgrees
          | some closing => simp [same] at alike
      | some closed =>
          cases closing? with
          | none => simp [same] at alike
          | some closing =>
              simp only [same, Bool.and_eq_true] at alike
              have closingAgrees := afters closed rfl closing alike.2
                (transmits.component (by simp [components]))
              exact beforeAgrees.wrapAfter FailureEvent.comparison_eq contentAgrees closingAgrees
  | _ => simp [same] at alike

/-- Parsers that are the same agree, as far as the transforms inside let them. -/
theorem agreesIfSame
    (constants : ∀ first second : Value, first.Alike second → values first second)
    (parser : Parser) :
    parser.AgreesIfSame values := by
  induction parser using induction_on_operations with
  | text | pattern =>
      intro whole alike _
      cases whole <;> simp [same] at alike
      subst alike
      exact .refl congruence FailureEvent.comparison_eq _
  | constant value =>
      intro whole alike _
      cases whole <;> simp [same] at alike
      exact .constant FailureEvent.comparison_eq (constants value _ alike)
  | pair operator _ _ firsts seconds =>
      exact agreesIfSame_combinePair congruence firsts seconds operator
  | sepBy _ _ bounds items separators =>
      exact agreesIfSame_sepBy congruence items separators bounds
  | wrap _ _ _ befores contents afters => exact agreesIfSame_wrap befores contents afters
  | series operator _ all => exact agreesIfSame_combineSeries congruence all operator
  | repetition inner bounds inners =>
      intro whole alike transmits
      cases whole with
      | repetition counterpart otherBounds =>
          simp only [same, Bool.and_eq_true, beq_iff_eq] at alike
          rcases alike with ⟨innerAlike, rfl⟩
          have agrees := inners counterpart innerAlike
            (transmits.component (by simp [components]))
          exact agrees.repetition congruence FailureEvent.comparison_eq bounds
      | _ => simp [same] at alike
  | map inner transform inners =>
      intro whole alike transmits
      cases whole with
      | map counterpart other =>
          rw [same, Bool.and_eq_true] at alike
          have agrees := inners counterpart alike.1 (transmits.component (by simp [components]))
          exact transmits inner counterpart transform other (.whole _ _) agrees
      | _ => simp [same] at alike
  | label inner name inners =>
      intro whole alike transmits
      cases whole with
      | label counterpart otherName =>
          simp only [same, Bool.and_eq_true, beq_iff_eq] at alike
          rcases alike with ⟨innerAlike, rfl⟩
          have agrees := inners counterpart innerAlike
            (transmits.component (by simp [components]))
          exact agrees.label FailureEvent.comparison_eq name
      | _ => simp [same] at alike

end Agreement

/-! ## Parsers that act alike -/

/--
From every place and every record on, both parsers give values that are the same, up to the
same place, and leave the same record; and so do runs.
-/
structure ActsAs (first second : Parser) : Prop where
  scans : ∀ cursor record,
    Option.Rel (Reading.Agrees Value.Alike) (scan first cursor record).1
        (scan second cursor record).1 ∧
      (scan first cursor record).2 = (scan second cursor record).2
  outcomes : ∀ input,
    (run first input).Agrees Value.Alike (· = ·) (run second input) ∧
      (parse first input).Agrees Value.Alike (· = ·) (parse second input)

theorem Agrees.actsAs (agrees : first.Agrees Value.Alike (· = ·) second) :
    first.ActsAs second where
  scans := agrees.scan
  outcomes := agrees.outcomes FailureEvent.comparison_eq fun input _ _ =>
    congrArg (failureOf input)

/-- Where transforms at the same place are given values, they make of them what is the same. -/
def ConvertsAlike (first second : Parser) : Prop :=
  ∀ inner counterpart transform other,
    Corresponding (map inner transform) (map counterpart other) first second →
      ∀ cursor record reading reached,
        (scan inner cursor record).1 = some reading →
          (scan counterpart cursor record).1 = some reached →
            (transform.apply reading.value).Alike (other.apply reached.value)

theorem transmits_of_convertsAlike (converts : ConvertsAlike first second) :
    Transmits Value.Alike first second := by
  intro inner counterpart transform other inside agrees cursor
  have atPlace := converts inner counterpart transform other inside cursor (.startingAt 0)
  rw [follows_evaluateLeniently inner cursor, follows_evaluateLeniently counterpart cursor]
    at atPlace
  have converted : (evaluateLeniently inner cursor).Agrees
      (fun reading reached => (evaluateLeniently inner cursor).result = some reading ∧
        (evaluateLeniently counterpart cursor).result = some reached ∧
          Reading.Agrees Value.Alike reading reached) (· = ·)
      (evaluateLeniently counterpart cursor) := by
    refine ⟨?_, (agrees cursor).events⟩
    have results := (agrees cursor).result
    generalize (evaluateLeniently inner cursor).result = given at results ⊢
    generalize (evaluateLeniently counterpart cursor).result = found at results ⊢
    cases results with
    | none => exact .none
    | some readings => exact .some ⟨rfl, rfl, readings⟩
  rw [evaluateLeniently, evaluateWith, evaluateWith]
  refine converted.andThen FailureEvent.comparison_eq ?_
  rintro reading reached ⟨given, found, readings⟩
  exact Trace.agrees_succeed FailureEvent.comparison_eq
    ⟨atPlace reading reached given found, readings.cursor⟩

theorem scan_map
    (inner : Parser)
    (transform : Transform)
    (cursor : Cursor)
    (record : FailureRecord) :
    (scan (map inner transform) cursor record).1 =
      (scan inner cursor record).1.map fun reading =>
        { reading with value := transform.apply reading.value } := by
  rw [scan, Scan.andThen]
  rcases scan inner cursor record with ⟨_ | reading, after⟩ <;> rfl

/-- Parts that act alike convert alike what they are given. -/
theorem convertsAlike_of_actsAs
    (parts : ∀ part other, Corresponding part other first second → part.ActsAs other) :
    ConvertsAlike first second := by
  intro inner counterpart transform other inside cursor record reading reached given found
  have converted := ((parts _ _ inside).scans cursor record).1
  rw [scan_map, scan_map, given, found, Option.map_some, Option.map_some] at converted
  cases converted with
  | some related => exact related.value

/-! ## Transforms that are known by name -/

/-- Where both parsers join values, they join equal ones. -/
def JoinsEqually (first second : Parser) : Prop :=
  ∀ inner counterpart transform,
    Corresponding (map inner transform) (map counterpart transform) first second →
      transform.conversion = .join → ∀ cursor, scan inner cursor = scan counterpart cursor

/-- Transforms at the same place are one transform, which is known by name. -/
def SharesBuiltins (first second : Parser) : Prop :=
  ∀ inner counterpart transform other,
    Corresponding (map inner transform) (map counterpart other) first second →
      transform = other ∧ transform.conversion ∈ Conversion.builtins

/-- Parsers that agree and scan equally agree with equal values. -/
theorem agrees_of_scan_eq
    {values : Value → Value → Prop}
    (agrees : first.Agrees values (· = ·) second)
    (equal : ∀ cursor, scan first cursor = scan second cursor) :
    first.Agrees (· = ·) (· = ·) second := by
  intro cursor
  have scanned := congrFun (equal cursor) (.startingAt 0)
  rw [follows_evaluateLeniently first cursor, follows_evaluateLeniently second cursor] at scanned
  refine ⟨?_, (agrees cursor).events⟩
  rw [(Prod.mk.inj scanned).1]
  exact (Agrees.refl Value.congruence_eq FailureEvent.comparison_eq second cursor).result

theorem transmits_of_joinsEqually
    (shares : SharesBuiltins first second)
    (joins : JoinsEqually first second) :
    Transmits Value.Alike first second := by
  intro inner counterpart transform other inside agrees
  rcases shares inner counterpart transform other inside with ⟨rfl, builtin⟩
  by_cases joining : transform.conversion = .join
  · have equal := agrees_of_scan_eq agrees (joins inner counterpart transform inside joining)
    refine equal.map FailureEvent.comparison_eq ?_
    rintro value _ rfl
    exact Value.Alike.refl _
  · exact agrees.map FailureEvent.comparison_eq fun _ _ =>
      Conversion.alike_apply builtin joining

/-- If parts act alike that are joined, and act alike without being joined, they are equal. -/
theorem joinsEqually_of_actsAs
    (parts : ∀ part other, Corresponding part other first second → part.ActsAs other) :
    JoinsEqually first second := by
  intro inner counterpart transform inside joining cursor
  funext record
  have below : Corresponding inner counterpart first second :=
    (Corresponding.inside (by simp [components]) (.whole inner counterpart)).trans inside
  rcases (parts inner counterpart below).scans cursor record with ⟨given, left⟩
  have joined := convertsAlike_of_actsAs parts inner counterpart transform transform inside
    cursor record
  refine Prod.ext ?_ left
  generalize (scan inner cursor record).1 = reading at given joined ⊢
  generalize (scan counterpart cursor record).1 = reached at given joined ⊢
  cases given with
  | none => rfl
  | @some reading reached related =>
      -- Texts that are the same are equal, and joining does not hide a difference.
      have texts : (transform.conversion.apply reading.value).Alike
          (transform.conversion.apply reached.value) := joined reading reached rfl rfl
      rw [joining] at texts
      have equal := (Conversion.alike_join_iff related.value).1 texts
      rcases reading with ⟨value, place⟩
      rcases reached with ⟨other, reachedPlace⟩
      cases equal
      cases related.cursor
      rfl

/-! ## The main result -/

/-- Parts at the same place of parsers that are the same act alike if values are transmitted. -/
theorem parts_actAs_of_transmits
    (alike : first.same second = true)
    (transmits : Transmits Value.Alike first second)
    (inside : Corresponding part other first second) :
    part.ActsAs other := by
  have within : Transmits Value.Alike part other := fun inner counterpart transform another below =>
    transmits inner counterpart transform another (below.trans inside)
  exact (agreesIfSame Value.congruence_alike (fun _ _ constant => constant) part other
    (inside.same alike) within).actsAs

/--
Parsers that are the same match up to the same offsets and fail with the same expectations
at the same positions.  Their parts at the same places act alike exactly if transforms
there convert alike what they are given.  For transforms that are known by name this is so
exactly if, where both parsers join values, they join equal ones.
-/
theorem parts_actAs_iff_convertsAlike
    (alike : first.same second = true) :
    (∀ input,
      (run first input).Agrees (fun _ _ => True) (· = ·) (run second input) ∧
        (parse first input).Agrees (fun _ _ => True) (· = ·) (parse second input)) ∧
      ((∀ part other, Corresponding part other first second → part.ActsAs other) ↔
        ConvertsAlike first second) ∧
      (SharesBuiltins first second →
        (ConvertsAlike first second ↔ JoinsEqually first second)) := by
  have actsIff : (∀ part other, Corresponding part other first second → part.ActsAs other) ↔
      ConvertsAlike first second :=
    ⟨convertsAlike_of_actsAs, fun converts part other inside =>
      parts_actAs_of_transmits alike (transmits_of_convertsAlike converts) inside⟩
  refine ⟨?_, actsIff, fun shares => ?_⟩
  · have transmits : Transmits (fun _ _ => True) first second := fun _ _ _ _ _ agrees =>
      agrees.map FailureEvent.comparison_eq fun _ _ _ => trivial
    have agrees := agreesIfSame Value.congruence_true (fun _ _ _ => trivial) first second alike
      transmits
    exact agrees.outcomes FailureEvent.comparison_eq fun input _ _ => congrArg (failureOf input)
  · rw [← actsIff]
    exact ⟨joinsEqually_of_actsAs, fun joins part other inside =>
      parts_actAs_of_transmits alike (transmits_of_joinsEqually shares joins) inside⟩

end Likeness

/-- Zeros with different signs may stand beside values that are joined. -/
theorem actsAs_of_zeros_beside_join :
    let zero : Value := .number (.float { negative := false, rank := 0 })
    let minusZero : Value := .number (.float { negative := true, rank := 0 })
    let join : Transform := { conversion := .join, identity := 1 }
    let first : Parser := .and (.constant zero) (.map (.text "n") join)
    let second : Parser := .and (.constant minusZero) (.map (.text "n") join)
    first.same second = true ∧ first ≠ second ∧ first.ActsAs second := by
  intro zero minusZero join first second
  have alike : first.same second = true := by decide
  refine ⟨alike, by simp [first, second, zero, minusZero], ?_⟩
  refine (parts_actAs_iff_convertsAlike alike).2.1.2 ?_ first second (.whole first second)
  intro inner counterpart transform other inside cursor record reading reached given found
  simp only [first, second] at inside
  -- Both parsers join what is read for the one text.
  have equal : inner = counterpart ∧ transform = other := by
    cases inside with
    | inside member below =>
        simp only [components, List.zip_cons_cons, List.zip_nil_right,
          List.mem_cons, Prod.mk.injEq, List.not_mem_nil, or_false] at member
        rcases member with ⟨rfl, rfl⟩ | ⟨rfl, rfl⟩
        · cases below with
          | inside member _ => simp [components] at member
        · cases below with
          | whole => exact ⟨rfl, rfl⟩
          | inside member below =>
              simp only [components, List.zip_cons_cons, List.zip_nil_right, List.mem_singleton,
                Prod.mk.injEq] at member
              rcases member with ⟨rfl, rfl⟩
              cases below with
              | inside member _ => simp [components] at member
  rcases equal with ⟨rfl, rfl⟩
  rw [given] at found
  cases found
  exact Value.Alike.refl _

/-- Joined zeros are texts that tell the signs, so parsers that are the same act differently. -/
theorem not_agrees_of_joined_zeros :
    let zero : Value := .number (.float { negative := false, rank := 0 })
    let minusZero : Value := .number (.float { negative := true, rank := 0 })
    let join : Transform := { conversion := .join, identity := 1 }
    let first : Parser := .map (.constant zero) join
    let second : Parser := .map (.constant minusZero) join
    first.same second = true ∧
      ¬ (run first "").Agrees Value.Alike (· = ·) (run second "") := by
  intro zero minusZero join first second
  have runs : run first "" = .success (.text "0.0") 0 ∧ run second "" = .success (.text "-0.0") 0 :=
    ⟨rfl, rfl⟩
  refine ⟨by decide, ?_⟩
  rw [runs.1, runs.2]
  intro agrees
  cases agrees with
  | success _ related => simp [Value.Alike, Value.same] at related

end Parser

end ParserGraph

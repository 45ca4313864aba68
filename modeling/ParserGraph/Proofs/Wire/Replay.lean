import ParserGraph.Proofs.Tree.Identities
import ParserGraph.Proofs.Wire.Changes

/-!
# Recorded edits replayed

A list of edits that is written as the text of a script and read again runs like the list
itself, with transforms told apart by their names, unless the script says another value than
one of the edits to a node that shows it.  A null is not said by the script, and a number may
be read as another one, so that from there on the trees look different.  A script cannot be
read at all if a value in it is too deep or has a number that is too large for the reader.
-/

namespace ParserGraph

namespace Edit

/-- Edits as they are read from a script, the first of them with a given identity. -/
def recorded (firstIdentity : Nat) : List Edit → List Edit
  | [] => []
  | edit :: rest =>
      (edit.mapProps Props.replayed).mapProps (Props.withIdentity firstIdentity) ::
        recorded (firstIdentity + 1) rest

variable {edit : Edit} {edits : List Edit}

/-- Whatever the value is read as, the edit can be written as it is. -/
theorem Recordable.reread (recordable : edit.Recordable) :
    (edit.mapProps Props.reread).Recordable := by
  have kept : ∀ props : Props, props.Recordable → props.reread.Recordable := fun props kept =>
    { kept with }
  cases edit with
  | create tag props =>
      exact
        { nodes := recordable.nodes
          props := fun other said =>
            Option.some.inj said ▸ kept props (recordable.props props rfl) }
  | update id delta =>
      exact
        { nodes := recordable.nodes
          props := fun other said =>
            Option.some.inj said ▸ kept delta (recordable.props delta rfl) }
  | _ => exact recordable

/-- An edit is read from what is read of its object with the value that is read. -/
theorem ofValue_reread (recordable : edit.Recordable) (identity : Nat) :
    ofValue identity (edit.mapProps Props.reread).toValue =
      .ok ((edit.mapProps Props.replayed).mapProps (Props.withIdentity identity)) := by
  rw [ofValue_toValue recordable.reread]
  cases edit <;> rfl

theorem ofValues_reread
    (recordable : ∀ edit ∈ edits, edit.Recordable)
    (firstIdentity : Nat) :
    ofValues firstIdentity ((edits.map (mapProps Props.reread)).map toValue) =
      .ok (recorded firstIdentity edits) := by
  induction edits generalizing firstIdentity with
  | nil => rfl
  | cons edit rest hypothesis =>
      have back := ofValue_reread (recordable edit List.mem_cons_self) firstIdentity
      have restBack := hypothesis
        (fun other member => recordable other (List.mem_cons_of_mem _ member)) (firstIdentity + 1)
      exact Wire.bind_eq_ok back (Wire.bind_eq_ok restBack rfl)

/-- An edit that is read is the edit as its script says it, up to the identity. -/
theorem withIdentity_recorded (firstIdentity : Nat) (edit : Edit) :
    ((edit.mapProps Props.replayed).mapProps (Props.withIdentity firstIdentity)).mapProps
        (Props.withIdentity 0) =
      (edit.mapProps Props.replayed).mapProps (Props.withIdentity 0) := by
  cases edit <;> simp [mapProps]

end Edit

namespace Tree

variable {first second third : Tree}

/-! ## Trees that look alike -/

theorem LooksAlike.symm (alike : first.LooksAlike second) : second.LooksAlike first :=
  fun id => (alike id).symm

theorem LooksAlike.trans
    (alike : first.LooksAlike second)
    (later : second.LooksAlike third) :
    first.LooksAlike third :=
  fun id => (alike id).trans (later id)

/-- Trees that are equal up to identities look alike. -/
theorem looksAlike_of_withIdentity
    (equal : first.withIdentity 0 = second.withIdentity 0) :
    first.LooksAlike second := by
  intro id
  let seen : Node → Appearance := fun node =>
    { kind := node.kind
      decoration := node.decoration
      staged := node.staged
      children := node.children }
  have throughIdentity : Node.appearance = seen ∘ Node.withIdentity 0 := rfl
  rw [throughIdentity, ← Option.map_map, ← Option.map_map, ← get?_withIdentity, equal,
    get?_withIdentity]

/-! ## Runs -/

/-- The answers are equal, and the trees look alike before all edits and after each of them. -/
def RunAlike (first second : Tree) (edits others : List Edit) : Prop :=
  first.answers edits = second.answers others ∧
    ∀ count, (first.after (edits.take count)).LooksAlike (second.after (others.take count))

theorem runAlike_cons {edit other : Edit} {edits others : List Edit} :
    first.RunAlike second (edit :: edits) (other :: others) ↔
      first.LooksAlike second ∧ (first.apply edit).1 = (second.apply other).1 ∧
        (first.apply edit).2.RunAlike (second.apply other).2 edits others := by
  constructor
  · rintro ⟨answers, looks⟩
    rcases List.cons.inj answers with ⟨answer, later⟩
    exact ⟨looks 0, answer, later, fun count => looks (count + 1)⟩
  · rintro ⟨start, answer, later, looks⟩
    refine ⟨congrArg₂ List.cons answer later, ?_⟩
    intro count
    cases count with
    | zero => exact start
    | succ count => exact looks count

/-- Where an edit of a run says a value that its script does not say, nobody sees it. -/
def NoChangeShows (tree : Tree) (edits : List Edit) : Prop :=
  ∀ count edit, edits[count]? = some edit → ¬ Edit.ShowsChange (tree.after (edits.take count)) edit

theorem noChangeShows_nil (tree : Tree) : tree.NoChangeShows [] := by
  intro count edit there
  cases there

theorem noChangeShows_cons {tree : Tree} {edit : Edit} {edits : List Edit} :
    tree.NoChangeShows (edit :: edits) ↔
      ¬ edit.ShowsChange tree ∧ (tree.apply edit).2.NoChangeShows edits := by
  constructor
  · intro none
    exact ⟨none 0 edit rfl, fun count other there => none (count + 1) other there⟩
  · rintro ⟨unseen, later⟩ count other there
    cases count with
    | zero =>
        cases there
        exact unseen
    | succ count => exact later count other there

/--
Edits and what is read of them run alike on trees that are equal up to identities, exactly
if nobody sees where the script says another value.
-/
theorem Consistent.runAlike_recorded_iff
    (consistent : first.Consistent)
    (otherConsistent : second.Consistent)
    (equal : first.withIdentity 0 = second.withIdentity 0)
    (edits : List Edit)
    (firstIdentity : Nat) :
    first.RunAlike second edits (Edit.recorded firstIdentity edits) ↔
      first.NoChangeShows edits := by
  induction edits generalizing first second firstIdentity with
  | nil =>
      have alike := looksAlike_of_withIdentity equal
      have stays : ∀ count, (first.after (([] : List Edit).take count)).LooksAlike
          (second.after (([] : List Edit).take count)) := by
        intro count
        rw [List.take_nil]
        exact alike
      exact iff_of_true ⟨rfl, stays⟩ first.noChangeShows_nil
  | cons edit rest hypothesis =>
      rcases consistent.apply_congr otherConsistent equal
          (edit.withIdentity_recorded firstIdentity).symm with ⟨answers, trees⟩
      rw [Edit.recorded, runAlike_cons, noChangeShows_cons]
      by_cases seen : edit.ShowsChange first
      · refine iff_of_false ?_ fun none => none.1 seen
        rintro ⟨_, _, _, looks⟩
        have said := (looksAlike_of_withIdentity trees).symm
        exact consistent.looks_different seen ((looks 0).trans said)
      · rw [consistent.apply_replayed seen] at answers trees
        rw [hypothesis (consistent.apply edit) (otherConsistent.apply _) trees (firstIdentity + 1)]
        exact ⟨fun alike => ⟨seen, alike.2.2⟩,
          fun none => ⟨looksAlike_of_withIdentity equal, answers, none.2⟩⟩

end Tree

/-! ## Values that a script says as they are -/

/-- The script says the value of the props: not null, not too deep, its numbers coming back. -/
def Props.SaysExactly (props : Props) : Prop :=
  ∀ said ∈ props.value, said.value ≠ .null ∧ said.value.IsExact valueDepth

theorem Props.SaysExactly.comesBack
    {props : Props}
    (exactly : props.SaysExactly)
    {said : Value.Normal}
    (isSaid : props.value = some said) :
    said.value.reread? valueDepth = some said.value :=
  (Value.comesBack_iff (by decide) said.value).2 (exactly said isSaid).2

theorem Props.SaysExactly.isLegible {props : Props} (exactly : props.SaysExactly) :
    props.isLegible = true := by
  unfold Props.isLegible
  cases isSaid : props.value with
  | none => rfl
  | some said => simp [exactly.comesBack isSaid]

theorem Props.SaysExactly.replayed_eq {props : Props} (exactly : props.SaysExactly) :
    props.replayed = props := by
  have kept : props.reread = props := by
    rcases props with ⟨text, pattern, expected, _ | said, label, transform, repetition, min, max⟩
    · rfl
    · rw [reread, Option.bind_some, exactly.comesBack rfl, Option.map_some, Value.normal_value]
  rw [replayed, kept]
  rcases props with ⟨text, pattern, expected, _ | said, label, transform, repetition, min, max⟩
  · rfl
  · rw [withoutNull, Option.bind_some, Value.Normal.notNull?_eq_some (exactly said rfl).1]

/-- All edits say values that a script says. -/
def Edit.SayExactly (edits : List Edit) : Prop :=
  ∀ edit ∈ edits, ∀ props ∈ edit.props?, props.SaysExactly

theorem Edit.SayExactly.isLegible {edits : List Edit} (exactly : SayExactly edits) :
    edits.all Edit.isLegible = true := by
  refine List.all_eq_true.2 fun edit member => ?_
  unfold Edit.isLegible
  cases said : edit.props? with
  | none => rfl
  | some props => exact (exactly edit member props said).isLegible

theorem Edit.SayExactly.noChangeShows {edits : List Edit} (exactly : SayExactly edits)
    (tree : Tree) : tree.NoChangeShows edits := by
  intro count edit there shows
  have member := List.mem_of_getElem? there
  cases shows with
  | @create props different =>
      exact different (by rw [(exactly _ member props rfl).replayed_eq])
  | @update id delta node _ apart =>
      rw [(exactly _ member delta rfl).replayed_eq, Node.TellsApart] at apart
      split_ifs at apart
      · rcases apart with ⟨value, _, different⟩
        exact different rfl
      · exact apart rfl

/--
The text of a script can be read exactly if each value in it can be, and it is read as edits
then.  On fresh trees these answer as the edits do that were written and leave trees that look
alike after each of them, exactly if nobody sees where the script says another value.  It says
the same values if none is null or too deep and all their numbers come back.
-/
theorem replay_runAlike_iff
    (options : TreeOptions)
    (edits : List Edit)
    (recordable : ∀ edit ∈ edits, edit.Recordable) :
    ((Value.read? (Edit.script edits)).isSome = true ↔ ∀ edit ∈ edits, edit.isLegible = true) ∧
      (∀ value, Value.read? (Edit.script edits) = some value →
        ∃ replayed, Edit.scriptOfValue value = .ok replayed ∧
          ((Tree.withOptions options).RunAlike (Tree.withOptions options) edits replayed ↔
            (Tree.withOptions options).NoChangeShows edits)) ∧
      (Edit.SayExactly edits →
        (∀ edit ∈ edits, edit.isLegible = true) ∧
          (Tree.withOptions options).NoChangeShows edits) := by
  have start := Tree.consistent_withOptions options
  refine ⟨?_, ?_, fun exactly => ⟨List.all_eq_true.1 exactly.isLegible, exactly.noChangeShows _⟩⟩
  · rw [Edit.read?_script, ← List.all_eq_true]
    cases edits.all Edit.isLegible <;> simp
  · intro value read
    rw [Edit.read?_script] at read
    split_ifs at read
    cases read
    exact ⟨Edit.recorded 0 edits, Edit.ofValues_reread recordable 0,
      start.runAlike_recorded_iff start rfl edits 0⟩

/-- Props without bounds and a transform can be recorded. -/
theorem Props.recordable_of_value (value? : Option Value.Normal) (label : Option String) :
    Recordable { value := value?, label } where
  transform := nofun
  repetition := nofun
  min := nofun
  max := nofun

/-- A constant that is null already shows no null, so that the script says enough. -/
theorem replay_runAlike_of_null_constant :
    let edits : List Edit :=
      [.create "noop" {},
        .update { number := 1 } { value := some Value.null.normal, label := some "nothing" }]
    ∃ value replayed, Value.read? (Edit.script edits) = some value ∧
      Edit.scriptOfValue value = .ok replayed ∧
        (Tree.withOptions {}).RunAlike (Tree.withOptions {}) edits replayed := by
  intro edits
  have recordable : ∀ edit ∈ edits, edit.Recordable := by
    intro edit member
    rcases List.mem_pair.1 member with rfl | rfl
    · exact
        { nodes := by simp [Edit.nodes]
          props := fun props said => Option.some.inj said ▸ Props.recordable_of_value none none }
    · exact
        { nodes := by simp [Edit.nodes, Wire.Fits]
          props := fun props said => Option.some.inj said ▸ Props.recordable_of_value _ _ }
  rcases replay_runAlike_iff {} edits recordable with ⟨readable, alike, _⟩
  rcases Option.isSome_iff_exists.1 (readable.2 (by simp [edits]; decide)) with ⟨value, read⟩
  rcases alike value read with ⟨replayed, script, runs⟩
  refine ⟨value, replayed, read, script, runs.2 ?_⟩
  rw [Tree.noChangeShows_cons, Tree.noChangeShows_cons]
  refine ⟨?_, ?_, Tree.noChangeShows_nil _⟩
  · intro shows
    cases shows with
    | create different => exact different rfl
  · intro shows
    cases shows with
    | update found apart =>
        cases found
        rcases apart with ⟨value, constant, different⟩
        cases constant
        exact different rfl

/-- A constant becomes null by an update, and in the script that update says nothing. -/
theorem null_is_not_replayed :
    let edits : List Edit :=
      [.create "noop" { value := some (Value.bool true).normal },
        .update { number := 1 } { value := some Value.null.normal }]
    let start := Tree.withOptions {}
    (∀ edit ∈ edits, edit.Recordable) ∧
      ∃ value replayed, Value.read? (Edit.script edits) = some value ∧
        Edit.scriptOfValue value = .ok replayed ∧
        ((start.after edits).get? { number := 1 }).map Node.kind = some (.constant .null) ∧
        ((start.after replayed).get? { number := 1 }).map Node.kind =
          some (.constant (.bool true)) ∧
        ¬ start.RunAlike start edits replayed := by
  intro edits start
  have before : ((start.after edits).get? { number := 1 }).map Node.kind =
      some (.constant .null) := rfl
  have replayed : ((start.after (Edit.recorded 0 edits)).get? { number := 1 }).map Node.kind =
      some (.constant (.bool true)) := rfl
  have recordable : ∀ edit ∈ edits, edit.Recordable := by
    intro edit member
    rcases List.mem_pair.1 member with rfl | rfl
    · exact
        { nodes := by simp [Edit.nodes]
          props := fun props said => Option.some.inj said ▸ Props.recordable_of_value _ none }
    · exact
        { nodes := by simp [Edit.nodes, Wire.Fits]
          props := fun props said => Option.some.inj said ▸ Props.recordable_of_value _ none }
  have legible : edits.all Edit.isLegible = true := by rfl
  refine ⟨recordable, _, Edit.recorded 0 edits, (Edit.read?_script edits).trans (if_pos legible),
    Edit.ofValues_reread recordable 0, before, replayed, ?_⟩
  rintro ⟨_, looks⟩
  have kinds := congrArg (Option.map Appearance.kind) (looks 2 { number := 1 })
  rw [Option.map_map, Option.map_map] at kinds
  cases before.symm.trans (kinds.trans replayed)

end ParserGraph

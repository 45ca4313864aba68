import ParserGraph.Pattern.Expression

/-!
# Automata with preferences

An expression becomes a list of numbered instructions.  The automaton reads text
from a place on and keeps the instructions that wait for the next character in
order of preference; an instruction that is reached twice at one place counts
where it was reached first.  The match is the one that is preferred most.
-/

namespace ParserGraph.Pattern

/-- An instruction of an automaton. -/
inductive Instruction where
  /-- Reads one character of a set and goes on behind it. -/
  | read (set : Text.CharacterSet)
  /-- Goes on if the condition holds. -/
  | check (look : Look)
  /-- Goes on at two places, the first preferred. -/
  | fork (first second : Nat)
  | jump (target : Nat)
  | accept
deriving Repr

namespace Expression

/-- A fork that prefers to enter the body of a greedy repetition. -/
def forkTo (greedy : Bool) (body exit : Nat) : Instruction :=
  if greedy then .fork body exit else .fork exit body

/-- Copies of instructions one behind the other; `emit` gives a copy at its place. -/
def copies (emit : Nat → List Instruction) (size count start : Nat) : List Instruction :=
  (List.range count).flatMap fun index => emit (start + index * size)

/-- Optional copies, each with a way to the common exit in front of it. -/
def optionalCopies (emit : Nat → List Instruction) (size : Nat) (greedy : Bool)
    (exit count start : Nat) : List Instruction :=
  (List.range count).flatMap fun index =>
    let place := start + index * (size + 1)
    forkTo greedy (place + 1) exit :: emit (place + 1)

/-- The number of instructions of a repetition whose body has a given number. -/
def repetitionSize (size : Nat) : (min : Nat) → (max : Option Nat) → Nat
  | min, some max => min * size + (max - min) * (size + 1)
  | 0, none => size + 2
  | min + 1, none => (min + 1) * size + 1

mutual

/-- The number of instructions of an expression. -/
def size : Expression → Nat
  | .empty => 0
  | .literal characters => characters.length
  | .oneOf _ _ => 1
  | .look _ => 1
  | .capture body => size body
  | .sequence items => sequenceSize items
  | .choice branches => choiceSize branches
  | .repetition body min max _ => repetitionSize (size body) min max

/-- The number of instructions of expressions one behind the other. -/
def sequenceSize : List Expression → Nat
  | [] => 0
  | item :: rest => size item + sequenceSize rest

/-- The number of instructions of a choice; all branches but the last take two more. -/
def choiceSize : List Expression → Nat
  | [] => 0
  | [branch] => size branch
  | branch :: rest => size branch + choiceSize rest + 2

end

mutual

/--
The instructions of an expression at some place; they go on behind the last one.
A repetition without a least count whose body can be empty is an optional
repetition with a least count of one.
-/
def instructions : Expression → (start : Nat) → List Instruction
  | .empty, _ => []
  | .literal characters, _ => characters.map fun character => .read (.single character)
  | .oneOf set _, _ => [.read set]
  | .look condition, _ => [.check condition]
  | .capture body, start => instructions body start
  | .sequence items, start => sequenceInstructions items start
  | .choice branches, start => choiceInstructions branches start
  | .repetition body min (some max) greedy, start =>
      let optional := start + min * body.size
      copies (instructions body) body.size min start ++
        optionalCopies (instructions body) body.size greedy
          (optional + (max - min) * (body.size + 1)) (max - min) optional
  | .repetition body 0 none greedy, start =>
      let exit := start + body.size + 2
      let last := if body.surelyReads then .jump start else forkTo greedy (start + 1) exit
      forkTo greedy (start + 1) exit :: (instructions body (start + 1) ++ [last])
  | .repetition body (min + 1) none greedy, start =>
      let last := start + min * body.size
      copies (instructions body) body.size (min + 1) start ++
        [forkTo greedy last (last + body.size + 1)]

def sequenceInstructions : List Expression → (start : Nat) → List Instruction
  | [], _ => []
  | item :: rest, start =>
      instructions item start ++ sequenceInstructions rest (start + item.size)

/-- The instructions of a choice: a fork in front of each branch but the last, a way out behind. -/
def choiceInstructions : List Expression → (start : Nat) → List Instruction
  | [], _ => []
  | [branch], start => instructions branch start
  | branch :: rest, start =>
      let other := start + branch.size + 2
      .fork (start + 1) other ::
        (instructions branch (start + 1) ++ .jump (other + choiceSize rest) ::
          choiceInstructions rest other)

end

end Expression

/-- The instructions of a pattern. -/
structure Automaton where
  /-- The instructions; the first one starts. -/
  instructions : Array Instruction
deriving Repr

namespace Automaton

def ofExpression (expression : Expression) : Automaton :=
  { instructions := (expression.instructions 0 ++ [Instruction.accept]).toArray }

/-- Instructions reached at a place, and those among them that wait there, in order. -/
structure Reached where
  /-- All instructions reached so far. -/
  seen : List Nat := []
  /-- Those that read or accept, the last one first. -/
  waiting : List Nat := []

/--
The instructions that are reached from one without reading.  Each step down
meets a new instruction, so that their number bounds the fuel.
-/
def reach (automaton : Automaton) (before after : Option Char) :
    (fuel : Nat) → Nat → Reached → Reached
  | 0, _, reached => reached
  | fuel + 1, address, reached =>
      if reached.seen.contains address then
        reached
      else
        let marked := { reached with seen := address :: reached.seen }
        match automaton.instructions[address]? with
        | none => marked
        | some (.read _) | some .accept =>
            { marked with waiting := address :: marked.waiting }
        | some (.check look) =>
            if look.holds before after then
              reach automaton before after fuel (address + 1) marked
            else
              marked
        | some (.jump target) => reach automaton before after fuel target marked
        | some (.fork first second) =>
            reach automaton before after fuel second
              (reach automaton before after fuel first marked)

/-- The instructions that wait at a place, in order of preference. -/
def waitingAt
    (automaton : Automaton)
    (before after : Option Char)
    (addresses : List Nat) :
    List Nat :=
  let fuel := automaton.instructions.size + 1
  let reached := addresses.foldl
    (fun reached address => automaton.reach before after fuel address reached) {}
  reached.waiting.reverse

/-- What the waiting instructions make of a place. -/
structure Turn where
  /-- The text in front of the place is a match. -/
  accepted : Bool
  /-- The instructions behind those that read the next character, in order. -/
  next : List Nat

/--
The waiting instructions take their turn; those that are preferred less than a
match are given up.
-/
def turn (automaton : Automaton) (after : Option Char) : List Nat → Turn
  | [] => { accepted := false, next := [] }
  | address :: rest =>
      match automaton.instructions[address]? with
      | some .accept => { accepted := true, next := [] }
      | some (.read set) =>
          let others := turn automaton after rest
          match after with
          | some character =>
              if set.contains character then
                { others with next := (address + 1) :: others.next }
              else
                others
          | none => others
      | _ => turn automaton after rest

/--
The number of characters of the preferred match from a place on.  The arguments
are the instructions to go on with, the character in front, the number of
characters read and the match found so far.
-/
def matchFrom
    (automaton : Automaton)
    (addresses : List Nat)
    (before : Option Char)
    (count : Nat)
    (found : Option Nat) :
    List Char → Option Nat
  | [] =>
      let turn := automaton.turn none (automaton.waitingAt before none addresses)
      if turn.accepted then some count else found
  | character :: rest =>
      let after := some character
      let turn := automaton.turn after (automaton.waitingAt before after addresses)
      let found := if turn.accepted then some count else found
      if turn.next.isEmpty then
        found
      else
        matchFrom automaton turn.next after (count + 1) found rest

/-- The first place from which text matches: what is in front of it, and the match's length. -/
def search (automaton : Automaton) (before : Option Char) (skipped : Nat) :
    List Char → Option (Nat × Nat)
  | [] => (automaton.matchFrom [0] before 0 none []).map (skipped, ·)
  | character :: rest =>
      match automaton.matchFrom [0] before 0 none (character :: rest) with
      | some length => some (skipped, length)
      | none => search automaton (some character) (skipped + 1) rest

end Automaton

end ParserGraph.Pattern

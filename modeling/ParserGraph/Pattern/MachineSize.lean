import ParserGraph.Text.ByteRanges
import Std.Data.HashMap

/-!
# Sizes of byte machines

A pattern is limited by the memory of two machines that read the bytes of UTF-8
text, one forwards and one backwards.  This module counts the states of both for a
set of characters.  States that are alike are shared as far as the machine
remembers them: a table of places keeps for each place the state put there last.
-/

namespace ParserGraph.Pattern

open Text (CharacterSet ByteSequence)

/-- The size of a machine. -/
structure MachineSize where
  /-- The number of states; the next state has this number. -/
  states : Nat := 0
  /-- The bytes of the links between states, where a state has other than one. -/
  links : Nat := 0
deriving DecidableEq, Repr

namespace MachineSize

def bytes (size : MachineSize) : Nat :=
  32 * size.states + size.links

/-- The memory that a machine may take, in bytes. -/
def limit : Nat := 10 * Nat.pow 2 20

/-- The size with further states and links, if the machine may take it. -/
def add? (size : MachineSize) (states links : Nat) : Option MachineSize :=
  let larger : MachineSize :=
    { states := size.states + states, links := size.links + links }
  if larger.bytes ≤ limit then some larger else none

end MachineSize

/-- The number by which a state finds its place in a table, made from what defines the state. -/
def fingerprint (parts : List Nat) : UInt64 :=
  parts.foldl (fun mixed part => (mixed ^^^ part.toUInt64) * 1099511628211)
    14695981039346656037

/-- A machine for a set of characters while it grows, with the states that it remembers. -/
structure GrowingMachine where
  size : MachineSize
  /-- The number of places in the table. -/
  places : Nat
  /-- The definition and the number of the state at each place. -/
  remembered : Std.HashMap Nat (List Nat × Nat) := {}

namespace GrowingMachine

/-- The state at a place, if it is defined by the given numbers. -/
def stateAt? (machine : GrowingMachine) (place : Nat) (definition : List Nat) : Option Nat :=
  match machine.remembered[place]? with
  | some (known, state) => if known = definition then some state else none
  | none => none

/-- A new state, remembered at a place. -/
def grow (machine : GrowingMachine) (place : Nat) (definition : List Nat) (links : Nat) :
    GrowingMachine :=
  { machine with
    size := { states := machine.size.states + 1, links := machine.size.links + links }
    remembered := machine.remembered.insert place (definition, machine.size.states) }

/--
The state of a definition: the one at its place, if that is defined alike, or else
a new one with some bytes of links, which is remembered from now on.
-/
def share (machine : GrowingMachine) (definition : List Nat) (links : Nat) :
    Nat × GrowingMachine :=
  let place := (fingerprint definition).toNat % machine.places
  match machine.stateAt? place definition with
  | some state => (state, machine)
  | none => (machine.size.states, machine.grow place definition links)

end GrowingMachine

/-! ## Backwards -/

/-- The states of a byte sequence that is read backwards, each leading to the one in front. -/
def GrowingMachine.addBackwards (finish : Nat) (machine : GrowingMachine)
    (bytes : ByteSequence) : GrowingMachine :=
  let (_, machine) := bytes.foldl
    (fun (target, machine) range => machine.share [target, range.1, range.2] 0)
    (finish, machine)
  { machine with size := { machine.size with links := machine.size.links + 4 } }

/--
The size with the machine of a set that reads backwards: a state that leads to the
last bytes of all sequences, and one that all sequences end in.
-/
def MachineSize.withSetBackwards (size : MachineSize) (set : CharacterSet) : MachineSize :=
  let start : GrowingMachine :=
    { size := { size with states := size.states + 2 }, places := 1000 }
  (set.byteSequences.foldl (GrowingMachine.addBackwards (size.states + 1)) start).size

/-! ## Forwards -/

/-- A state whose last link leads to a state that is not complete yet. -/
structure OpenState where
  /-- The links so far: the first and the last byte and the state of each. -/
  links : List Nat := []
  /-- The bytes of the last link. -/
  last : Option (Nat × Nat)

namespace OpenState

/-- The links once the state of the last one is known. -/
def close (state : OpenState) (next : Nat) : List Nat :=
  match state.last with
  | some range => state.links ++ [range.1, range.2, next]
  | none => state.links

end OpenState

namespace GrowingMachine

/-- Open states, each behind the last link of the one in front, are completed from the last on. -/
def complete (finish : Nat) : List OpenState → GrowingMachine → Nat × GrowingMachine
  | [], machine => (finish, machine)
  | state :: rest, machine =>
      let (next, machine) := complete finish rest machine
      let links := state.close next
      machine.share links (8 * (links.length / 3))

/--
A byte sequence behind others in order.  It follows the open states as far as their
last links agree with it; those behind are completed.
-/
def addForwards (finish : Nat) : List OpenState → ByteSequence → GrowingMachine →
    List OpenState × GrowingMachine
  | state :: rest, range :: ranges, machine =>
      if state.last = some range then
        let (states, machine) := addForwards finish rest ranges machine
        (state :: states, machine)
      else
        let (next, machine) := complete finish rest machine
        ({ links := state.close next, last := some range } ::
          ranges.map fun range => { last := some range }, machine)
  | _, ranges, machine => (ranges.map fun range => { last := some range }, machine)

end GrowingMachine

/-- The size with the machine of a set that reads forwards: all sequences end in one state. -/
def MachineSize.withSetForwards (size : MachineSize) (set : CharacterSet) : MachineSize :=
  let finish := size.states
  let start : GrowingMachine :=
    { size := { size with states := size.states + 1 }, places := 10000 }
  let (states, machine) := set.byteSequences.foldl
    (fun (states, machine) bytes => GrowingMachine.addForwards finish states bytes machine)
    ([{ last := none }], start)
  (GrowingMachine.complete finish states machine).2.size

/--
The size with the machine of a set.  ASCII needs one state for all bytes and one
that they end in, in either direction.
-/
def MachineSize.withSet (size : MachineSize) (backwards : Bool) (set : CharacterSet) :
    MachineSize :=
  if set.isAscii then
    { states := size.states + 2, links := size.links + 8 * set.ranges.length }
  else if backwards then
    size.withSetBackwards set
  else
    size.withSetForwards set

end ParserGraph.Pattern

import ParserGraph.Pattern.Phrase
import ParserGraph.Text.Bytes

/-!
# Expressions

What a pattern means once its flags are applied: characters, conditions on places,
and sequences, choices and repetitions of them.  Choices and repetitions say what
they prefer.  Expressions are made by functions that simplify them and keep what
they match: parts of a sequence flow together, choices between characters become
sets, and what all branches of a choice start with stands in front of it.
-/

namespace ParserGraph.Pattern

open Text (CharacterSet)

/-- A condition on a place, given the characters in front of and behind it. -/
inductive Look where
  | textStart
  | textEnd
  /-- The start of a line; the flag tells that a carriage return ends lines too. -/
  | lineStart (carriageReturns : Bool)
  /-- The end of a line; the flag tells that a carriage return ends lines too. -/
  | lineEnd (carriageReturns : Bool)
  /-- An edge of words; the flag tells that words of all scripts count. -/
  | word (edge : WordEdge) (unicode : Bool)
deriving DecidableEq, Repr

namespace Look

/-- The character belongs to a word; no character does not. -/
def inWord (unicode : Bool) : Option Char → Bool
  | none => false
  | some character =>
      if unicode then Text.isWordCharacter character
      else Text.asciiWordCharacters.contains character

/-- The condition holds between two characters. -/
def holds (look : Look) (before after : Option Char) : Bool :=
  match look with
  | .textStart => before.isNone
  | .textEnd => after.isNone
  | .lineStart false => before.isNone || before == some '\n'
  | .lineStart true =>
      before.isNone || before == some '\n' || (before == some '\r' && after != some '\n')
  | .lineEnd false => after.isNone || after == some '\n'
  | .lineEnd true =>
      after.isNone || after == some '\r' || (after == some '\n' && before != some '\r')
  | .word edge unicode =>
      let behind := inWord unicode before
      let ahead := inWord unicode after
      match edge with
      | .either => behind != ahead
      | .neither => behind == ahead
      | .start => !behind && ahead
      | .finish => behind && !ahead
      | .noneBefore => !behind
      | .noneAfter => !ahead

end Look

/-- The meaning of a pattern. -/
inductive Expression where
  | empty
  /-- These characters one behind the other. -/
  | literal (characters : List Char)
  /-- One character of a set; the flag tells that it was written with Unicode on. -/
  | oneOf (set : CharacterSet) (unicode : Bool)
  | look (look : Look)
  /-- A group whose text may be looked up. -/
  | capture (body : Expression)
  | sequence (items : List Expression)
  /-- The first branch is preferred. -/
  | choice (branches : List Expression)
  /-- A repetition; a greedy one prefers to go on. -/
  | repetition (body : Expression) (min : Nat) (max : Option Nat) (greedy : Bool)
deriving Repr

namespace Expression

mutual

def readsNothing : Expression → Bool
  | .empty => true
  | .literal characters => characters.isEmpty
  | .oneOf _ _ => false
  | .look _ => true
  | .capture body => readsNothing body
  | .sequence items => allReadNothing items
  | .choice branches => allReadNothing branches
  | .repetition body _ max _ => max == some 0 || readsNothing body

/-- None of the expressions ever reads a character. -/
def allReadNothing : List Expression → Bool
  | [] => true
  | item :: rest => readsNothing item && allReadNothing rest

end

mutual

/-- The least number of bytes that a match has; what cannot match has none. -/
def leastLength? : Expression → Option Nat
  | .empty => some 0
  | .literal characters => some (Text.byteLength characters)
  | .oneOf set _ => set.ranges.head?.map fun range => (Char.ofNat range.1).utf8Size
  | .look _ => some 0
  | .capture body => leastLength? body
  | .sequence items => totalLength? items
  | .choice branches => shortestLength? branches
  | .repetition body min _ _ => (leastLength? body).map (min * ·)

/-- The sum of the least lengths. -/
def totalLength? : List Expression → Option Nat
  | [] => some 0
  | item :: rest =>
      match leastLength? item, totalLength? rest with
      | some length, some others => some (length + others)
      | _, _ => none

/-- The least of the least lengths, if all have one. -/
def shortestLength? : List Expression → Option Nat
  | [] => none
  | [branch] => leastLength? branch
  | branch :: rest =>
      match leastLength? branch, shortestLength? rest with
      | some length, some others => some (Nat.min length others)
      | _, _ => none

end

/-- The expression surely reads a character where it matches. -/
def surelyReads (expression : Expression) : Bool :=
  match expression.leastLength? with
  | some (_ + 1) => true
  | _ => false

mutual

/-- Expressions of the same form; groups whose text may be looked up are never alike. -/
def alike : Expression → Expression → Bool
  | .empty, .empty => true
  | .literal first, .literal second => first == second
  | .oneOf first unicode, .oneOf second otherUnicode => first == second && unicode == otherUnicode
  | .look first, .look second => first == second
  | .sequence first, .sequence second => allAlike first second
  | .choice first, .choice second => allAlike first second
  | .repetition first min max greedy, .repetition second otherMin otherMax otherGreedy =>
      alike first second && min == otherMin && max == otherMax && greedy == otherGreedy
  | _, _ => false

/-- Expressions of the same forms in the same order. -/
def allAlike : List Expression → List Expression → Bool
  | [], [] => true
  | first :: firstRest, second :: secondRest =>
      alike first second && allAlike firstRest secondRest
  | _, _ => false

end

/-! ## Expressions made from parts -/

/-- An expression that matches nowhere. -/
def failure : Expression := .oneOf .empty false

/-- One character of a set; a set of one character is that character. -/
def ofSet (set : CharacterSet) (unicode : Bool) : Expression :=
  match set.single? with
  | some character => .literal [character]
  | none => if set.ranges.isEmpty then failure else .oneOf set unicode

/-- The items of a sequence; an expression that is none is its only item. -/
def items : Expression → List Expression
  | .empty => []
  | .sequence items => items
  | expression => [expression]

/-- An item in front of others; two literals become one. -/
def joinItem (item : Expression) (others : List Expression) : List Expression :=
  match item, others with
  | .literal first, .literal second :: rest => .literal (first ++ second) :: rest
  | _, _ => item :: others

def ofSequence (parts : List Expression) : Expression :=
  match (parts.flatMap items).foldr joinItem [] with
  | [] => .empty
  | [item] => item
  | joined => .sequence joined

/-- The branches of a choice; an expression that is none is its only branch. -/
def branches : Expression → List Expression
  | .choice branches => branches
  | expression => [expression]

/-- The set of an expression that is one certain character. -/
def singleSet? : Expression → Option CharacterSet
  | .literal [character] => some (.single character)
  | _ => none

/-- The set of an expression that is one character of a set. -/
def characterSet? : Expression → Option CharacterSet
  | .oneOf set _ => some set
  | _ => none

/-- The set of all branches, if they are single characters, or if they are sets. -/
def commonSet? (branches : List Expression) : Option CharacterSet :=
  ((branches.mapM singleSet?).or (branches.mapM characterSet?)).map CharacterSet.unionOf

/-- A choice between branches, not looking at how they start. -/
def ofDistinct (parts : List Expression) : Expression :=
  match parts.flatMap branches with
  | [] => failure
  | [branch] => branch
  | branches =>
      match commonSet? branches with
      | some set => ofSet set true
      | none => .choice branches

/-- The items that two sequences start with alike. -/
def commonItems : List Expression → List Expression → List Expression
  | first :: firstRest, second :: secondRest =>
      if alike first second then first :: commonItems firstRest secondRest else []
  | _, _ => []

/-- The items of an expression that is a sequence; of another one none. -/
def sequenceItems : Expression → List Expression
  | .sequence items => items
  | _ => []

/-- The items that all branches start with, if all are sequences. -/
def commonStart : List Expression → List Expression
  | [] => []
  | [branch] => sequenceItems branch
  | branch :: rest => commonItems (sequenceItems branch) (commonStart rest)

def ofChoice (parts : List Expression) : Expression :=
  match ofDistinct parts with
  | .choice branches =>
      match commonStart branches with
      | [] => .choice branches
      | start =>
          let ends := branches.map fun branch =>
            ofSequence ((sequenceItems branch).drop start.length)
          ofSequence (start ++ [ofDistinct ends])
  | expression => expression

/--
A repetition.  What never reads a character is repeated once at most; no repetition
is empty, and one repetition is the body itself.
-/
def repeated (body : Expression) (min : Nat) (max : Option Nat) (greedy : Bool) : Expression :=
  let (min, max) :=
    if body.readsNothing then (Nat.min min 1, some (Nat.min (max.getD 1) 1)) else (min, max)
  if min = 0 ∧ max = some 0 then .empty
  else if min = 1 ∧ max = some 1 then body
  else .repetition body min max greedy

end Expression

end ParserGraph.Pattern

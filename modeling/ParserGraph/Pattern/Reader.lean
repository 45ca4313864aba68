import ParserGraph.Pattern.ClassReader

/-!
# Patterns read from text

A pattern is read sign by sign with a stack of the groups that are still open.
Text that is no pattern is refused: a sign without its partner, an operator
without an operand, an unknown escape, flag or class, and a name used twice.
-/

namespace ParserGraph.Pattern

/-- A group that is still open. -/
structure OpenGroup where
  /-- The text of the group may be looked up. -/
  captures : Bool
  /-- The flags that hold in the group. -/
  changes : List FlagChange
  /-- Spacing is skipped around the group. -/
  spacing : Bool
  /-- The phrases in front of the group in its branch, the last one first. -/
  items : List Phrase
  /-- The branches in front of the one that holds the group, the last one first. -/
  branches : List Phrase
deriving Repr

/-- A pattern that is partly read. -/
structure PartialPattern where
  /-- The characters that are still to be read. -/
  rest : List Char
  spacing : Bool := false
  /-- The names of groups so far. -/
  names : List (List Char) := []
  /-- The phrases of the branch being read, the last one first. -/
  items : List Phrase := []
  /-- The branches in front of that one, the last one first. -/
  branches : List Phrase := []
  /-- The groups that are open, the innermost first. -/
  groups : List OpenGroup := []
deriving Repr

/-- How a group starts. -/
inductive GroupStart where
  /-- A group whose text could be looked up, by a name or by its number. -/
  | capture (name : Option (List Char))
  /-- Flags for the rest of the group around. -/
  | flags (changes : List FlagChange)
  /-- A group with flags of its own. -/
  | plain (changes : List FlagChange)
deriving Repr

namespace GroupStart

/-- The character may stand in the name of a group. -/
def isNameCharacter (first : Bool) (character : Char) : Bool :=
  character == '_' || Text.isAlphabetic character ||
    (!first && (character == '.' || character == '[' || character == ']' ||
      Text.isNumeric character))

/-- The name of a group up to its closing sign; the name may not be empty. -/
def readName? (first : Bool) : List Char → Option (List Char × List Char)
  | [] => none
  | character :: rest =>
      if character = '>' then
        if first then none else some ([], rest)
      else if isNameCharacter first character then
        (readName? false rest).map fun (name, behind) => (character :: name, behind)
      else
        none

/--
Flags up to the sign behind them.  A flag may occur once, and flags behind a
hyphen are turned off; the hyphen may occur once and not at the end.
-/
def readFlags? (changes : List FlagChange) (on afterHyphen : Bool) :
    List Char → Option (List FlagChange × Char × List Char)
  | [] => none
  | character :: rest =>
      if character = ':' ∨ character = ')' then
        if afterHyphen then none else some (changes.reverse, character, rest)
      else if character = '-' then
        if on then readFlags? changes false true rest else none
      else
        match Flag.ofLetter? character with
        | none => none
        | some flag =>
            if changes.any (·.flag == flag) then
              none
            else
              readFlags? ({ flag, on } :: changes) on false rest

/-- The start of a group behind its opening sign, and the characters behind it. -/
def read? (characters : List Char) : Option (GroupStart × List Char) :=
  match characters with
  | '?' :: '=' :: _ | '?' :: '!' :: _ | '?' :: '<' :: '=' :: _ | '?' :: '<' :: '!' :: _ => none
  | '?' :: 'P' :: '<' :: rest | '?' :: '<' :: rest =>
      (readName? true rest).map fun (name, behind) => (.capture (some name), behind)
  | '?' :: rest =>
      match readFlags? [] true false rest with
      | none => none
      | some (changes, sign, behind) =>
          if sign = ':' then
            some (.plain changes, behind)
          else if changes.isEmpty then
            none
          else
            some (.flags changes, behind)
  | rest => some (.capture none, rest)

end GroupStart

namespace Repetition

/-- The largest count that a repetition may name. -/
def countLimit : Nat := Nat.pow 2 32

/-- Digits with spacing left out between them. -/
def readDigits (spacing : Bool) : (fuel : Nat) → List Char → List Char × List Char
  | fuel + 1, character :: rest =>
      if character.isDigit then
        let (digits, behind) := readDigits spacing fuel (skipSpacing spacing rest)
        (character :: digits, behind)
      else
        ([], character :: rest)
  | _, rest => ([], rest)

/-- A count with blanks around it. -/
def readCount? (spacing : Bool) (characters : List Char) : Option (Nat × List Char) :=
  let start := characters.dropWhile Text.isBlank
  let (digits, behind) := readDigits spacing start.length start
  let count := digits.foldl
    (fun number digit => 10 * number + (digit.toNat - '0'.toNat)) 0
  if digits.isEmpty || countLimit ≤ count then
    none
  else
    some (count, skipSpacing spacing (behind.dropWhile Text.isBlank))

/-- The bounds of a repetition behind its opening brace: least and greatest count. -/
def readBounds? (spacing : Bool) (characters : List Char) :
    Option ((Nat × Option Nat) × List Char) := do
  let (min, rest) ← readCount? spacing (skipSpacing spacing characters)
  match rest with
  | '\x7d' :: behind => some ((min, some min), behind)
  | ',' :: rest =>
      match skipSpacing spacing rest with
      | '\x7d' :: behind => some ((min, none), behind)
      | rest =>
          let (max, rest) ← readCount? spacing rest
          match rest with
          | '\x7d' :: behind => if min ≤ max then some ((min, some max), behind) else none
          | _ => none
  | _ => none

/-- The operand of a repetition: the last phrase, which may not be a change of flags. -/
def operand? : List Phrase → Option (Phrase × List Phrase)
  | [] | .empty :: _ | .flags _ :: _ => none
  | body :: items => some (body, items)

end Repetition

namespace PartialPattern

/-- The phrase of the branches read so far. -/
def body (partly : PartialPattern) : Phrase :=
  .ofBranches (.ofItems partly.items :: partly.branches)

def push (partly : PartialPattern) (item : Phrase) (rest : List Char) : PartialPattern :=
  { partly with items := item :: partly.items, rest }

def spacingAfter (spacing : Bool) (changes : List FlagChange) : Bool :=
  match changes.find? (·.flag == .ignoreSpace) with
  | some change => change.on
  | none => spacing

def openGroup
    (partly : PartialPattern)
    (captures : Bool)
    (changes : List FlagChange)
    (rest : List Char) :
    PartialPattern :=
  let group : OpenGroup :=
    { captures
      changes
      spacing := partly.spacing
      items := partly.items
      branches := partly.branches }
  { partly with
    rest
    spacing := spacingAfter partly.spacing changes
    items := []
    branches := []
    groups := group :: partly.groups }

/-- An opening sign is read. -/
def start? (partly : PartialPattern) (rest : List Char) : Option PartialPattern := do
  let (start, behind) ← GroupStart.read? (skipSpacing partly.spacing rest)
  match start with
  | .flags changes =>
      some { partly.push (.flags changes) behind with
        spacing := spacingAfter partly.spacing changes }
  | .plain changes => some (partly.openGroup false changes behind)
  | .capture none => some (partly.openGroup true [] behind)
  | .capture (some name) =>
      if partly.names.contains name then
        none
      else
        some { partly.openGroup true [] behind with names := name :: partly.names }

/-- A closing sign is read. -/
def finish? (partly : PartialPattern) (rest : List Char) : Option PartialPattern :=
  match partly.groups with
  | [] => none
  | group :: groups =>
      some { partly with
        rest
        spacing := group.spacing
        items := .group group.captures group.changes partly.body :: group.items
        branches := group.branches
        groups }

/-- A repetition of the last phrase; a question mark behind it makes it prefer fewer. -/
def repeat? (partly : PartialPattern) (min : Nat) (max : Option Nat) (rest : List Char) :
    Option PartialPattern := do
  let (operand, items) ← Repetition.operand? partly.items
  let (greedy, rest) :=
    match rest with
    | '?' :: rest => (false, rest)
    | rest => (true, rest)
  some { partly with items := .repetition operand min max greedy :: items, rest }

def phraseOf : Escape → Phrase
  | .literal character byByte => .literal character byByte
  | .escaped letter negated => .escaped letter negated
  | .property set negated => .property set negated
  | .anchor anchor => .anchor anchor

/-- One sign is read; `none` when it may not stand here. -/
def advance? (partly : PartialPattern) : List Char → Option PartialPattern
  | [] => none
  | '(' :: rest => partly.start? rest
  | ')' :: rest => partly.finish? rest
  | '|' :: rest =>
      some { partly with
        rest
        items := []
        branches := .ofItems partly.items :: partly.branches }
  | '[' :: rest => do
      let (negated, content, behind) ← ClassReader.read? partly.spacing rest
      some (partly.push (.bracket negated content) behind)
  | '?' :: rest => partly.repeat? 0 (some 1) rest
  | '*' :: rest => partly.repeat? 0 none rest
  | '+' :: rest => partly.repeat? 1 none rest
  | '\x7b' :: rest => do
      let ((min, max), behind) ← Repetition.readBounds? partly.spacing rest
      partly.repeat? min max (skipSpacing partly.spacing behind)
  | '.' :: rest => some (partly.push .dot rest)
  | '^' :: rest => some (partly.push (.anchor .lineStart) rest)
  | '$' :: rest => some (partly.push (.anchor .lineEnd) rest)
  | '\\' :: rest => do
      let (escape, behind) ← Escape.read? partly.spacing rest
      some (partly.push (phraseOf escape) behind)
  | character :: rest => some (partly.push (.literal character false) rest)

/-- The phrase of the whole pattern; every sign takes a character, which bounds the fuel. -/
def complete? : (fuel : Nat) → PartialPattern → Option Phrase
  | 0, _ => none
  | fuel + 1, partly =>
      match skipSpacing partly.spacing partly.rest with
      | [] => if partly.groups.isEmpty then some partly.body else none
      | rest => (partly.advance? rest).bind (complete? fuel)

end PartialPattern

/-- The phrase that a text writes, if it is a pattern and not too deep. -/
def Phrase.read? (text : List Char) : Option Phrase := do
  let phrase ← PartialPattern.complete? (text.length + 1) { rest := text }
  if phrase.depth ≤ Phrase.depthLimit then some phrase else none

end ParserGraph.Pattern

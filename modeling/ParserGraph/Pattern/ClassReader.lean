import ParserGraph.Pattern.Escape

/-!
# Brackets read from patterns

Brackets hold characters, ranges, classes and further brackets, and operations on
all that stands to either side.  They are read with a stack of the brackets and
operations that are still open.
-/

namespace ParserGraph.Pattern

/-- A bracket or an operation whose right side is still being read. -/
inductive ClassFrame where
  /-- An open bracket: what stands around it so far, and whether it is negated. -/
  | opened (around : List ClassPhrase) (negated : Bool)
  | operation (kind : SetOperation) (left : ClassPhrase)
deriving Repr

namespace ClassReader

/-- The phrase on the left of an operation, or inside a bracket, once it is complete. -/
def close (items : List ClassPhrase) : List ClassFrame → ClassPhrase × List ClassFrame
  | .operation kind left :: frames => (.operation kind left (.ofItems items), frames)
  | frames => (.ofItems items, frames)

/-- The hyphens at the start of a bracket, which stand for themselves. -/
def readHyphens (spacing : Bool) : (fuel : Nat) → List ClassPhrase → List Char →
    List ClassPhrase × List Char
  | fuel + 1, items, '-' :: rest =>
      readHyphens spacing fuel (.literal '-' false :: items) (skipSpacing spacing rest)
  | _, items, rest => (items, rest)

/--
The start of a bracket behind its opening sign: a sign of negation, then hyphens
or a closing bracket that stand for themselves.
-/
def readStart? (spacing : Bool) (characters : List Char) :
    Option (Bool × List ClassPhrase × List Char) :=
  let (negated, rest) :=
    match skipSpacing spacing characters with
    | '^' :: rest => (true, skipSpacing spacing rest)
    | rest => (false, rest)
  let (items, rest) := readHyphens spacing rest.length [] rest
  let (items, rest) :=
    match items, rest with
    | [], ']' :: rest => ([ClassPhrase.literal ']' false], skipSpacing spacing rest)
    | items, rest => (items, rest)
  if rest.isEmpty then none else some (negated, items, rest)

/-- An ASCII class behind the opening sign of a bracket; `none` if it is something else. -/
def readAscii? (characters : List Char) : Option (ClassPhrase × List Char) :=
  match characters with
  | ':' :: rest =>
      let (negated, rest) :=
        match rest with
        | '^' :: rest => (true, rest)
        | rest => (false, rest)
      let name := String.ofList (rest.takeWhile (· != ':'))
      match rest.dropWhile (· != ':') with
      | ':' :: ']' :: behind =>
          (asciiClass? name).map fun set => (.ascii set negated, behind)
      | _ => none
  | _ => none

def readItem? (spacing : Bool) : List Char → Option (Escape × List Char)
  | [] => none
  | '\\' :: rest => Escape.read? spacing rest
  | character :: rest => some (.literal character false, rest)

/-- An escape in a bracket as a phrase; anchors are refused. -/
def phraseOf? : Escape → Option ClassPhrase
  | .literal character byByte => some (.literal character byByte)
  | .escaped letter negated => some (.escaped letter negated)
  | .property set negated => some (.property set negated)
  | .anchor _ => none

/-- The ends of a range are single characters in order. -/
def rangeOf? : Escape → Escape → Option ClassPhrase
  | .literal first _, .literal last _ => if first ≤ last then some (.range first last) else none
  | _, _ => none

/-- One item of a bracket, or a range of two. -/
def readRange? (spacing : Bool) (characters : List Char) :
    Option (ClassPhrase × List Char) := do
  let (first, rest) ← readItem? spacing characters
  match skipSpacing spacing rest with
  | [] => none
  | sign :: behind =>
      let next := signBehind? spacing (sign :: behind)
      if sign != '-' || next == some ']' || next == some '-' then
        (phraseOf? first).map (·, sign :: behind)
      else
        let (last, rest) ← readItem? spacing (skipSpacing spacing behind)
        (rangeOf? first last).map (·, rest)

/--
What a bracket holds, behind its start.  Every step reads a sign at least, so the
fuel is the number of signs.
-/
def readRest? (spacing : Bool) : (fuel : Nat) → (items : List ClassPhrase) →
    (frames : List ClassFrame) → List Char → Option (Bool × ClassPhrase × List Char)
  | 0, _, _, _ => none
  | fuel + 1, items, frames, characters =>
      let operate (kind : SetOperation) (rest : List Char) :=
        let (left, frames) := close items frames
        readRest? spacing fuel [] (.operation kind left :: frames) rest
      match skipSpacing spacing characters with
      | [] => none
      | '[' :: rest =>
          match readAscii? rest with
          | some (item, behind) => readRest? spacing fuel (item :: items) frames behind
          | none => do
              let (negated, started, behind) ← readStart? spacing rest
              readRest? spacing fuel started (.opened items negated :: frames) behind
      | ']' :: rest =>
          match close items frames with
          | (content, [.opened _ negated]) => some (negated, content, rest)
          | (content, .opened around negated :: frames) =>
              readRest? spacing fuel (.bracket negated content :: around) frames rest
          | _ => none
      | '&' :: '&' :: rest => operate .intersection rest
      | '-' :: '-' :: rest => operate .difference rest
      | '~' :: '~' :: rest => operate .symmetricDifference rest
      | rest => do
          let (item, behind) ← readRange? spacing rest
          readRest? spacing fuel (item :: items) frames behind

/-- A bracket behind its opening sign: whether it is negated, and what it holds. -/
def read? (spacing : Bool) (characters : List Char) :
    Option (Bool × ClassPhrase × List Char) := do
  let (negated, items, rest) ← readStart? spacing characters
  readRest? spacing (rest.length + 1) items [.opened [] negated] rest

end ClassReader

end ParserGraph.Pattern

import ParserGraph.Pattern.Expression
import ParserGraph.Text.Folding

/-!
# Meanings of phrases

The expression that a phrase stands for under flags.  Flags that stand in a phrase
hold for what follows in the same group.
-/

namespace ParserGraph.Pattern

open Text (CharacterSet)

/-- The flags that are on. -/
structure Flags where
  ignoreCase : Bool := false
  multiLine : Bool := false
  dotMatchesLineFeed : Bool := false
  swapGreed : Bool := false
  unicode : Bool := true
  carriageReturns : Bool := false
deriving DecidableEq, Repr

namespace Flags

def change (flags : Flags) (change : FlagChange) : Flags :=
  match change.flag with
  | .ignoreCase => { flags with ignoreCase := change.on }
  | .multiLine => { flags with multiLine := change.on }
  | .dotMatchesLineFeed => { flags with dotMatchesLineFeed := change.on }
  | .swapGreed => { flags with swapGreed := change.on }
  | .unicode => { flags with unicode := change.on }
  | .carriageReturns => { flags with carriageReturns := change.on }
  | .ignoreSpace => flags

/-- The set with the case variants of its characters, if case is ignored. -/
def fold (flags : Flags) (set : CharacterSet) : CharacterSet :=
  if flags.ignoreCase then
    if flags.unicode then set.anyCase else set.anyAsciiCase
  else
    set

/--
A set negated if asked for.  Without Unicode a set is one of bytes; negated, it would
hold bytes beyond ASCII, which are no characters, and is refused.
-/
def negate? (flags : Flags) (negated : Bool) (set : CharacterSet) : Option CharacterSet :=
  if negated then
    if flags.unicode then some set.complement else none
  else
    some set

def escaped? (flags : Flags) (letter : ClassLetter) (negated : Bool) : Option CharacterSet :=
  flags.negate? negated (letter.characters flags.unicode)

/-- The set of a property, which there is with Unicode only. -/
def property? (flags : Flags) (set : CharacterSet) (negated : Bool) : Option CharacterSet :=
  if flags.unicode then flags.negate? negated (flags.fold set) else none

/-- Characters from one to another in a bracket; without Unicode they are ASCII. -/
def range? (flags : Flags) (first last : Char) : Option CharacterSet :=
  if flags.unicode || last.toNat < 0x80 then
    some (.range first.toNat last.toNat)
  else
    none

end Flags

def SetOperation.apply (kind : SetOperation) (left right : CharacterSet) : CharacterSet :=
  match kind with
  | .intersection => left.intersection right
  | .difference => left.difference right
  | .symmetricDifference => left.symmetricDifference right

namespace ClassPhrase

mutual

def set? (flags : Flags) : ClassPhrase → Option CharacterSet
  | .empty => some .empty
  | .literal character _ => flags.range? character character
  | .range first last => flags.range? first last
  | .escaped letter negated => flags.escaped? letter negated
  | .property set negated => flags.property? set negated
  | .ascii set negated => flags.negate? negated (flags.fold set)
  | .bracket negated content => do
      let set ← set? flags content
      flags.negate? negated (flags.fold set)
  | .union items => setOfItems? flags items
  | .operation kind left right => do
      let left ← set? flags left
      let right ← set? flags right
      some (kind.apply (flags.fold left) (flags.fold right))

def setOfItems? (flags : Flags) : List ClassPhrase → Option CharacterSet
  | [] => some .empty
  | item :: rest => do
      let set ← set? flags item
      let others ← setOfItems? flags rest
      some (set.union others)

end

end ClassPhrase

namespace Phrase

/--
The expression of a character.  Without Unicode a byte beyond ASCII is refused, and
the case of characters beyond ASCII is not ignored.
-/
def literalExpression? (flags : Flags) (character : Char) (byByte : Bool) : Option Expression :=
  if flags.unicode || character.toNat < 0x80 then
    some (.ofSet (flags.fold (.single character)) flags.unicode)
  else if byByte then
    none
  else
    some (.literal [character])

/-- The set of a dot, which there is with Unicode only. -/
def dotSet? (flags : Flags) : Option CharacterSet :=
  if !flags.unicode then
    none
  else if flags.dotMatchesLineFeed then
    some (.range 0 Text.lastCode)
  else if flags.carriageReturns then
    some ((CharacterSet.single '\r').union (.single '\n')).complement
  else
    some (CharacterSet.single '\n').complement

def lookOf (flags : Flags) : Anchor → Look
  | .lineStart => if flags.multiLine then .lineStart flags.carriageReturns else .textStart
  | .lineEnd => if flags.multiLine then .lineEnd flags.carriageReturns else .textEnd
  | .textStart => .textStart
  | .textEnd => .textEnd
  | .word edge => .word edge flags.unicode

mutual

/-- The expression of a phrase under flags, and the flags behind it. -/
def expression? (flags : Flags) : Phrase → Option (Expression × Flags)
  | .empty => some (.empty, flags)
  | .flags changes => some (.empty, changes.foldl Flags.change flags)
  | .literal character byByte => (literalExpression? flags character byByte).map (·, flags)
  | .dot => (dotSet? flags).map fun set => (.ofSet set flags.unicode, flags)
  | .anchor condition => some (.look (lookOf flags condition), flags)
  | .escaped letter negated =>
      (flags.escaped? letter negated).map fun set => (.ofSet set flags.unicode, flags)
  | .property set negated =>
      (flags.property? set negated).map fun set => (.ofSet set flags.unicode, flags)
  | .bracket negated content => do
      let set ← content.set? flags
      let set ← flags.negate? negated (flags.fold set)
      some (.ofSet set flags.unicode, flags)
  | .group captures changes body => do
      let (inner, _) ← expression? (changes.foldl Flags.change flags) body
      some (if captures then .capture inner else inner, flags)
  | .repetition body min max greedy => do
      let (inner, flags) ← expression? flags body
      some (inner.repeated min max (greedy != flags.swapGreed), flags)
  | .sequence items => do
      let (parts, flags) ← sequence? flags items
      some (.ofSequence parts, flags)
  | .alternatives branches => do
      let (parts, flags) ← sequence? flags branches
      some (.ofChoice parts, flags)

/-- The expressions of phrases, each under the flags behind the one in front of it. -/
def sequence? (flags : Flags) : List Phrase → Option (List Expression × Flags)
  | [] => some ([], flags)
  | item :: rest => do
      let (first, flags) ← expression? flags item
      let (others, flags) ← sequence? flags rest
      some (first :: others, flags)

end

end Phrase

end ParserGraph.Pattern

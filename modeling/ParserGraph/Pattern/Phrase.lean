import ParserGraph.Pattern.NamedClass

/-!
# Phrases of patterns

A pattern as it is written: flags are phrases of their own and not applied yet,
and brackets keep the set operations that stand in them.
-/

namespace ParserGraph.Pattern

/-- What a flag of a pattern turns on or off. -/
inductive Flag where
  | ignoreCase
  | multiLine
  | dotMatchesLineFeed
  | swapGreed
  | unicode
  | carriageReturns
  | ignoreSpace
deriving DecidableEq, Repr

namespace Flag

def ofLetter? : Char → Option Flag
  | 'i' => some .ignoreCase
  | 'm' => some .multiLine
  | 's' => some .dotMatchesLineFeed
  | 'U' => some .swapGreed
  | 'u' => some .unicode
  | 'R' => some .carriageReturns
  | 'x' => some .ignoreSpace
  | _ => none

end Flag

/-- A flag that is turned on or off. -/
structure FlagChange where
  flag : Flag
  /-- The flag is turned on. -/
  on : Bool
deriving DecidableEq, Repr

/-- What is asked of the characters in front of and behind a place at the edge of words. -/
inductive WordEdge where
  /-- A word starts or ends. -/
  | either
  /-- A word neither starts nor ends. -/
  | neither
  | start
  | finish
  /-- No word goes on in front. -/
  | noneBefore
  /-- No word goes on behind. -/
  | noneAfter
deriving DecidableEq, Repr

/-- A condition on a place in the text. -/
inductive Anchor where
  /-- The sign for the start of text, or of a line. -/
  | lineStart
  /-- The sign for the end of text, or of a line. -/
  | lineEnd
  | textStart
  | textEnd
  | word (edge : WordEdge)
deriving DecidableEq, Repr

/-- The operations on sets in brackets. -/
inductive SetOperation where
  | intersection
  | difference
  | symmetricDifference
deriving DecidableEq, Repr

/-- What stands in brackets. -/
inductive ClassPhrase where
  | empty
  /-- A character; the flag tells one written by two hexadecimal digits. -/
  | literal (character : Char) (byByte : Bool)
  | range (first last : Char)
  | escaped (letter : ClassLetter) (negated : Bool)
  | property (set : Text.CharacterSet) (negated : Bool)
  /-- A class of ASCII characters written between colons. -/
  | ascii (set : Text.CharacterSet) (negated : Bool)
  | bracket (negated : Bool) (content : ClassPhrase)
  | union (items : List ClassPhrase)
  | operation (kind : SetOperation) (left right : ClassPhrase)
deriving Repr

/-- A phrase of a pattern. -/
inductive Phrase where
  | empty
  /-- Flags for what follows in the same group. -/
  | flags (changes : List FlagChange)
  /-- A character; the flag tells one written by two hexadecimal digits. -/
  | literal (character : Char) (byByte : Bool)
  | dot
  | anchor (anchor : Anchor)
  | escaped (letter : ClassLetter) (negated : Bool)
  | property (set : Text.CharacterSet) (negated : Bool)
  | bracket (negated : Bool) (content : ClassPhrase)
  /-- A group, with the flags that hold in it; its text may be captured. -/
  | group (captures : Bool) (changes : List FlagChange) (body : Phrase)
  | repetition (body : Phrase) (min : Nat) (max : Option Nat) (greedy : Bool)
  | sequence (items : List Phrase)
  | alternatives (branches : List Phrase)
deriving Repr

namespace ClassPhrase

/-- Items side by side, given the last one first. -/
def ofItems : List ClassPhrase → ClassPhrase
  | [] => .empty
  | [item] => item
  | items => .union items.reverse

mutual

/-- The number of phrases that hold each other. -/
def depth : ClassPhrase → Nat
  | .bracket _ content => depth content + 1
  | .union items => depths items + 1
  | .operation _ left right => max (depth left) (depth right) + 1
  | _ => 0

def depths : List ClassPhrase → Nat
  | [] => 0
  | item :: rest => max (depth item) (depths rest)

end

end ClassPhrase

namespace Phrase

/-- Phrases one behind the other, given the last one first. -/
def ofItems : List Phrase → Phrase
  | [] => .empty
  | [item] => item
  | items => .sequence items.reverse

/-- Phrases to choose from, given the last one first. -/
def ofBranches : List Phrase → Phrase
  | [branch] => branch
  | branches => .alternatives branches.reverse

mutual

/-- The number of phrases that hold each other. -/
def depth : Phrase → Nat
  | .bracket _ content => content.depth + 1
  | .group _ _ body => depth body + 1
  | .repetition body _ _ _ => depth body + 1
  | .sequence items => depths items + 1
  | .alternatives branches => depths branches + 1
  | _ => 0

def depths : List Phrase → Nat
  | [] => 0
  | item :: rest => max (depth item) (depths rest)

end

/-- The greatest depth that a pattern may have. -/
def depthLimit : Nat := 250

end Phrase

end ParserGraph.Pattern

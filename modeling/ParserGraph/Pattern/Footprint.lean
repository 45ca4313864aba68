import ParserGraph.Pattern.Expression
import ParserGraph.Pattern.MachineSize

/-!
# Footprints

Whether the machines of an expression stay within the memory that they may take.
The machine that reads backwards has no states for groups whose text may be looked
up, and takes the parts of a sequence from the last one on.
-/

namespace ParserGraph.Pattern

namespace Literals

/-! ## Choices between texts -/

/--
Texts parted by the empty ones among them: what stands behind a text that is
complete is preferred less and shares nothing with what stands in front.
-/
def sections (hasLonger isParted : Bool) : List (List UInt8) → List (List (List UInt8))
  | [] => [[]]
  | [] :: rest =>
      if isParted && !hasLonger then sections hasLonger isParted rest
      else [] :: sections hasLonger true rest
  | text :: rest =>
      match sections true isParted rest with
      | first :: others => (text :: first) :: others
      | [] => [[text]]

/-- The bytes that texts start with, each once. -/
def firstBytes (texts : List (List UInt8)) : List UInt8 :=
  (texts.filterMap List.head?).eraseDups

/-- What stands behind a first byte. -/
def behind (byte : UInt8) (texts : List (List UInt8)) : List (List UInt8) :=
  texts.filterMap fun
    | first :: rest => if first = byte then some rest else none
    | [] => none

/--
The states and links of a tree of texts that share how they start.  A node is a
state for each section that is not empty and one that leads to them; the end of a
text needs none.  The fuel is the length of the longest text.
-/
def treeSize : (fuel : Nat) → List (List UInt8) → MachineSize
  | 0, _ => {}
  | fuel + 1, texts =>
      let parts := sections false false texts
      let sizes := parts.map fun part =>
        let bytes := firstBytes part
        let below := bytes.map fun byte =>
          let ends := behind byte part
          if ends.all List.isEmpty then {} else treeSize fuel ends
        let own : MachineSize :=
          if bytes.isEmpty then {}
          else if bytes.length = 1 then { states := 1, links := 4 }
          else { states := 1, links := 4 + 8 * bytes.length }
        below.foldl
          (fun sum size =>
            { states := sum.states + size.states, links := sum.links + size.links }) own
      sizes.foldl
        (fun sum size =>
          { states := sum.states + size.states, links := sum.links + size.links })
        { states := 1, links := 4 * (parts.length - 1) }

/-- The bytes of an expression that is a text. -/
def bytes? : Expression → Option (List UInt8)
  | .literal characters => some (characters.flatMap String.utf8EncodeChar)
  | _ => none

/-- The bytes of all branches, if all are texts, in the order in which a machine reads them. -/
def ofBranches? (backwards : Bool) (branches : List Expression) : Option (List (List UInt8)) :=
  (branches.mapM bytes?).map fun texts =>
    if backwards then texts.map List.reverse else texts

end Literals

namespace MachineSize

/-! ## Repetitions -/

/-- The size with a number of copies; `grow?` adds one. -/
def copies? (grow? : MachineSize → Option MachineSize) :
    (count : Nat) → MachineSize → Option MachineSize
  | 0, size => some size
  | count + 1, size =>
      match grow? size with
      | some size => copies? grow? count size
      | none => none

/-- The size with a certain number of copies; none at all takes a state. -/
def exactly? (grow? : MachineSize → Option MachineSize) (count : Nat) (size : MachineSize) :
    Option MachineSize :=
  if count = 0 then size.add? 1 0 else copies? grow? count size

/--
The size with a repetition.  A way past a body takes a state with two links, and a
body that may be empty is passed by two such ways.
-/
def repetition? (grow? : MachineSize → Option MachineSize) (surelyReads : Bool)
    (size : MachineSize) : (min : Nat) → (max : Option Nat) → Option MachineSize
  | 0, some 1 => do (← grow? (← size.add? 1 8)).add? 1 0
  | 0, none =>
      if surelyReads then do grow? (← size.add? 1 8) else do (← grow? size).add? 3 16
  | min + 1, none => do (← copies? grow? (min + 1) size).add? 1 8
  | min, some max =>
      if min = max then
        exactly? grow? min size
      else do
        let size ← exactly? grow? min size
        copies? (fun size => do grow? (← size.add? 1 8)) (max - min) (← size.add? 1 0)

/-! ## Expressions -/

mutual

def withExpression? (backwards : Bool) : Expression → MachineSize → Option MachineSize
  | .empty, size => size.add? 1 0
  | .literal characters, size => size.add? (Text.byteLength characters) 0
  | .oneOf set _, size => (size.withSet backwards set).add? 0 0
  | .look _, size => size.add? 1 0
  | .capture body, size =>
      if backwards then withExpression? backwards body size
      else do (← withExpression? backwards body (← size.add? 1 0)).add? 1 0
  | .sequence items, size => withSequence? backwards items size
  | .choice branches, size =>
      match Literals.ofBranches? backwards branches with
      | some texts =>
          let fuel := (texts.map List.length).foldl max 0 + 1
          let tree := Literals.treeSize fuel texts
          size.add? (tree.states + 1) tree.links
      | none => withBranches? backwards 0 branches size
  | .repetition body min max _, size =>
      repetition? (withExpression? backwards body) body.surelyReads size min max

/-- The size with the machines of expressions one behind the other. -/
def withSequence? (backwards : Bool) : List Expression → MachineSize → Option MachineSize
  | [], size => some size
  | item :: rest, size =>
      if backwards then
        (withSequence? backwards rest size).bind (withExpression? backwards item)
      else
        (withExpression? backwards item size).bind (withSequence? backwards rest)

/--
The size with the machines of branches, the first one with an index.  Once there
are two, a state leads to all of them, and another one is where they end.
-/
def withBranches? (backwards : Bool) : (index : Nat) → List Expression → MachineSize →
    Option MachineSize
  | _, [], size => some size
  | index, branch :: rest, size => do
      let size ← withExpression? backwards branch size
      withBranches? backwards (index + 1) rest (← size.add? (if index = 1 then 2 else 0) 4)

end

end MachineSize

namespace Expression

/-! ## Ends -/

mutual

/-- A match surely starts where a condition holds. -/
def startsWith (look : Look) : Expression → Bool
  | .look condition => condition == look
  | .capture body => startsWith look body
  | .sequence items => sequenceStartsWith look items
  | .choice branches => allStartWith look branches
  | .repetition body min _ _ => 0 < min && startsWith look body
  | _ => false

/-- A match of a sequence surely starts where a condition holds. -/
def sequenceStartsWith (look : Look) : List Expression → Bool
  | [] => false
  | item :: rest => startsWith look item || (readsNothing item && sequenceStartsWith look rest)

/-- Matches of all expressions surely start where a condition holds. -/
def allStartWith (look : Look) : List Expression → Bool
  | [] => true
  | item :: rest => startsWith look item && allStartWith look rest

end

mutual

/-- A match surely ends where a condition holds. -/
def endsWith (look : Look) : Expression → Bool
  | .look condition => condition == look
  | .capture body => endsWith look body
  | .sequence items => sequenceEndsWith look items
  | .choice branches => allEndWith look branches
  | .repetition body min _ _ => 0 < min && endsWith look body
  | _ => false

/-- A match of a sequence surely ends where a condition holds. -/
def sequenceEndsWith (look : Look) : List Expression → Bool
  | [] => false
  | item :: rest => sequenceEndsWith look rest || (allReadNothing rest && endsWith look item)

/-- Matches of all expressions surely end where a condition holds. -/
def allEndWith (look : Look) : List Expression → Bool
  | [] => true
  | item :: rest => endsWith look item && allEndWith look rest

end

/-! ## Whole patterns -/

/-- The size of what skips text in front of a match: nothing where a match is bound to the end. -/
def skipping? (bound : Bool) : Option MachineSize :=
  if bound then ({} : MachineSize).add? 1 0 else ({} : MachineSize).add? 3 16

/-- The size of the machine that reads forwards; the whole match is a group of its own. -/
def forwardsSize? (expression : Expression) : Option MachineSize := do
  let size ← skipping? (expression.startsWith .textStart)
  let size ← size.add? 1 0
  let size ← size.withExpression? false expression
  size.add? 2 0

def backwardsSize? (expression : Expression) : Option MachineSize := do
  let size ← skipping? (expression.endsWith .textEnd)
  let size ← size.withExpression? true expression
  size.add? 1 0

/-- Both machines stay within the memory that they may take. -/
def fits (expression : Expression) : Bool :=
  expression.forwardsSize?.isSome && expression.backwardsSize?.isSome

end Expression

end ParserGraph.Pattern

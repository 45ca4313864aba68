import ParserGraph.Text.CharacterSet

/-!
# Ranges of bytes

The UTF-8 forms of the characters of a set, as sequences of ranges of bytes: a
sequence stands for all bytes that lie in its ranges one behind the other.
-/

namespace ParserGraph.Text

/-- A sequence of ranges of bytes. -/
abbrev ByteSequence := List (Nat × Nat)

namespace ByteRanges

/-- The blocks of characters with UTF-8 forms of equal length, without the surrogates. -/
def blocks : List (Nat × Nat) :=
  [(0x00, 0x7F), (0x80, 0x7FF), (0x800, 0xD7FF), (0xE000, 0xFFFF), (0x10000, lastCode)]

/-- The parts of a range that lie in blocks. -/
def withinBlocks (range : Nat × Nat) : List (Nat × Nat) :=
  blocks.filterMap fun block =>
    let first := max range.1 block.1
    let last := min range.2 block.2
    if first ≤ last then some (first, last) else none

/--
Parts of a range that differ in their last bytes only: what does not fill a span at
the start and at the end is cut off, and the middle is parted by the next span.
-/
def align (first last : Nat) : (spans : List Nat) → List (Nat × Nat)
  | [] => [(first, last)]
  | span :: spans =>
      if first / span = last / span then
        [(first, last)]
      else
        let start := if first % span = 0 then first else (first / span + 1) * span
        let stop := if last % span = span - 1 then last + 1 else last / span * span
        (if first < start then [(first, start - 1)] else []) ++
          (if start < stop then align start (stop - 1) spans else []) ++
            (if stop ≤ last then [(stop, last)] else [])

/-- The numbers of characters that differ in the last byte, the last two and the last three. -/
def spans : List Nat := [0x40, 0x1000, 0x40000]

/-- The bytes of the UTF-8 form of a code point. -/
def bytesOf (code : Nat) : List Nat :=
  (String.utf8EncodeChar (Char.ofNat code)).map UInt8.toNat

def ofRange (range : Nat × Nat) : List ByteSequence :=
  (withinBlocks range).flatMap fun block =>
    if block.2 < 0x80 then
      [[block]]
    else
      (align block.1 block.2 spans).map fun part => (bytesOf part.1).zip (bytesOf part.2)

end ByteRanges

/-- The byte sequences of the characters of a set, in increasing order. -/
def CharacterSet.byteSequences (set : CharacterSet) : List ByteSequence :=
  set.ranges.flatMap ByteRanges.ofRange

end ParserGraph.Text

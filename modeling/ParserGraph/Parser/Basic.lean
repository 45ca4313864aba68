import ParserGraph.Pattern.Basic
import ParserGraph.Transform

/-!
# Parsers

A parser is a tree of operations.  Two parsers are the same if they are built
alike: patterns count by source and label, transforms by identity, and values as
the program compares them.
-/

namespace ParserGraph

/-- How many items a repetition takes. -/
structure Bounds where
  /-- The least number. -/
  min : Nat := 0
  /-- The greatest number, if there is one. -/
  max : Option Nat := none
deriving DecidableEq, Repr

namespace Bounds

/-- The bounds ask for something: any number of items does not. -/
def isConfigured (bounds : Bounds) : Bool :=
  bounds.min != 0 || bounds.max.isSome

/-- Bounds in words: the least number, two points and the greatest number, if there is one. -/
def display (bounds : Bounds) : String :=
  toString bounds.min ++ ".." ++ (bounds.max.map toString).getD ""

end Bounds

/-- A parser. -/
inductive Parser where
  /-- Exactly this text. -/
  | text (literal : String)
  | pattern (matcher : Pattern)
  /-- A value, without reading. -/
  | constant (value : Value)
  /-- Both in order; the value is the pair of their values. -/
  | and (first second : Parser)
  /-- The first, or the second from the same place if the first fails. -/
  | or (first second : Parser)
  /-- Both in order; the value is the second one's. -/
  | next (first second : Parser)
  /-- Both in order; the value is the first one's. -/
  | skip (first second : Parser)
  /-- The content, with what is trimmed in front of it and behind it if it is there. -/
  | trim (content trimmer : Parser)
  /-- Items with separators between them; the value is the array of the items' values. -/
  | sepBy (item separator : Parser) (bounds : Bounds)
  /-- The content with something in front of it and possibly something behind it. -/
  | wrap (before content : Parser) (after : Option Parser)
  /-- All in order; the value is the array of their values. -/
  | all (parsers : List Parser)
  /-- The first that matches. -/
  | choice (parsers : List Parser)
  /-- One parser again and again; the value is the array of the values. -/
  | repetition (inner : Parser) (bounds : Bounds)
  /-- The value is transformed. -/
  | map (inner : Parser) (transform : Transform)
  /-- A failure expects the label instead of what the inner parser expected. -/
  | label (inner : Parser) (name : String)

namespace Parser

/-- The name of the outermost operation. -/
def describe : Parser → String
  | .text _ => "text"
  | .pattern _ => "pattern"
  | .constant _ => "constant"
  | .and _ _ => "and"
  | .or _ _ => "or"
  | .next _ _ => "next"
  | .skip _ _ => "skip"
  | .trim _ _ => "trim"
  | .sepBy _ _ _ => "sepBy"
  | .wrap _ _ _ => "wrap"
  | .all _ => "all"
  | .choice _ => "choice"
  | .repetition _ _ => "repeat"
  | .map _ _ => "map"
  | .label _ _ => "label"

mutual

/-- Parsers that the program takes as equal. -/
def same : Parser → Parser → Bool
  | .text first, .text second => first == second
  | .pattern first, .pattern second => first == second
  | .constant first, .constant second => first.same second
  | .and first second, .and first' second' => same first first' && same second second'
  | .or first second, .or first' second' => same first first' && same second second'
  | .next first second, .next first' second' => same first first' && same second second'
  | .skip first second, .skip first' second' => same first first' && same second second'
  | .trim content trimmer, .trim content' trimmer' =>
      same content content' && same trimmer trimmer'
  | .sepBy item separator bounds, .sepBy item' separator' bounds' =>
      same item item' && same separator separator' && bounds == bounds'
  | .wrap before content none, .wrap before' content' none =>
      same before before' && same content content'
  | .wrap before content (some after), .wrap before' content' (some after') =>
      same before before' && same content content' && same after after'
  | .all parsers, .all parsers' => sameList parsers parsers'
  | .choice parsers, .choice parsers' => sameList parsers parsers'
  | .repetition inner bounds, .repetition inner' bounds' =>
      same inner inner' && bounds == bounds'
  | .map inner transform, .map inner' transform' =>
      same inner inner' && transform.same transform'
  | .label inner name, .label inner' name' => same inner inner' && name == name'
  | _, _ => false

def sameList : List Parser → List Parser → Bool
  | [], [] => true
  | first :: firstRest, second :: secondRest =>
      same first second && sameList firstRest secondRest
  | _, _ => false

end

end Parser

end ParserGraph

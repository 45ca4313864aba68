import ParserGraph.Parser.Basic
import ParserGraph.Text.Quoted

/-!
# Parsers as text

The whole tree of a parser on one line, every operation with its name and its
parts.
-/

namespace ParserGraph

/-- A name in front of parts in round brackets. -/
def displayCall (name : String) (parts : List String) : String :=
  name ++ "(" ++ String.intercalate ", " parts ++ ")"

/-- A name in front of named parts in braces. -/
def displayRecord (name : String) (parts : List (String × String)) : String :=
  name ++ " \x7b " ++
    String.intercalate ", " (parts.map fun (label, part) => label ++ ": " ++ part) ++ " \x7d"

/-- Parts in square brackets. -/
def displayList (parts : List String) : String :=
  "[" ++ String.intercalate ", " parts ++ "]"

/-- Something that may be missing. -/
def displayOption : Option String → String
  | some part => displayCall "Some" [part]
  | none => "None"

namespace Value

mutual

/-- A value with the kinds of its parts. -/
def display : Value → String
  | .null => "Null"
  | .bool flag => displayCall "Bool" [toString flag]
  | .number amount => displayCall "Number" [amount.write]
  | .text content => displayCall "String" [Text.quoted content]
  | .array items => "Array " ++ displayList (displayItems items)
  | .object fields =>
      "Object \x7b" ++ String.intercalate ", " (displayFields fields) ++ "\x7d"

/-- Each item with the kinds of its parts. -/
def displayItems : List Value → List String
  | [] => []
  | item :: rest => display item :: displayItems rest

/-- Each field with the kinds of its parts. -/
def displayFields : List (String × Value) → List String
  | [] => []
  | (key, value) :: rest => (Text.quoted key ++ ": " ++ display value) :: displayFields rest

end

end Value

namespace Pattern

def display (pattern : Pattern) : String :=
  displayRecord "Pattern"
    [("source", Text.quoted pattern.source),
     ("expected", displayOption (pattern.expected.map Text.quoted)),
     ("regex", displayCall "Regex" [Text.quoted (anchoredText pattern.source)])]

end Pattern

def Transform.display (transform : Transform) : String :=
  displayCall "Transform" [transform.name]

/-- The bounds of a repetition as two named parts. -/
def Bounds.displayParts (bounds : Bounds) : List (String × String) :=
  [("min", toString bounds.min), ("max", displayOption (bounds.max.map toString))]

namespace Parser

mutual

def display : Parser → String
  | .text literal => displayCall "Text" [Text.quoted literal]
  | .pattern matcher => displayCall "Pattern" [matcher.display]
  | .constant value => displayCall "Constant" [value.display]
  | .and first second => displayCall "And" [display first, display second]
  | .or first second => displayCall "Or" [display first, display second]
  | .next first second => displayCall "Next" [display first, display second]
  | .skip first second => displayCall "Skip" [display first, display second]
  | .trim content trimmer =>
      displayRecord "Trim" [("content", display content), ("trimmer", display trimmer)]
  | .sepBy item separator bounds =>
      displayRecord "SepBy"
        ([("item", display item), ("separator", display separator)] ++ bounds.displayParts)
  | .wrap before content none =>
      displayRecord "Wrap"
        [("before", display before), ("content", display content),
         ("after", displayOption none)]
  | .wrap before content (some after) =>
      displayRecord "Wrap"
        [("before", display before), ("content", display content),
         ("after", displayOption (some (display after)))]
  | .all parsers => displayCall "All" [displayList (displayParsers parsers)]
  | .choice parsers => displayCall "Choice" [displayList (displayParsers parsers)]
  | .repetition inner bounds =>
      displayRecord "Repeat" (("inner", display inner) :: bounds.displayParts)
  | .map inner transform =>
      displayRecord "Map" [("inner", display inner), ("transform", transform.display)]
  | .label inner name =>
      displayRecord "Label" [("inner", display inner), ("label", Text.quoted name)]

def displayParsers : List Parser → List String
  | [] => []
  | parser :: rest => display parser :: displayParsers rest

end

end Parser

end ParserGraph

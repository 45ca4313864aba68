import ParserGraph.Text.Hexadecimal
import ParserGraph.Value.Basic

/-!
# Values as JSON text

A value is written on one line without spaces, or over several lines with two
spaces for each level.  Fields are written in the order in which they stand.
-/

namespace ParserGraph.Value

/-- The four hexadecimal digits of a control character. -/
def escapedControl (character : Char) : String :=
  let digits := Text.hexadecimal character.toNat
  "\\u" ++ String.ofList (List.replicate (4 - digits.length) '0') ++ digits

def writeCharacter (character : Char) : String :=
  match character with
  | '"' => "\\\""
  | '\\' => "\\\\"
  | '\x08' => "\\b"
  | '\x0C' => "\\f"
  | '\n' => "\\n"
  | '\r' => "\\r"
  | '\t' => "\\t"
  | _ => if character.toNat < 0x20 then escapedControl character else character.toString

def writeText (content : String) : String :=
  "\"" ++ String.join (content.toList.map writeCharacter) ++ "\""

mutual

def compact : Value → String
  | .null => "null"
  | .bool flag => if flag then "true" else "false"
  | .number amount => amount.write
  | .text content => writeText content
  | .array items => "[" ++ String.intercalate "," (compactItems items) ++ "]"
  | .object fields => "\x7b" ++ String.intercalate "," (compactFields fields) ++ "\x7d"

def compactItems : List Value → List String
  | [] => []
  | item :: rest => compact item :: compactItems rest

def compactFields : List (String × Value) → List String
  | [] => []
  | (key, value) :: rest => (writeText key ++ ":" ++ compact value) :: compactFields rest

end

/-- The line end and the spaces in front of an entry at some depth. -/
def lineBreak (depth : Nat) : String :=
  "\n" ++ String.ofList (List.replicate (2 * depth) ' ')

/-- Entries between brackets, one to a line; without entries the brackets stand together. -/
def block (depth : Nat) (opening closing : String) (entries : List String) : String :=
  if entries.isEmpty then
    opening ++ closing
  else
    opening ++ lineBreak (depth + 1) ++
      String.intercalate ("," ++ lineBreak (depth + 1)) entries ++ lineBreak depth ++ closing

mutual

/-- A value over several lines, at some depth. -/
def indentedAt (depth : Nat) : Value → String
  | .array items => block depth "[" "]" (indentedItems (depth + 1) items)
  | .object fields => block depth "\x7b" "\x7d" (indentedFields (depth + 1) fields)
  | value => compact value

/-- Each item over several lines, at some depth. -/
def indentedItems (depth : Nat) : List Value → List String
  | [] => []
  | item :: rest => indentedAt depth item :: indentedItems depth rest

/-- Each field over several lines, at some depth. -/
def indentedFields (depth : Nat) : List (String × Value) → List String
  | [] => []
  | (key, value) :: rest =>
      (writeText key ++ ": " ++ indentedAt depth value) :: indentedFields depth rest

end

/-- A value over several lines. -/
def indented (value : Value) : String :=
  indentedAt 0 value

end ParserGraph.Value

import ParserGraph.Text.Hexadecimal
import ParserGraph.Text.Visible

/-!
# Quoted text

Text in double quotes that shows every character: quotes, backslashes, tabs and
line ends by a backslash and a letter, and what cannot be seen on its own by the
hexadecimal number of its code point.
-/

namespace ParserGraph.Text

/-- The code point of a character in braces, as quoted text shows what cannot be seen. -/
def escapedCode (character : Char) : String :=
  "\\u\x7b" ++ hexadecimal character.toNat ++ "\x7d"

def quotedCharacter (character : Char) : String :=
  match character with
  | '\x00' => "\\0"
  | '\t' => "\\t"
  | '\n' => "\\n"
  | '\r' => "\\r"
  | '"' => "\\\""
  | '\\' => "\\\\"
  | _ => if isVisible character then character.toString else escapedCode character

def quoted (text : String) : String :=
  "\"" ++ String.join (text.toList.map quotedCharacter) ++ "\""

end ParserGraph.Text

import ParserGraph.Value.Selective
import ParserGraph.Value.Writer
import ParserGraph.Wire.Props

/-!
# Settings

The settings of the command line tool: the options of the trees that it builds,
and whether an input must be read as a whole.
-/

namespace ParserGraph

/-- The settings of the command line tool. -/
structure Settings where
  tree : TreeOptions := {}
  /-- A match must read the whole input. -/
  requireFullInput : Bool := true
deriving DecidableEq, Repr

namespace Settings

/-- Settings as a value, the options of trees in front. -/
def toValue (settings : Settings) : Value :=
  .object [("tree", settings.tree.toValue), ("requireFullInput", .bool settings.requireFullInput)]

/-- Settings from a value; what is missing has its default. -/
def ofValue (value : Value) : Wire.Reads Settings := do
  let record ← Wire.readRecord ["tree", "requireFullInput"] value
  let requireFullInput ← Wire.withDefault record "requireFullInput" Wire.readBool
    ({} : Settings).requireFullInput
  let tree ← Wire.withDefault record "tree" TreeOptions.ofValue {}
  pure { tree, requireFullInput }

/-- The reader of settings, which passes over what they do not know. -/
def reader : Value.TokenReader :=
  Value.takeRecord?
    [("tree", Value.takeRecord? [("naryChildCap", Value.take? false)]),
     ("requireFullInput", Value.take? false)]

/-- Settings from the text of a file, if it holds some. -/
def ofText? (text : String) : Option Settings :=
  (Value.readWith? reader text).bind fun value => (ofValue value).toOption

end Settings

end ParserGraph

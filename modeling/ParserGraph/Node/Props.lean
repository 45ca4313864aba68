import ParserGraph.Parser.Basic
import ParserGraph.Value.Normal

/-!
# Props

What an edit says about a node: everything may be left out, and what is left out
leaves the node as it is.  The label, the transform and the repetition decorate a
node of any kind; the other props belong to some kinds.
-/

namespace ParserGraph

/-- What an edit says about a node. -/
structure Props where
  text : Option String := none
  /-- The source of a pattern leaf. -/
  pattern : Option String := none
  /-- What failures of a pattern leaf name. -/
  expected : Option String := none
  /-- The value of a constant leaf. -/
  value : Option Value.Normal := none
  label : Option String := none
  transform : Option Transform := none
  repetition : Option Bounds := none
  /-- The least number of separated items. -/
  min : Option Nat := none
  /-- The greatest number of separated items; it may be said that there is none. -/
  max : Option (Option Nat) := none

namespace Props

/-- Nothing is said. -/
def isEmpty (props : Props) : Bool :=
  props.text.isNone && props.pattern.isNone && props.expected.isNone && props.value.isNone &&
    props.label.isNone && props.transform.isNone && props.repetition.isNone &&
    props.min.isNone && props.max.isNone

/-- Only the props that decorate a node of any kind. -/
def decoration (props : Props) : Props :=
  { label := props.label, transform := props.transform, repetition := props.repetition }

/-- Earlier props with later ones over them; what the later ones say wins. -/
def overlay (earlier later : Props) : Props :=
  { text := later.text.or earlier.text
    pattern := later.pattern.or earlier.pattern
    expected := later.expected.or earlier.expected
    value := later.value.or earlier.value
    label := later.label.or earlier.label
    transform := later.transform.or earlier.transform
    repetition := later.repetition.or earlier.repetition
    min := later.min.or earlier.min
    max := later.max.or earlier.max }

@[simp]
theorem overlay_empty (props : Props) : props.overlay {} = props := by
  simp [overlay]

end Props

/-- What is applied to the combined parser of a node. -/
structure Decoration where
  label : Option String := none
  transform : Option Transform := none
  /-- The bounds of a repetition; any number of items means no repetition. -/
  repetition : Bounds := {}

namespace Decoration

def overlay (decoration : Decoration) (props : Props) : Decoration :=
  { label := props.label.or decoration.label
    transform := props.transform.or decoration.transform
    repetition := props.repetition.getD decoration.repetition }

@[simp]
theorem overlay_empty (decoration : Decoration) : decoration.overlay {} = decoration := by
  simp [overlay]

/-- Props one after the other decorate as their overlay does. -/
theorem overlay_overlay (decoration : Decoration) (first second : Props) :
    (decoration.overlay first).overlay second = decoration.overlay (first.overlay second) := by
  cases second_repetition : second.repetition <;>
    simp [overlay, Props.overlay, Option.or_assoc, second_repetition]

/-- Only the decorating props count. -/
@[simp]
theorem overlay_decoration (decoration : Decoration) (props : Props) :
    decoration.overlay props.decoration = decoration.overlay props := rfl

end Decoration

end ParserGraph

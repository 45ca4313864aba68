import ParserGraph.Node.Error
import ParserGraph.Node.Props

/-!
# Kinds of nodes

The closed set of kinds that nodes have, and the tags that name them.  A tag and
the first props of a node give its kind; later props change what the kind holds
and never the kind itself.
-/

namespace ParserGraph

/-- Operators on two parsers. -/
inductive PairOperator where
  | and
  | or
  | next
  | skip
  | trim
deriving DecidableEq, Repr

/-- Operators on any number of parsers. -/
inductive SeriesOperator where
  /-- All in order. -/
  | all
  /-- The first that matches. -/
  | choice
deriving DecidableEq, Repr

/-- The kind of a node. -/
inductive Kind where
  /-- A leaf that matches a text. -/
  | text (literal : String)
  /-- A leaf that matches a pattern. -/
  | pattern (source : String) (expected : Option String)
  /-- A leaf that produces a value. -/
  | constant (value : Value)
  | pair (operator : PairOperator)
  /-- Items with separators between them. -/
  | sepBy (bounds : Bounds)
  /-- A content between two others. -/
  | wrap
  | series (operator : SeriesOperator)

/-- The number of parsers that a tree combines by `all` and `choice` at most. -/
structure TreeOptions where
  /-- The most children of such a node. -/
  naryChildCap : Nat := 3
deriving DecidableEq, Repr

namespace Kind

def pairTag : PairOperator → String
  | .and => "and"
  | .or => "or"
  | .next => "next"
  | .skip => "skip"
  | .trim => "trim"

/-- The tag of an operator on any number of parsers. -/
def seriesTag : SeriesOperator → String
  | .all => "all"
  | .choice => "choice"

def tag : Kind → String
  | .text _ => "string"
  | .pattern _ _ => "match"
  | .constant _ => "noop"
  | .pair operator => pairTag operator
  | .sepBy _ => "sepBy"
  | .wrap => "wrap"
  | .series operator => seriesTag operator

def isLeaf : Kind → Bool
  | .text _ | .pattern _ _ | .constant _ => true
  | _ => false

/-- The most children of a combinator of two or three parsers. -/
def combinatorChildCap : Nat := 3

def maxChildren (options : TreeOptions) : Kind → Nat
  | .text _ | .pattern _ _ | .constant _ => 0
  | .pair _ | .sepBy _ | .wrap => combinatorChildCap
  | .series _ => options.naryChildCap

def required (tag prop : String) : Option String → Except EditError String
  | some content => .ok content
  | none => .error (.missingProp tag prop)

def resolve (tag : String) (props : Props) : Except EditError Kind :=
  match tag with
  | "string" => (required tag "text" props.text).map .text
  | "match" => (required tag "pattern" props.pattern).map (.pattern · props.expected)
  | "noop" => .ok (.constant ((props.value.map Value.Normal.value).getD .null))
  | "and" => .ok (.pair .and)
  | "or" => .ok (.pair .or)
  | "next" => .ok (.pair .next)
  | "skip" => .ok (.pair .skip)
  | "trim" => .ok (.pair .trim)
  | "sepBy" => .ok (.sepBy { min := props.min.getD 0, max := props.max.getD none })
  | "wrap" => .ok .wrap
  | "all" => .ok (.series .all)
  | "choice" => .ok (.series .choice)
  | _ => .error (.unknownNodeKind tag)

/-- The kind with props over what it holds. -/
def withProps (props : Props) : Kind → Kind
  | .text literal => .text (props.text.getD literal)
  | .pattern source expected =>
      .pattern (props.pattern.getD source) (props.expected.or expected)
  | .constant value => .constant ((props.value.map Value.Normal.value).getD value)
  | .sepBy bounds =>
      .sepBy { min := props.min.getD bounds.min, max := props.max.getD bounds.max }
  | kind => kind

@[simp]
theorem tag_withProps (props : Props) (kind : Kind) : (kind.withProps props).tag = kind.tag := by
  cases kind <;> rfl

@[simp]
theorem isLeaf_withProps (props : Props) (kind : Kind) :
    (kind.withProps props).isLeaf = kind.isLeaf := by
  cases kind <;> rfl

@[simp]
theorem maxChildren_withProps (options : TreeOptions) (props : Props) (kind : Kind) :
    (kind.withProps props).maxChildren options = kind.maxChildren options := by
  cases kind <;> rfl

@[simp]
theorem withProps_empty (kind : Kind) : kind.withProps {} = kind := by
  cases kind <;> simp [withProps]

/-- Props that only decorate say nothing to a kind. -/
@[simp]
theorem withProps_decoration (kind : Kind) (props : Props) :
    kind.withProps props.decoration = kind := by
  cases kind <;> simp [withProps, Props.decoration]

/-- Props one after the other change a kind as their overlay does. -/
theorem withProps_withProps (first second : Props) (kind : Kind) :
    (kind.withProps first).withProps second = kind.withProps (first.overlay second) := by
  cases second_text : second.text <;> cases second_pattern : second.pattern <;>
    cases second_value : second.value <;> cases second_min : second.min <;>
    cases second_max : second.max <;> cases kind <;>
    simp_all [withProps, Props.overlay, Option.or_assoc]

/-- Kinds that the program takes as equal: values by number, all else alike. -/
def same : Kind → Kind → Bool
  | .text first, .text second => first == second
  | .pattern first expected, .pattern second expected' =>
      first == second && expected == expected'
  | .constant first, .constant second => first.same second
  | .pair first, .pair second => first == second
  | .sepBy first, .sepBy second => first == second
  | .wrap, .wrap => true
  | .series first, .series second => first == second
  | _, _ => false

end Kind

end ParserGraph

import ParserGraph.Node.Kind

/-!
# Compiling a node

The parser of a node is combined from the parsers of its children, as its kind
says, and then decorated: first by its label, then by its repetition, then by its
transform.  A combinator of two or three parsers passes a single child through
and ignores children beyond those that it takes.
-/

namespace ParserGraph

namespace PairOperator

def combine (first second : Parser) : PairOperator → Parser
  | .and => .and first second
  | .or => .or first second
  | .next => .next first second
  | .skip => .skip first second
  | .trim => .trim first second

end PairOperator

namespace SeriesOperator

def combine (parsers : List Parser) : SeriesOperator → Parser
  | .all => .all parsers
  | .choice => .choice parsers

end SeriesOperator

namespace Kind

def combinePattern (source : String) (expected : Option String) : Except EditError Parser :=
  match Pattern.ofSource? source expected with
  | some matcher => .ok (.pattern matcher)
  | none => .error (.invalidPattern source)

/-- The parser of two parsers or, of one, that one. -/
def combinePair
    (tag : String)
    (operate : Parser → Parser → Parser) :
    List Parser → Except EditError Parser
  | [] => .error (.incompleteCombinator tag)
  | [only] => .ok only
  | first :: second :: _ => .ok (operate first second)

/-- The first child is the content, the second stands in front and the third behind it. -/
def combineWrap : List Parser → Except EditError Parser
  | [] => .error (.incompleteCombinator "wrap")
  | [only] => .ok only
  | [content, before] => .ok (.wrap before content none)
  | content :: before :: after :: _ => .ok (.wrap before content (some after))

/-- The parser that a kind makes of the parsers of its children. -/
def combine (kind : Kind) (children : List Parser) : Except EditError Parser :=
  match kind with
  | .text literal => .ok (.text literal)
  | .pattern source expected => combinePattern source expected
  | .constant value => .ok (.constant value)
  | .pair operator =>
      combinePair kind.tag (fun first second => operator.combine first second) children
  | .sepBy bounds =>
      combinePair kind.tag (fun item separator => .sepBy item separator bounds) children
  | .wrap => combineWrap children
  | .series operator =>
      if children.isEmpty then
        .error (.incompleteCombinator kind.tag)
      else
        .ok (operator.combine children)

end Kind

namespace Decoration

/-- The parser with the label, the repetition and the transform that are asked for. -/
def apply (decoration : Decoration) (base : Parser) : Parser :=
  let labelled :=
    match decoration.label with
    | some name => .label base name
    | none => base
  let repeated :=
    if decoration.repetition.isConfigured then .repetition labelled decoration.repetition
    else labelled
  match decoration.transform with
  | some transform => .map repeated transform
  | none => repeated

end Decoration

/-- The parser of a node, from its kind, its children's parsers and its decoration. -/
def Kind.compile
    (kind : Kind)
    (children : List Parser)
    (decoration : Decoration) :
    Except EditError Parser :=
  (kind.combine children).map decoration.apply

end ParserGraph

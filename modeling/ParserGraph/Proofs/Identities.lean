import ParserGraph.Proofs.Parser.Components
import ParserGraph.Tree.Edit

/-!
# Identities of transforms

Transforms that do the same are told apart by an identity, which nothing but the comparison
of two transforms looks at.  Giving all transforms in props, decorations and parsers one
identity leaves everything else about them as it was, and commutes with merging props, with
combining parsers and with decorating them.
-/

namespace ParserGraph

/-- The same transform with another identity. -/
def Transform.withIdentity (identity : Nat) (transform : Transform) : Transform :=
  { transform with identity }

@[simp]
theorem Transform.name_withIdentity (identity : Nat) (transform : Transform) :
    (transform.withIdentity identity).name = transform.name := rfl

variable {identity : Nat}

@[simp]
theorem Transform.withIdentity_withIdentity (other : Nat) (transform : Transform) :
    (transform.withIdentity other).withIdentity identity = transform.withIdentity identity := rfl

/-! ## Props and decorations -/

namespace Props

/-- The same props with another identity of the transform. -/
def withIdentity (identity : Nat) (props : Props) : Props :=
  { props with transform := props.transform.map (Transform.withIdentity identity) }

@[simp]
theorem withIdentity_withIdentity (other : Nat) (props : Props) :
    (props.withIdentity other).withIdentity identity = props.withIdentity identity := by
  simp [withIdentity, Function.comp_def]

theorem withIdentity_overlay (earlier later : Props) :
    (earlier.overlay later).withIdentity identity =
      (earlier.withIdentity identity).overlay (later.withIdentity identity) := by
  simp [withIdentity, overlay, Option.map_or]

@[simp]
theorem isEmpty_withIdentity (props : Props) :
    (props.withIdentity identity).isEmpty = props.isEmpty := by
  simp [isEmpty, withIdentity]

end Props

namespace Decoration

/-- The same decoration with another identity of the transform. -/
def withIdentity (identity : Nat) (decoration : Decoration) : Decoration :=
  { decoration with transform := decoration.transform.map (Transform.withIdentity identity) }

theorem withIdentity_overlay (decoration : Decoration) (props : Props) :
    (decoration.overlay props).withIdentity identity =
      (decoration.withIdentity identity).overlay (props.withIdentity identity) := by
  simp [withIdentity, overlay, Props.withIdentity, Option.map_or]

end Decoration

namespace Kind

/-- The kind of a node has nothing to do with transforms. -/
@[simp]
theorem resolve_withIdentity (tag : String) (props : Props) :
    resolve tag (props.withIdentity identity) = resolve tag props := rfl

@[simp]
theorem withProps_withIdentity (kind : Kind) (props : Props) :
    kind.withProps (props.withIdentity identity) = kind.withProps props := by
  cases kind <;> rfl

end Kind

/-! ## Parsers -/

namespace Parser

mutual

/-- The parser with one identity for all its transforms. -/
def withIdentity (identity : Nat) : Parser → Parser
  | .text literal => .text literal
  | .pattern matcher => .pattern matcher
  | .constant value => .constant value
  | .and first second => .and (withIdentity identity first) (withIdentity identity second)
  | .or first second => .or (withIdentity identity first) (withIdentity identity second)
  | .next first second => .next (withIdentity identity first) (withIdentity identity second)
  | .skip first second => .skip (withIdentity identity first) (withIdentity identity second)
  | .trim content trimmer =>
      .trim (withIdentity identity content) (withIdentity identity trimmer)
  | .sepBy item separator bounds =>
      .sepBy (withIdentity identity item) (withIdentity identity separator) bounds
  | .wrap before content none =>
      .wrap (withIdentity identity before) (withIdentity identity content) none
  | .wrap before content (some after) =>
      .wrap (withIdentity identity before) (withIdentity identity content)
        (some (withIdentity identity after))
  | .all parsers => .all (withIdentityList identity parsers)
  | .choice parsers => .choice (withIdentityList identity parsers)
  | .repetition inner bounds => .repetition (withIdentity identity inner) bounds
  | .map inner transform => .map (withIdentity identity inner) (transform.withIdentity identity)
  | .label inner name => .label (withIdentity identity inner) name

def withIdentityList (identity : Nat) : List Parser → List Parser
  | [] => []
  | parser :: rest => withIdentity identity parser :: withIdentityList identity rest

end

@[simp]
theorem withIdentityList_eq_map (parsers : List Parser) :
    withIdentityList identity parsers = parsers.map (withIdentity identity) := by
  induction parsers with
  | nil => rfl
  | cons parser rest hypothesis => simp [withIdentityList, hypothesis]

/-- Transforms are given the identity, and all else is changed inside. -/
theorem changesInside_withIdentity : ChangesInside (withIdentity identity) := by
  intro parser _ untransformed
  cases parser with
  | map inner transform => exact absurd rfl (untransformed inner transform)
  | wrap before content after => cases after <;> rfl
  | all parsers => exact congrArg Parser.all (withIdentityList_eq_map parsers)
  | choice parsers => exact congrArg Parser.choice (withIdentityList_eq_map parsers)
  | _ => rfl

end Parser

/-- A decorated parser is given an identity by giving it to both parts. -/
theorem Decoration.withIdentity_apply (decoration : Decoration) (base : Parser) :
    (decoration.apply base).withIdentity identity =
      (decoration.withIdentity identity).apply (base.withIdentity identity) :=
  Parser.changesInside_withIdentity.apply (fun _ _ => rfl) decoration base

/-- Combining does not look at transforms. -/
theorem Kind.combine_withIdentity (kind : Kind) (children : List Parser) :
    kind.combine (children.map (Parser.withIdentity identity)) =
      (kind.combine children).map (Parser.withIdentity identity) := by
  cases kind with
  | constant value => rfl
  | _ => exact Parser.changesInside_withIdentity.combine (by simp) children

namespace Edit

/-- The same edit with other props, where it has some. -/
def mapProps (change : Props → Props) : Edit → Edit
  | .create tag props => .create tag (change props)
  | .update node delta => .update node (change delta)
  | edit => edit

end Edit

end ParserGraph

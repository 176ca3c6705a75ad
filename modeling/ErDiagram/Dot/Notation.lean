import ErDiagram.Diagram.Cardinality
import ErDiagram.Text.Case

set_option autoImplicit false

/-!
# Drawing notations

The same diagram is drawn in several notations, which differ in their arrow heads, in the labels at
the ends of an edge, in the style of its line and in the shape of the nodes.
-/

namespace ErDiagram

/-- The notation of a drawing. -/
inductive DotNotation where
  | default
  /-- information engineering -/
  | ie
  /-- information engineering, where neither nodes nor lines show dependency -/
  | ieStrict
  /-- integration definition for information modeling -/
  | idef1x
  deriving DecidableEq, Repr, Inhabited

namespace DotNotation

/-- Every notation. -/
def all : List DotNotation := [default, ie, ieStrict, idef1x]

/-- The spelling of a notation. -/
def spelling : DotNotation → Text
  | default => "default".toList
  | ie => "ie".toList
  | ieStrict => "ie-strict".toList
  | idef1x => "idef1x".toList

/-- The notation of a spelling in whatever case, with or without blanks around it. -/
def ofSpelling? (t : Text) : Option DotNotation :=
  let key := Text.lower (Text.strip t)
  all.find? fun n => n.spelling == key

end DotNotation

/-- The direction in which a drawing grows. -/
inductive RankDirection where
  | leftToRight
  | topToBottom
  deriving DecidableEq, Repr, Inhabited

namespace RankDirection

/-- Both directions. -/
def all : List RankDirection := [leftToRight, topToBottom]

/-- The spelling of a direction. -/
def spelling : RankDirection → Text
  | leftToRight => "LR".toList
  | topToBottom => "TB".toList

/-- The direction of a spelling in whatever case, with or without blanks around it. -/
def ofSpelling? (t : Text) : Option RankDirection :=
  let key := Text.upper (Text.strip t)
  all.find? fun d => d.spelling == key

end RankDirection

/-! ## Styles -/

/-- The arrow head of information engineering. -/
def ieArrow : Count → Optionality → Text
  | .one, .optional => "teeodot".toList
  | .one, .mandatory => "teetee".toList
  | .many, .optional => "crowodot".toList
  | .many, .mandatory => "crowtee".toList
  | _, _ => "none".toList

/-- The arrow head that shows the role of a side. -/
def roleArrow (e : End) (role : Role) : Text :=
  if e.count = .unspecified then "none".toList
  else
    match role with
    | .parent => if e.optionality = .mandatory then "none".toList else "odiamond".toList
    | .child => "dot".toList
    | .none => "none".toList

/-- The arrow head at one end of an edge. -/
def DotNotation.arrow (n : DotNotation) (e : End) (role : Role) : Text :=
  match n with
  | .ie | .ieStrict => ieArrow e.count e.optionality
  | .idef1x => roleArrow e role
  | .default => "none".toList

/-- The letter that stands for the count at the child end. -/
def childLabel : Count → Optionality → Text
  | .one, .mandatory => "1".toList
  | .one, .optional => "Z".toList
  | .many, .mandatory => "P".toList
  | _, _ => []

/-- The label at one end of an edge; only one notation has labels, at the child end. -/
def DotNotation.endLabel (n : DotNotation) (e : End) (role : Role) : Text :=
  match n, role with
  | .idef1x, .child => childLabel e.count e.optionality
  | _, _ => []

/-- The style of an edge: dashed for a relationship that does not identify the child. -/
def DotNotation.edgeStyle (n : DotNotation) (kind : RelationshipKind) : Text :=
  match n, kind with
  | .ieStrict, _ => "solid".toList
  | _, .nonIdentifying => "dashed".toList
  | _, _ => "solid".toList

/-- The shape of a node: square corners for an independent entity. -/
def DotNotation.nodeShape (n : DotNotation) (dependency : Option Dependency) : Text :=
  match n, dependency with
  | .ieStrict, _ => "record".toList
  | _, some .independent => "record".toList
  | _, _ => "Mrecord".toList

end ErDiagram

import ErDiagram.Notation.Field

set_option autoImplicit false

/-!
# Lines

A document is a list of numbered lines.  What a line is for shows in its brackets once its comment
is gone: a line between curly brackets holds global options, a line that opens with an entity
bracket names an entity or relates two of them, and any other line is an attribute.
-/

namespace ErDiagram

/-- A line and its number in the document. -/
structure Line where
  number : Int
  text : Text
  deriving DecidableEq, Repr, Inhabited

namespace Line

/-- The line that stands for no line of a document. -/
def absent : Line := ⟨0, []⟩

/-- Numbers texts as lines, from a first number on. -/
def numberFrom (n : Nat) : List Text → List Line
  | [] => []
  | t :: rest => ⟨(n : Int), t⟩ :: numberFrom (n + 1) rest

/-- Numbers texts as lines, from one on. -/
def ofTexts (texts : List Text) : List Line := numberFrom 1 texts

end Line

/-- What a line is for. -/
inductive LineKind where
  /-- a line that opens with an entity bracket and has neither one nor two entity groups -/
  | unknown
  /-- nothing but blanks -/
  | blank
  /-- nothing but a comment -/
  | commentOnly
  /-- options of the whole diagram -/
  | globalOptions
  /-- the name of an entity, which opens its block -/
  | entityName
  /-- an attribute of the entity whose block is open -/
  | entityAttribute
  /-- a relationship between two entities -/
  | relationship
  deriving DecidableEq, Repr, Inhabited

/-- The first kind of bracket that encloses a field. -/
def enclosing? (field : Text) : Option Bracket := Bracket.all.find? fun b => b.encloses field

/-- The field is a closed group that holds an entity name. -/
def isEntityGroup (field : Text) : Bool :=
  match enclosing? field with
  | some .square => true
  | some .round => true
  | _ => false

/-- The number of closed entity groups among the fields of a text. -/
def entityGroups (t : Text) : Nat := (Field.cut t Bracket.all).countP isEntityGroup

/-- The kind of a line whose comment and outer blanks are gone. -/
def LineKind.ofBody (body : Text) : LineKind :=
  if isEnclosed body [.curly] then .globalOptions
  else if !opensWith body Bracket.entity then .entityAttribute
  else
    match entityGroups body with
    | 1 => .entityName
    | 2 => .relationship
    | _ => .unknown

/-- The text of a line without its comment and the blanks around the rest. -/
def Line.body (line : Line) : Text := Text.strip (Quoting.removeComment (Text.strip line.text))

/-- What a line is for. -/
def Line.kind (line : Line) : LineKind :=
  if (Text.strip line.text).isEmpty then .blank
  else if line.body.isEmpty then .commentOnly
  else LineKind.ofBody line.body

end ErDiagram

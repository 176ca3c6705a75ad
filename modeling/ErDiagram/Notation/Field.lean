import ErDiagram.Notation.Quoting

set_option autoImplicit false

/-!
# Brackets and fields of a line

A line falls into fields: runs of free text, and groups that go from an unquoted opening bracket to
the first unquoted closing bracket of the same kind.  A group that is never closed takes the rest of
the line.  The fields in a row are the line again.
-/

namespace ErDiagram

/-! ## Brackets

The notation tells its parts apart by their brackets: square and round ones hold entity names, angle
brackets a verb phrase, curly ones a list of options. -/

/-- A kind of bracket. -/
inductive Bracket where
  /-- around the name of an independent entity -/
  | square
  /-- around the name of a dependent entity -/
  | round
  /-- around a verb phrase -/
  | angle
  /-- around an option list -/
  | curly
  deriving DecidableEq, Repr, Inhabited

namespace Bracket

/-- The opening character. -/
def left : Bracket → Char
  | square => '['
  | round => '('
  | angle => '<'
  | curly => '{'

/-- The closing character. -/
def right : Bracket → Char
  | square => ']'
  | round => ')'
  | angle => '>'
  | curly => '}'

/-- Every kind, in the order in which they are tried. -/
def all : List Bracket := [square, round, angle, curly]

/-- The kinds that hold an entity name. -/
def entity : List Bracket := [square, round]

/-- The kind that a character opens. -/
def byLeft? (c : Char) : Option Bracket := all.find? fun b => b.left == c

/-- The text stands between brackets of this kind. -/
def encloses (b : Bracket) (t : Text) : Bool := t.startsWith b.left && t.endsWith b.right

end Bracket

/-- The text stands between brackets of one of these kinds. -/
def isEnclosed (t : Text) (kinds : List Bracket) : Bool := kinds.any fun b => b.encloses t

/-- The text opens with a bracket of one of these kinds. -/
def opensWith (t : Text) (kinds : List Bracket) : Bool := kinds.any fun b => t.startsWith b.left

/-- What stands between the brackets that enclose a text, without blanks around it.  A text that is
not enclosed stays as it is. -/
def stripBrackets (t : Text) (kinds : List Bracket) : Text :=
  if isEnclosed t kinds then Text.strip t.inner else t

/-! ## Fields -/

/-- What the characters at hand belong to. -/
inductive FieldState where
  /-- free text; the flag says whether the position is quoted -/
  | free (quoted : Bool)
  /-- a group of this kind of bracket -/
  | group (kind : Bracket) (quoted : Bool)
  deriving DecidableEq, Repr, Inhabited

namespace Field

/-- The field collected so far, its last character first, unless it is empty. -/
def close : Text → List Text
  | [] => []
  | collected => [collected.reverse]

/-- The kind of group that a character opens. -/
def opened? (kinds : List Bracket) (c : Char) : Option Bracket :=
  kinds.find? fun b => b.left == c

/-- Cuts a text into fields, given what has been collected of the current one, last character first. -/
def cutFrom (kinds : List Bracket) : FieldState → Text → Text → List Text
  | _, collected, [] => close collected
  | .free quoted, collected, c :: cs =>
    match quoted, opened? kinds c with
    | false, some kind => close collected ++ cutFrom kinds (.group kind false) [c] cs
    | _, _ => cutFrom kinds (.free (Quoting.afterChar quoted c)) (c :: collected) cs
  | .group kind quoted, collected, c :: cs =>
    if !quoted && c == kind.right then close (c :: collected) ++ cutFrom kinds (.free false) [] cs
    else cutFrom kinds (.group kind (Quoting.afterChar quoted c)) (c :: collected) cs

/-- The fields of a text, where brackets of the given kinds open groups. -/
def cut (t : Text) (kinds : List Bracket) : List Text := cutFrom kinds (.free false) [] t

end Field

end ErDiagram

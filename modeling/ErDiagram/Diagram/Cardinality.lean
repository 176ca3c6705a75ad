import ErDiagram.Text.Basic

set_option autoImplicit false

/-!
# Cardinalities, kinds and roles

The vocabulary of a relationship: how many entities stand at either end and whether one has to,
whether an entity depends on others for its identity, and which way a verb phrase reads.  From these
follow the kind of the relationship and the roles of its sides.
-/

namespace ErDiagram

/-- Whether an entity needs other entities to be identified. -/
inductive Dependency where
  | unspecified
  | independent
  | dependent
  deriving DecidableEq, Repr, Inhabited

/-- How many entities stand at one end of a relationship. -/
inductive Count where
  | unspecified
  | one
  | many
  deriving DecidableEq, Repr, Inhabited

/-- Whether an entity has to stand at one end of a relationship. -/
inductive Optionality where
  | unspecified
  | optional
  | mandatory
  deriving DecidableEq, Repr, Inhabited

/-- What is said about one end of a relationship. -/
structure End where
  count : Count
  optionality : Optionality
  deriving DecidableEq, Repr, Inhabited

/-- The end about which nothing is said. -/
def End.unspecified : End := ⟨.unspecified, .unspecified⟩

/-- What is said about both ends of a relationship. -/
structure Cardinality where
  first : End
  second : End
  deriving DecidableEq, Repr, Inhabited

/-- The cardinality that says nothing. -/
def Cardinality.unspecified : Cardinality := ⟨End.unspecified, End.unspecified⟩

/-- The way a verb phrase reads. -/
inductive Direction where
  | unspecified
  | firstToSecond
  | secondToFirst
  deriving DecidableEq, Repr, Inhabited

/-- The opposite way. -/
def Direction.reversed : Direction → Direction
  | .unspecified => .unspecified
  | .firstToSecond => .secondToFirst
  | .secondToFirst => .firstToSecond

/-- The words on a relationship and the way they read. -/
structure VerbPhrase where
  text : Text := []
  direction : Direction := .unspecified
  deriving DecidableEq, Repr, Inhabited

/-- The same words read the other way. -/
def VerbPhrase.reversed (v : VerbPhrase) : VerbPhrase := ⟨v.text, v.direction.reversed⟩

/-! ## Kinds of relationships and roles of their sides

The counts at the two ends of a relationship and the dependency of its two sides decide what kind of
relationship it is, which side is the parent and which the child, and whether the sides may be
dependent at all. -/

/-- The kind of a relationship. -/
inductive RelationshipKind where
  | unspecified
  /-- the child is identified by its parent -/
  | identifying
  /-- the child is identified on its own -/
  | nonIdentifying
  /-- many to many -/
  | nonSpecific
  deriving DecidableEq, Repr, Inhabited

/-- The role that one side plays. -/
inductive Role where
  | none
  | parent
  | child
  deriving DecidableEq, Repr, Inhabited

namespace RelationshipKind

/-- The kind that follows from the counts and the dependencies of both sides. -/
def judge (c1 c2 : Count) (d1 d2 : Dependency) : RelationshipKind :=
  let bothIndependent := d1 = .independent ∧ d2 = .independent
  match c1, c2 with
  | .one, .one | .one, .many | .many, .one => if bothIndependent then nonIdentifying else identifying
  | .many, .many => nonSpecific
  | .unspecified, .unspecified => if bothIndependent then unspecified else identifying
  | _, _ => unspecified

end RelationshipKind

namespace Role

/-- The roles when the counts leave the dependencies to decide. -/
def ofDependencies : Dependency → Dependency → Role × Role
  | .independent, .dependent => (parent, child)
  | .dependent, .independent => (child, parent)
  | _, _ => (none, none)

/-- The roles that follow from the counts and the dependencies of both sides. -/
def judge (c1 c2 : Count) (d1 d2 : Dependency) : Role × Role :=
  match c1, c2 with
  | .one, .one => if d1 = .independent ∧ d2 = .independent then (parent, child) else ofDependencies d1 d2
  | .one, .many => (parent, child)
  | .many, .one => (child, parent)
  | .many, .many => (child, child)
  | .unspecified, .unspecified => ofDependencies d1 d2
  | _, _ => (none, none)

end Role

/-- The dependencies of both sides fit the counts: at most one side is dependent, the one side of a
one-to-many relationship never is, and neither side of a many-to-many relationship is. -/
def allowsDependencies (c1 c2 : Count) (d1 d2 : Dependency) : Bool :=
  let dependent1 := d1 == .dependent
  let dependent2 := d2 == .dependent
  if dependent1 && dependent2 then false
  else
    match c1, c2 with
    | .one, .many => !dependent1
    | .many, .one => !dependent2
    | .many, .many => !(dependent1 || dependent2)
    | _, _ => true

end ErDiagram

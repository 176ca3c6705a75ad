import ErDiagram.Diagram.Cardinality
import ErDiagram.Diagram.OptionMap

set_option autoImplicit false

/-!
# Diagrams

A diagram has entities with their attributes, relationships between entities given by name, and
options of its own.  The kind of a relationship and the roles of its sides are not stored: they are
functions of what is.
-/

namespace ErDiagram

/-! ## Ids

Entities and relationships get ids that consist of a word and a number.  Each word has a counter of
its own, which only grows, so no id is handed out twice. -/

/-- The counters: how many ids of each word have been handed out. -/
structure IdSource where
  counters : List (Text × Nat) := []
  deriving DecidableEq, Repr, Inhabited

namespace IdSource

/-- How many ids of a word have been handed out. -/
def issued (s : IdSource) (word : Text) : Nat := (s.counters.lookup word).getD 0

/-- The id of a word and a number. -/
def idOf (word : Text) (n : Nat) : Text := word ++ '_' :: Text.ofNat n

/-- The next id of a word, and the counters after it. -/
def next (s : IdSource) (word : Text) : Text × IdSource :=
  (idOf word (s.issued word + 1), ⟨Table.put word (s.issued word + 1) s.counters⟩)

/-- The word in the ids of entities. -/
def entityWord : Text := "entity".toList

/-- The word in the ids of relationships. -/
def relationshipWord : Text := "relationship".toList

/-- The next id of an entity. -/
def nextEntity (s : IdSource) : Text × IdSource := s.next entityWord

/-- The next id of a relationship. -/
def nextRelationship (s : IdSource) : Text × IdSource := s.next relationshipWord

end IdSource

/-! ## Entities and relationships -/

/-- An attribute of an entity. -/
structure Attribute where
  name : Text
  isPrimaryKey : Bool := false
  isForeignKey : Bool := false
  options : OptionMap := OptionMap.ofNames OptionName.ofAttribute
  deriving DecidableEq, Repr, Inhabited

/-- The attribute is part of the primary key and refers to another entity. -/
def Attribute.isPrimaryForeignKey (a : Attribute) : Bool := a.isPrimaryKey && a.isForeignKey

/-- An entity. -/
structure Entity where
  id : Text
  name : Text
  dependency : Dependency := .independent
  attributes : List Attribute := []
  options : OptionMap := OptionMap.ofNames OptionName.ofEntity
  deriving DecidableEq, Repr, Inhabited

/-- The entity, marked dependent. -/
def Entity.asDependent (e : Entity) : Entity := { e with dependency := .dependent }

/-- One side of a relationship: the name of its entity, and whether the relationship calls it
dependent. -/
structure Side where
  name : Text
  dependency : Dependency := .independent
  deriving DecidableEq, Repr, Inhabited

/-- A relationship between two entities. -/
structure Relationship where
  id : Text
  first : Side
  second : Side
  cardinality : Cardinality := Cardinality.unspecified
  verb : VerbPhrase := {}
  options : OptionMap := OptionMap.ofNames OptionName.ofRelationship
  deriving DecidableEq, Repr, Inhabited

namespace Relationship

/-- The kind of the relationship. -/
def kind (r : Relationship) : RelationshipKind :=
  RelationshipKind.judge r.cardinality.first.count r.cardinality.second.count
    r.first.dependency r.second.dependency

/-- The roles of the first and the second side. -/
def roles (r : Relationship) : Role × Role :=
  Role.judge r.cardinality.first.count r.cardinality.second.count
    r.first.dependency r.second.dependency

/-- The relationship with other dependencies on its sides. -/
def withDependencies (r : Relationship) (d1 d2 : Dependency) : Relationship :=
  { r with first := ⟨r.first.name, d1⟩, second := ⟨r.second.name, d2⟩ }

/-- An entity takes part in the relationship on a side that is called dependent. -/
def hasDependentSide (r : Relationship) (name : Text) : Bool :=
  (r.first.name == name && r.first.dependency == .dependent)
    || (r.second.name == name && r.second.dependency == .dependent)

/-- The dependencies of the sides fit the counts. -/
def isAllowed (r : Relationship) : Bool :=
  allowsDependencies r.cardinality.first.count r.cardinality.second.count
    r.first.dependency r.second.dependency

end Relationship

/-- A diagram. -/
structure Diagram where
  entities : List Entity := []
  relationships : List Relationship := []
  options : OptionMap := OptionMap.ofNames OptionName.ofDiagram
  deriving DecidableEq, Repr, Inhabited

/-- The entity of a name; of several, the last. -/
def Diagram.entity? (d : Diagram) (name : Text) : Option Entity :=
  d.entities.reverse.find? fun e => e.name == name

end ErDiagram

import ErDiagram.Event

set_option autoImplicit false

/-!
# Inferred dependency

An independent entity is in truth dependent if one of its attributes is both a primary and a foreign
key, or if an identifying relationship calls it dependent.  A relationship in turn calls its sides
dependent where their entities are, as far as the counts allow it.  One round of each is enough.
-/

namespace ErDiagram

/-- An independent entity has to be dependent after all. -/
def Entity.mustBeDependent (e : Entity) (relationships : List Relationship) : Bool :=
  e.attributes.any Attribute.isPrimaryForeignKey
    || relationships.any fun r => r.kind == .identifying && r.hasDependentSide e.name

/-- The entity is independent and has to be dependent. -/
def Entity.isUpgraded (relationships : List Relationship) (e : Entity) : Bool :=
  e.dependency == .independent && e.mustBeDependent relationships

/-- The entity with the dependency that the relationships give it. -/
def Entity.upgrade (relationships : List Relationship) (e : Entity) : Entity :=
  if e.isUpgraded relationships then e.asDependent else e

/-- The entities with the dependencies that the relationships give them. -/
def propagate (entities : List Entity) (relationships : List Relationship) : List Entity :=
  entities.map (Entity.upgrade relationships)

/-- What is recorded about the entities whose dependency changes. -/
def propagateEvents (entities : List Entity) (relationships : List Relationship) : List Event :=
  (entities.filter (Entity.isUpgraded relationships)).map fun e => .inferredDependent e.name

/-! ## Sides of relationships -/

/-- Some entity of this name is dependent. -/
def namesDependent (entities : List Entity) (name : Text) : Bool :=
  entities.any fun e => e.name == name && e.dependency == .dependent

/-- The dependency of the first side: dependent if its entity is and the counts allow it. -/
def Relationship.alignedFirst (entities : List Entity) (r : Relationship) : Dependency :=
  if namesDependent entities r.first.name
      && allowsDependencies r.cardinality.first.count r.cardinality.second.count
        .dependent r.second.dependency
  then .dependent else r.first.dependency

/-- The dependency of the second side, decided after the first. -/
def Relationship.alignedSecond (entities : List Entity) (r : Relationship) : Dependency :=
  if namesDependent entities r.second.name
      && allowsDependencies r.cardinality.first.count r.cardinality.second.count
        (r.alignedFirst entities) .dependent
  then .dependent else r.second.dependency

/-- The relationship with the dependencies that the entities give its sides. -/
def Relationship.align (entities : List Entity) (r : Relationship) : Relationship :=
  r.withDependencies (r.alignedFirst entities) (r.alignedSecond entities)

/-- The relationship gets other dependencies than it has. -/
def Relationship.isRealigned (entities : List Entity) (r : Relationship) : Bool :=
  r.alignedFirst entities != r.first.dependency || r.alignedSecond entities != r.second.dependency

/-- The relationships with the dependencies that the entities give their sides. -/
def align (entities : List Entity) (relationships : List Relationship) : List Relationship :=
  relationships.map (Relationship.align entities)

/-- What is recorded about the relationships whose sides change. -/
def alignEvents (entities : List Entity) (relationships : List Relationship) : List Event :=
  (relationships.filter (Relationship.isRealigned entities)).map fun r => .judgedAgain r.id

end ErDiagram

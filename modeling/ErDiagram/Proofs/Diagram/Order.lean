import Mathlib.Data.List.Perm.Basic
import ErDiagram.Proofs.Diagram.Inference
import ErDiagram.Reading.Document

set_option autoImplicit false

/-!
# Diagrams apart from ids and order

An id says in which order entities or relationships were met, and nothing else.  Inference looks neither
at ids nor at the order: it asks whether some relationship calls an entity dependent, and whether some
entity of a name is dependent.  So the diagrams that are inferred from the same entities and the same
relationships, in whatever order and under whatever ids, say the same.
-/

namespace ErDiagram

/-- The entity under no id. -/
def Entity.withoutId (e : Entity) : Entity := { e with id := [] }

/-- The relationship under no id. -/
def Relationship.withoutId (r : Relationship) : Relationship := { r with id := [] }

/-! ## Inference without ids -/

section WithoutIds

variable (e : Entity) (r : Relationship) (entities : List Entity) (relationships : List Relationship)

theorem Entity.mustBeDependent_withoutId :
    e.withoutId.mustBeDependent (relationships.map Relationship.withoutId) =
      e.mustBeDependent relationships := by
  rw [mustBeDependent, List.any_map]
  rfl

theorem Entity.withoutId_upgrade :
    (e.upgrade relationships).withoutId =
      e.withoutId.upgrade (relationships.map Relationship.withoutId) := by
  have hupgraded : e.withoutId.isUpgraded (relationships.map Relationship.withoutId) =
      e.isUpgraded relationships := by
    rw [isUpgraded, e.mustBeDependent_withoutId]
    rfl
  rw [upgrade, upgrade, hupgraded]
  split <;> rfl

theorem propagate_withoutId :
    (propagate entities relationships).map Entity.withoutId =
      propagate (entities.map Entity.withoutId) (relationships.map Relationship.withoutId) := by
  rw [propagate, propagate, List.map_map, List.map_map]
  exact List.map_congr_left fun e _ => e.withoutId_upgrade relationships

theorem namesDependent_withoutId (name : Text) :
    namesDependent (entities.map Entity.withoutId) name = namesDependent entities name := by
  rw [namesDependent, List.any_map]
  rfl

theorem Relationship.withoutId_align :
    (r.align entities).withoutId = r.withoutId.align (entities.map Entity.withoutId) := by
  have hfirst : r.withoutId.alignedFirst (entities.map Entity.withoutId) =
      r.alignedFirst entities := by
    rw [alignedFirst, namesDependent_withoutId]
    rfl
  have hsecond : r.withoutId.alignedSecond (entities.map Entity.withoutId) =
      r.alignedSecond entities := by
    rw [alignedSecond, namesDependent_withoutId, hfirst]
    rfl
  rw [align, align, hfirst, hsecond]
  rfl

theorem align_withoutId :
    (align entities relationships).map Relationship.withoutId =
      align (entities.map Entity.withoutId) (relationships.map Relationship.withoutId) := by
  rw [align, align, List.map_map, List.map_map]
  exact List.map_congr_left fun r _ => r.withoutId_align entities

end WithoutIds

/-! ## Inference in any order -/

section Perm

variable {entities entities' : List Entity} {relationships relationships' : List Relationship}

theorem Entity.upgrade_perm (h : relationships.Perm relationships') (e : Entity) :
    e.upgrade relationships = e.upgrade relationships' := by
  have hmust : e.mustBeDependent relationships = e.mustBeDependent relationships' := by
    rw [mustBeDependent, mustBeDependent, h.any_eq]
  rw [upgrade, upgrade, isUpgraded, isUpgraded, hmust]

theorem propagate_perm (hentities : entities.Perm entities')
    (hrelationships : relationships.Perm relationships') :
    (propagate entities relationships).Perm (propagate entities' relationships') := by
  have heq : Entity.upgrade relationships = Entity.upgrade relationships' :=
    funext (Entity.upgrade_perm hrelationships)
  rw [propagate, propagate, heq]
  exact hentities.map _

theorem Relationship.align_perm (h : entities.Perm entities') (r : Relationship) :
    r.align entities = r.align entities' := by
  have hnames : namesDependent entities = namesDependent entities' := by
    funext name
    rw [namesDependent, namesDependent, h.any_eq]
  rw [align, align, alignedSecond, alignedSecond, alignedFirst, alignedFirst, hnames]

theorem align_perm (hentities : entities.Perm entities')
    (hrelationships : relationships.Perm relationships') :
    (align entities relationships).Perm (align entities' relationships') := by
  have heq : Relationship.align entities = Relationship.align entities' :=
    funext (Relationship.align_perm hentities)
  rw [ErDiagram.align, ErDiagram.align, heq]
  exact hrelationships.map _

end Perm

/-! ## Diagrams that say the same -/

/-- The diagrams say the same, but for ids and for the order of entities and relationships. -/
structure Diagram.SameButIds (d d' : Diagram) : Prop where
  options_eq : d.options = d'.options
  entities_perm : (d.entities.map Entity.withoutId).Perm (d'.entities.map Entity.withoutId)
  entity?_eq : ∀ name,
    (d.entity? name).map Entity.withoutId = (d'.entity? name).map Entity.withoutId
  relationships_perm : (d.relationships.map fun r => (r.withoutId, r.kind, r.roles)).Perm
    (d'.relationships.map fun r => (r.withoutId, r.kind, r.roles))

/-- Of distinct names, the entity of a name is found under no id as well. -/
theorem Diagram.map_withoutId_entity?_eq_some_iff {d : Diagram}
    (hnodup : (d.entities.map (·.name)).Nodup) {name : Text} {e : Entity} :
    (d.entity? name).map Entity.withoutId = some e ↔
      e ∈ d.entities.map Entity.withoutId ∧ e.name = name := by
  simp only [Option.map_eq_some_iff, entity?_eq_some_iff hnodup, List.mem_map]
  constructor
  · rintro ⟨e', ⟨hmem, hname⟩, rfl⟩
    exact ⟨⟨e', hmem, rfl⟩, hname⟩
  · rintro ⟨⟨e', hmem, rfl⟩, hname⟩
    exact ⟨e', ⟨hmem, hname⟩, rfl⟩

theorem map_name_withoutId (entities : List Entity) :
    (entities.map Entity.withoutId).map (·.name) = entities.map (·.name) := by
  rw [List.map_map]
  rfl

/-- Whatever is inferred from the same entities, of distinct names, and the same relationships says the
same. -/
theorem sameButIds_inferredDiagram {entities entities' : List Entity}
    {relationships relationships' : List Relationship}
    (hentities : (entities.map Entity.withoutId).Perm (entities'.map Entity.withoutId))
    (hrelationships : (relationships.map Relationship.withoutId).Perm
      (relationships'.map Relationship.withoutId))
    (hnodup : (entities.map (·.name)).Nodup) (options : OptionMap) :
    (inferredDiagram options entities relationships).SameButIds
      (inferredDiagram options entities' relationships') := by
  have hnodup' : (entities'.map (·.name)).Nodup := by
    rw [← map_name_withoutId] at hnodup ⊢
    exact (hentities.map _).nodup_iff.mp hnodup
  have hinferred : ((propagate entities relationships).map Entity.withoutId).Perm
      ((propagate entities' relationships').map Entity.withoutId) := by
    rw [propagate_withoutId, propagate_withoutId]
    exact propagate_perm hentities hrelationships
  have haligned : ((align (propagate entities relationships) relationships).map
        Relationship.withoutId).Perm
      ((align (propagate entities' relationships') relationships').map Relationship.withoutId) := by
    rw [align_withoutId, align_withoutId]
    exact align_perm hinferred hrelationships
  constructor
  case options_eq => rfl
  case entities_perm => exact hinferred
  case entity?_eq =>
    intro name
    refine Option.ext fun e => ?_
    rw [Diagram.map_withoutId_entity?_eq_some_iff, Diagram.map_withoutId_entity?_eq_some_iff]
    · exact and_congr_left' hinferred.mem_iff
    · rw [inferredDiagram, propagate_map_name]
      exact hnodup'
    · rw [inferredDiagram, propagate_map_name]
      exact hnodup
  case relationships_perm =>
    -- kind and roles are functions of what is left of a relationship without its id
    have hshown := haligned.map fun r => (r, r.kind, r.roles)
    rw [List.map_map, List.map_map] at hshown
    exact hshown

end ErDiagram

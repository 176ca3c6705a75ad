import ErDiagram.Proofs.Diagram.Stable

set_option autoImplicit false

/-!
# What inference may change

Inference answers with one entity for each entity and one relationship for each relationship, in their
places.  An entity may become dependent if it was independent and has a reason; a side may become flagged
if an entity of its name is dependent.  Nothing else changes, and nothing is ever taken back.  A
relationship with a new flag satisfies the rules on counts and dependencies, and there is no side left
that could be flagged as well: of the first side this is decided before the second one is looked at, and
flagging the second one makes no room for it.
-/

namespace ErDiagram

variable {entities : List Entity} {relationships : List Relationship}

/-! ## Entities -/

/-- What becomes of an entity: it stays as it is, or it was independent and is called dependent, exactly
if it has a key that is primary and foreign or an identifying relationship calls it dependent. -/
structure Entity.UpgradesTo (relationships : List Relationship) (e e' : Entity) : Prop where
  frame : e' = e ∨ (e.dependency = .independent ∧ e' = { e with dependency := .dependent })
  changed_iff : e' ≠ e ↔ e.dependency = .independent ∧
    ((∃ a ∈ e.attributes, a.isPrimaryKey = true ∧ a.isForeignKey = true) ∨
      ∃ r ∈ relationships, r.kind = .identifying ∧ r.hasDependentSide e.name = true)

theorem Entity.mustBeDependent_iff {e : Entity} : e.mustBeDependent relationships = true ↔
    (∃ a ∈ e.attributes, a.isPrimaryKey = true ∧ a.isForeignKey = true) ∨
      ∃ r ∈ relationships, r.kind = .identifying ∧ r.hasDependentSide e.name = true := by
  simp [mustBeDependent, Attribute.isPrimaryForeignKey]

theorem Entity.asDependent_ne {e : Entity} (h : e.dependency = .independent) : e.asDependent ≠ e := by
  intro heq
  have hdependency : Dependency.dependent = e.dependency := congrArg Entity.dependency heq
  rw [h] at hdependency
  cases hdependency

theorem Entity.upgradesTo_upgrade (relationships : List Relationship) (e : Entity) :
    e.UpgradesTo relationships (e.upgrade relationships) := by
  have hupgraded : e.isUpgraded relationships = true ↔
      e.dependency = .independent ∧ e.mustBeDependent relationships = true := by
    simp [isUpgraded]
  rw [mustBeDependent_iff] at hupgraded
  by_cases h : e.isUpgraded relationships = true
  · obtain ⟨hindependent, hreason⟩ := hupgraded.mp h
    rw [upgrade, if_pos h]
    exact ⟨.inr ⟨hindependent, rfl⟩, iff_of_true (asDependent_ne hindependent) ⟨hindependent, hreason⟩⟩
  · rw [upgrade, if_neg h]
    exact ⟨.inl rfl, iff_of_false (fun hne => hne rfl) (mt hupgraded.mpr h)⟩

/-! ## Relationships -/

namespace Relationship

/-- What becomes of a relationship: its sides may be flagged, each only if an entity of its name is
dependent; the kind and the roles follow the flags; if anything changes, the rules are satisfied; and no
side of a dependent entity is left that could be flagged under the rules. -/
structure AlignsTo (entities : List Entity) (r r' : Relationship) : Prop where
  frame : r' = { r with
    first := { r.first with dependency := r'.first.dependency }
    second := { r.second with dependency := r'.second.dependency } }
  first_flag : r'.first.dependency = r.first.dependency ∨ (r'.first.dependency = .dependent ∧
    ∃ e ∈ entities, e.name = r.first.name ∧ e.dependency = .dependent)
  second_flag : r'.second.dependency = r.second.dependency ∨ (r'.second.dependency = .dependent ∧
    ∃ e ∈ entities, e.name = r.second.name ∧ e.dependency = .dependent)
  kind_eq : r'.kind = RelationshipKind.judge r.cardinality.first.count r.cardinality.second.count
    r'.first.dependency r'.second.dependency
  roles_eq : r'.roles = Role.judge r.cardinality.first.count r.cardinality.second.count
    r'.first.dependency r'.second.dependency
  allowed : r' ≠ r → r'.isAllowed = true
  first_maximal : (∃ e ∈ entities, e.name = r.first.name ∧ e.dependency = .dependent) →
    r'.first.dependency ≠ .dependent →
      (r'.withDependencies .dependent r'.second.dependency).isAllowed = false
  second_maximal : (∃ e ∈ entities, e.name = r.second.name ∧ e.dependency = .dependent) →
    r'.second.dependency ≠ .dependent →
      (r'.withDependencies r'.first.dependency .dependent).isAllowed = false

variable {r : Relationship}

/-- Why a first side is flagged that was not. -/
theorem flagged_of_alignedFirst_ne (h : r.alignedFirst entities ≠ r.first.dependency) :
    namesDependent entities r.first.name = true ∧
      allowsDependencies r.cardinality.first.count r.cardinality.second.count
        .dependent r.second.dependency = true := by
  unfold alignedFirst at h
  split at h
  · rename_i hflag
    exact Bool.and_eq_true_iff.mp hflag
  · exact absurd rfl h

/-- Why a second side is flagged that was not. -/
theorem flagged_of_alignedSecond_ne (h : r.alignedSecond entities ≠ r.second.dependency) :
    namesDependent entities r.second.name = true ∧
      allowsDependencies r.cardinality.first.count r.cardinality.second.count
        (r.alignedFirst entities) .dependent = true := by
  unfold alignedSecond at h
  split at h
  · rename_i hflag
    exact Bool.and_eq_true_iff.mp hflag
  · exact absurd rfl h

/-- A relationship with a new flag satisfies the rules, also if it broke them before. -/
theorem isAllowed_align (h : r.align entities ≠ r) : (r.align entities).isAllowed = true := by
  change allowsDependencies r.cardinality.first.count r.cardinality.second.count
    (r.alignedFirst entities) (r.alignedSecond entities) = true
  by_cases hsecond : r.alignedSecond entities = r.second.dependency
  · have hfirst : r.alignedFirst entities ≠ r.first.dependency := by
      intro hfirst
      rw [align, hfirst, hsecond] at h
      exact h rfl
    rw [hsecond, (alignedFirst_cases entities r).resolve_right hfirst]
    exact (flagged_of_alignedFirst_ne hfirst).2
  · rw [(alignedSecond_cases entities r).resolve_right hsecond]
    exact (flagged_of_alignedSecond_ne hsecond).2

theorem isAllowed_align_of_isAllowed (h : r.isAllowed = true) :
    (r.align entities).isAllowed = true := by
  by_cases heq : r.align entities = r
  · rw [heq, h]
  · exact isAllowed_align heq

/-- Aligning once more would flag a first side that could still be flagged, and it flags none. -/
theorem not_allowed_first (hname : namesDependent entities r.first.name = true)
    (hflag : r.alignedFirst entities ≠ .dependent) :
    allowsDependencies r.cardinality.first.count r.cardinality.second.count
      .dependent (r.alignedSecond entities) = false := by
  rw [← alignedFirst_align] at hflag
  rw [← Bool.not_eq_true]
  intro hroom
  exact hflag (if_pos (Bool.and_eq_true_iff.mpr ⟨hname, hroom⟩))

theorem not_allowed_second (hname : namesDependent entities r.second.name = true)
    (hflag : r.alignedSecond entities ≠ .dependent) :
    allowsDependencies r.cardinality.first.count r.cardinality.second.count
      (r.alignedFirst entities) .dependent = false := by
  rw [← Bool.not_eq_true]
  intro hroom
  exact hflag (if_pos (Bool.and_eq_true_iff.mpr ⟨hname, hroom⟩))

theorem alignsTo_align (entities : List Entity) (r : Relationship) :
    r.AlignsTo entities (r.align entities) := by
  constructor
  case frame => rfl
  case first_flag =>
    by_cases hkept : r.alignedFirst entities = r.first.dependency
    · exact .inl hkept
    · exact .inr ⟨(alignedFirst_cases entities r).resolve_right hkept,
        namesDependent_iff.mp (flagged_of_alignedFirst_ne hkept).1⟩
  case second_flag =>
    by_cases hkept : r.alignedSecond entities = r.second.dependency
    · exact .inl hkept
    · exact .inr ⟨(alignedSecond_cases entities r).resolve_right hkept,
        namesDependent_iff.mp (flagged_of_alignedSecond_ne hkept).1⟩
  case kind_eq => rfl
  case roles_eq => rfl
  case allowed => exact isAllowed_align
  case first_maximal => exact fun hname => not_allowed_first (namesDependent_iff.mpr hname)
  case second_maximal => exact fun hname => not_allowed_second (namesDependent_iff.mpr hname)

end Relationship

/-! ## The two passes -/

/-- Inference changes what it may and nothing else: each entity stays as it is or becomes dependent for a
reason, each relationship stays as it is or is flagged as far as the rules have room, and relationships
that satisfy the rules go on to satisfy them. -/
theorem inference_frame (entities : List Entity) (relationships : List Relationship) :
    List.Forall₂ (Entity.UpgradesTo relationships) entities (propagate entities relationships) ∧
      List.Forall₂ (Relationship.AlignsTo entities) relationships (align entities relationships) ∧
      ((∀ r ∈ relationships, r.isAllowed = true) →
        ∀ r ∈ align entities relationships, r.isAllowed = true) := by
  refine ⟨?_, ?_, fun hallowed r hr => ?_⟩
  · rw [propagate, List.forall₂_map_right_iff, List.forall₂_same]
    exact fun e _ => e.upgradesTo_upgrade relationships
  · rw [align, List.forall₂_map_right_iff, List.forall₂_same]
    exact fun r _ => r.alignsTo_align entities
  · obtain ⟨r', hr', rfl⟩ := mem_align.mp hr
    exact Relationship.isAllowed_align_of_isAllowed (hallowed r' hr')

/-- Where a dependent entity is related to itself, the side that is looked at first takes the flag. -/
example :
    let track : Entity := { id := "entity_1".toList, name := "Track".toList, dependency := .dependent }
    let remix : Relationship :=
      { id := "relationship_1".toList, first := ⟨"Track".toList, .independent⟩
        second := ⟨"Track".toList, .independent⟩ }
    align [track] [remix] = [remix.withDependencies .dependent .independent] := by
  decide

end ErDiagram

import ErDiagram.Proofs.Diagram.Inference

set_option autoImplicit false

/-!
# One round of inference is enough

Aligning a relationship flags a side only where an entity of its name is dependent, and it leaves the
kind of a relationship alone that calls a side dependent already.  So aligned relationships give no
entity a new reason to be dependent.  Aligning once more changes nothing either: a side that is not
flagged has no dependent entity or no room beside the other side, and flagging the other side makes no
room for it.
-/

namespace ErDiagram

variable {entities : List Entity} {relationships : List Relationship}

/-! ## Relationships that are aligned already -/

namespace Relationship

variable (entities : List Entity) (r : Relationship)

theorem alignedFirst_cases :
    r.alignedFirst entities = .dependent ∨ r.alignedFirst entities = r.first.dependency := by
  unfold alignedFirst
  split
  · exact .inl rfl
  · exact .inr rfl

theorem alignedSecond_cases :
    r.alignedSecond entities = .dependent ∨ r.alignedSecond entities = r.second.dependency := by
  unfold alignedSecond
  split
  · exact .inl rfl
  · exact .inr rfl

theorem alignedFirst_of_dependent (h : r.first.dependency = .dependent) :
    r.alignedFirst entities = .dependent := by
  rcases alignedFirst_cases entities r with hflag | hkept
  · exact hflag
  · rw [hkept, h]

theorem alignedSecond_of_dependent (h : r.second.dependency = .dependent) :
    r.alignedSecond entities = .dependent := by
  rcases alignedSecond_cases entities r with hflag | hkept
  · exact hflag
  · rw [hkept, h]

/-- The first side is decided for good: what could have changed is the other side, and a flag there
leaves no room. -/
theorem alignedFirst_align : (r.align entities).alignedFirst entities = r.alignedFirst entities := by
  by_cases hflag : (namesDependent entities r.first.name &&
      allowsDependencies r.cardinality.first.count r.cardinality.second.count
        .dependent r.second.dependency) = true
  · have hfirst : r.alignedFirst entities = .dependent := if_pos hflag
    rw [hfirst]
    exact alignedFirst_of_dependent entities (r.align entities) hfirst
  · refine if_neg ?_
    rw [align_first_name, align_cardinality, align_second_dependency]
    rcases alignedSecond_cases entities r with hsecond | hsecond
    · rw [hsecond, Bool.and_eq_true, not_and]
      intro _ hroom
      exact (allowsDependencies_iff.mp hroom).1 ⟨rfl, rfl⟩
    · rw [hsecond]
      exact hflag

/-- The second side is decided under the first one, which stays as it is. -/
theorem alignedSecond_align :
    (r.align entities).alignedSecond entities = r.alignedSecond entities := by
  by_cases hflag : (namesDependent entities r.second.name &&
      allowsDependencies r.cardinality.first.count r.cardinality.second.count
        (r.alignedFirst entities) .dependent) = true
  · have hsecond : r.alignedSecond entities = .dependent := if_pos hflag
    rw [hsecond]
    exact alignedSecond_of_dependent entities (r.align entities) hsecond
  · refine if_neg ?_
    rw [align_second_name, align_cardinality, alignedFirst_align]
    exact hflag

/-- An aligned relationship stays as it is. -/
theorem align_align : (r.align entities).align entities = r.align entities := by
  rw [align, alignedFirst_align, alignedSecond_align]
  rfl

end Relationship

theorem align_align (entities : List Entity) (relationships : List Relationship) :
    align entities (align entities relationships) = align entities relationships := by
  rw [align, align, List.map_map]
  exact List.map_congr_left fun r _ => r.align_align entities

/-! ## Reasons to be dependent -/

/-- A dependent side rules out that both are independent, so the counts alone give the kind. -/
theorem RelationshipKind.judge_of_dependent {c1 c2 : Count} {d1 d2 d1' d2' : Dependency}
    (h : d1 = .dependent ∨ d2 = .dependent) (h' : d1' = .dependent ∨ d2' = .dependent) :
    judge c1 c2 d1 d2 = judge c1 c2 d1' d2' := by
  have hboth : ¬(d1 = .independent ∧ d2 = .independent) := by rintro ⟨rfl, rfl⟩; simp at h
  have hboth' : ¬(d1' = .independent ∧ d2' = .independent) := by rintro ⟨rfl, rfl⟩; simp at h'
  cases c1 <;> cases c2 <;> simp only [judge, if_neg hboth, if_neg hboth']

namespace Relationship

variable {r : Relationship} {name : Text}

theorem hasDependentSide_iff : r.hasDependentSide name = true ↔
    (r.first.name = name ∧ r.first.dependency = .dependent) ∨
      (r.second.name = name ∧ r.second.dependency = .dependent) := by
  simp [hasDependentSide]

theorem dependent_of_hasDependentSide (h : r.hasDependentSide name = true) :
    r.first.dependency = .dependent ∨ r.second.dependency = .dependent :=
  (hasDependentSide_iff.mp h).imp (·.2) (·.2)

/-- Aligning keeps the flags that are there. -/
theorem hasDependentSide_align (h : r.hasDependentSide name = true) :
    (r.align entities).hasDependentSide name = true := by
  rw [hasDependentSide_iff] at h ⊢
  refine h.imp ?_ ?_
  · rintro ⟨hname, hflag⟩
    exact ⟨hname, alignedFirst_of_dependent entities r hflag⟩
  · rintro ⟨hname, hflag⟩
    exact ⟨hname, alignedSecond_of_dependent entities r hflag⟩

/-- Aligning flags no side whose name belongs to no dependent entity. -/
theorem hasDependentSide_of_align (hname : namesDependent entities name = false)
    (h : (r.align entities).hasDependentSide name = true) : r.hasDependentSide name = true := by
  rw [hasDependentSide_iff] at h ⊢
  refine h.imp ?_ ?_
  · rintro ⟨rfl, hflag⟩
    refine ⟨rfl, ?_⟩
    rw [align_first_name] at hname
    rwa [align_first_dependency, alignedFirst, hname] at hflag
  · rintro ⟨rfl, hflag⟩
    refine ⟨rfl, ?_⟩
    rw [align_second_name] at hname
    rwa [align_second_dependency, alignedSecond, hname] at hflag

/-- The kind of a relationship with a flag survives aligning, whatever is flagged besides. -/
theorem kind_align (h : r.hasDependentSide name = true) : (r.align entities).kind = r.kind :=
  RelationshipKind.judge_of_dependent
    (dependent_of_hasDependentSide (hasDependentSide_align h)) (dependent_of_hasDependentSide h)

end Relationship

/-- Aligned relationships give an entity whose name belongs to no dependent entity no new reason to be
dependent. -/
theorem Entity.mustBeDependent_align {e : Entity} (hname : namesDependent entities e.name = false) :
    e.mustBeDependent (align entities relationships) = e.mustBeDependent relationships := by
  have hreason : ∀ r : Relationship,
      ((r.align entities).kind == .identifying && (r.align entities).hasDependentSide e.name) =
        (r.kind == .identifying && r.hasDependentSide e.name) := by
    intro r
    by_cases hside : r.hasDependentSide e.name = true
    · rw [Relationship.kind_align hside, Relationship.hasDependentSide_align hside, hside]
    · have hother := mt (Relationship.hasDependentSide_of_align hname) hside
      rw [Bool.not_eq_true] at hside hother
      rw [hside, hother, Bool.and_false, Bool.and_false]
  rw [mustBeDependent, mustBeDependent, align, List.any_map]
  congr 2
  exact funext hreason

/-- An entity that is independent after an upgrade has no reason to be dependent. -/
theorem Entity.not_mustBeDependent_of_upgrade {e : Entity}
    (h : (e.upgrade relationships).dependency = .independent) :
    (e.upgrade relationships).mustBeDependent relationships = false := by
  unfold upgrade at h ⊢
  split at h
  · cases h
  · rename_i hkept
    rw [if_neg hkept]
    simpa [isUpgraded, h] using hkept

/-! ## The round -/

/-- Upgraded entities of distinct names are left alone by relationships that are aligned with them. -/
theorem propagate_align (hnodup : (entities.map (·.name)).Nodup) :
    propagate (propagate entities relationships)
        (align (propagate entities relationships) relationships) =
      propagate entities relationships := by
  have hnames : ((propagate entities relationships).map (·.name)).Nodup := by
    rwa [propagate_map_name]
  refine (List.map_congr_left fun e he => ?_).trans (List.map_id _)
  refine if_neg ?_
  rw [Entity.isUpgraded, Bool.and_eq_true, beq_iff_eq, not_and, Bool.not_eq_true]
  intro hindependent
  have hname : namesDependent (propagate entities relationships) e.name = false := by
    rw [namesDependent_of_nodup hnames he, hindependent]
    rfl
  obtain ⟨e', -, rfl⟩ := mem_propagate.mp he
  rw [Entity.mustBeDependent_align hname]
  exact Entity.not_mustBeDependent_of_upgrade hindependent

/-- Inference is at its end after one round, whatever the relationships are: once entities of distinct
names are upgraded and the relationships are aligned with them, another round changes neither. -/
theorem inference_stable (hnodup : (entities.map (·.name)).Nodup) :
    propagate (propagate entities relationships)
        (align (propagate entities relationships) relationships) =
      propagate entities relationships ∧
    align (propagate entities relationships)
        (align (propagate entities relationships) relationships) =
      align (propagate entities relationships) relationships :=
  ⟨propagate_align hnodup, align_align _ _⟩

/-- Tracks with a key that is primary and foreign, an album of which the dependency is open, and
lyrics. -/
def recordEntities : List Entity :=
  [{ id := "entity_1".toList, name := "Track".toList
     attributes := [{ name := "album".toList, isPrimaryKey := true, isForeignKey := true }] },
   { id := "entity_2".toList, name := "Album".toList, dependency := .unspecified },
   { id := "entity_3".toList, name := "Lyrics".toList }]

/-- A relationship that calls its second side dependent, one of tracks with tracks, one that calls a
parent dependent whose child is no entity, and one that says something about one end alone. -/
def recordRelationships : List Relationship :=
  [{ id := "relationship_1".toList
     first := ⟨"Track".toList, .independent⟩
     second := ⟨"Lyrics".toList, .dependent⟩
     cardinality := ⟨⟨.one, .mandatory⟩, ⟨.one, .optional⟩⟩ },
   { id := "relationship_2".toList
     first := ⟨"Track".toList, .independent⟩
     second := ⟨"Track".toList, .unspecified⟩
     cardinality := ⟨⟨.one, .mandatory⟩, ⟨.one, .mandatory⟩⟩ },
   { id := "relationship_3".toList
     first := ⟨"Album".toList, .dependent⟩
     second := ⟨"Singer".toList, .independent⟩
     cardinality := ⟨⟨.one, .mandatory⟩, ⟨.many, .optional⟩⟩ },
   { id := "relationship_4".toList
     first := ⟨"Lyrics".toList, .independent⟩
     second := ⟨"Album".toList, .independent⟩
     cardinality := ⟨⟨.one, .mandatory⟩, End.unspecified⟩ }]

/-- The first round does something here, and the second one does nothing. -/
theorem inference_stable_records :
    (recordEntities.map (·.name)).Nodup ∧
      propagate recordEntities recordRelationships ≠ recordEntities ∧
      align (propagate recordEntities recordRelationships) recordRelationships ≠
        recordRelationships ∧
      propagate (propagate recordEntities recordRelationships)
          (align (propagate recordEntities recordRelationships) recordRelationships) =
        propagate recordEntities recordRelationships ∧
      align (propagate recordEntities recordRelationships)
          (align (propagate recordEntities recordRelationships) recordRelationships) =
        align (propagate recordEntities recordRelationships) recordRelationships := by
  have hnodup : (recordEntities.map (·.name)).Nodup := by decide
  exact ⟨hnodup, by decide, by decide, inference_stable hnodup⟩

/-- Of two entities of one name, the dependent one flags a side, which then speaks for the other. -/
example :
    let twins : List Entity :=
      [{ id := "entity_1".toList, name := "Track".toList, dependency := .dependent },
       { id := "entity_2".toList, name := "Track".toList }]
    let related : List Relationship :=
      [{ id := "relationship_1".toList, first := ⟨"Track".toList, .independent⟩
         second := ⟨"Album".toList, .independent⟩ }]
    propagate (propagate twins related) (align (propagate twins related) related) ≠
      propagate twins related := by
  decide

end ErDiagram

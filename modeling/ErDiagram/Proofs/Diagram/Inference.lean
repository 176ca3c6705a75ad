import ErDiagram.Diagram.Inference
import Mathlib.Data.List.Nodup

set_option autoImplicit false

/-!
# What inference changes

Upgrading an entity changes at most its dependency, and aligning a relationship at most the
dependencies of its sides.  An upgrade follows from a key that is primary and foreign, or from a
relationship that calls the entity dependent.  A side is called dependent in the end exactly if its
entity is, as far as the counts leave room for it.
-/

namespace ErDiagram

/-! ## Entities -/

section Upgrade

variable (relationships : List Relationship) (e : Entity)

@[simp] theorem Entity.upgrade_name : (e.upgrade relationships).name = e.name := by
  unfold upgrade
  split <;> rfl

@[simp] theorem Entity.upgrade_attributes :
    (e.upgrade relationships).attributes = e.attributes := by
  unfold upgrade
  split <;> rfl

@[simp] theorem Entity.upgrade_options : (e.upgrade relationships).options = e.options := by
  unfold upgrade
  split <;> rfl

end Upgrade

/-- The dependency is one that brackets can write. -/
def Dependency.IsWritten (d : Dependency) : Prop := d = .independent ∨ d = .dependent

theorem Dependency.IsWritten.eq_independent_iff {d : Dependency} (h : d.IsWritten) :
    d = .independent ↔ d ≠ .dependent := by
  rcases h with rfl | rfl <;> decide

theorem Entity.upgrade_written {e : Entity} (h : e.dependency.IsWritten)
    (relationships : List Relationship) : (e.upgrade relationships).dependency.IsWritten := by
  unfold upgrade
  split
  · exact .inr rfl
  · exact h

/-- An upgraded entity is dependent exactly if it was or has to be; an upgrade takes nothing back. -/
theorem Entity.upgrade_dependent_iff {e : Entity} (h : e.dependency.IsWritten)
    (relationships : List Relationship) :
    (e.upgrade relationships).dependency = .dependent ↔
      e.dependency = .dependent ∨ e.mustBeDependent relationships = true := by
  unfold upgrade isUpgraded
  rcases h with hindependent | hdependent
  · by_cases hmust : e.mustBeDependent relationships = true
    · simp [hindependent, hmust, asDependent]
    · simp [hindependent, hmust]
  · simp [hdependent]

/-- Inference leaves all of an entity as it is but its dependency. -/
theorem propagate_map {α : Type} {f : Entity → α}
    (h : ∀ (e : Entity), f e.asDependent = f e) (entities : List Entity)
    (relationships : List Relationship) :
    (propagate entities relationships).map f = entities.map f := by
  rw [propagate, List.map_map]
  refine List.map_congr_left fun e _ => ?_
  rw [Function.comp_apply, Entity.upgrade]
  split
  · exact h e
  · rfl

theorem propagate_map_id (entities : List Entity) (relationships : List Relationship) :
    (propagate entities relationships).map (·.id) = entities.map (·.id) :=
  propagate_map (fun _ => rfl) entities relationships

theorem propagate_map_name (entities : List Entity) (relationships : List Relationship) :
    (propagate entities relationships).map (·.name) = entities.map (·.name) :=
  propagate_map (fun _ => rfl) entities relationships

theorem mem_propagate {entities : List Entity} {relationships : List Relationship} {e : Entity} :
    e ∈ propagate entities relationships ↔ ∃ e' ∈ entities, e'.upgrade relationships = e := by
  simp [propagate]

/-! ## Entities by name -/

theorem namesDependent_iff {entities : List Entity} {name : Text} :
    namesDependent entities name = true ↔
      ∃ e ∈ entities, e.name = name ∧ e.dependency = .dependent := by
  simp [namesDependent]

/-- Of distinct names, each belongs to one entity, and that one is found. -/
theorem Diagram.entity?_eq_some_iff {d : Diagram} (hnodup : (d.entities.map (·.name)).Nodup)
    {name : Text} {e : Entity} : d.entity? name = some e ↔ e ∈ d.entities ∧ e.name = name := by
  unfold entity?
  constructor
  · intro h
    have hmem : e ∈ d.entities.reverse := List.mem_of_find?_eq_some h
    have hname := List.find?_some h
    exact ⟨List.mem_reverse.mp hmem, by simpa using hname⟩
  · rintro ⟨hmem, hname⟩
    have hsome : (d.entities.reverse.find? fun e => e.name == name).isSome = true := by
      rw [List.find?_isSome]
      exact ⟨e, List.mem_reverse.mpr hmem, by simpa using hname⟩
    obtain ⟨e', he'⟩ := Option.isSome_iff_exists.mp hsome
    have hmem' : e' ∈ d.entities := List.mem_reverse.mp (List.mem_of_find?_eq_some he')
    have hname' : e'.name = name := by simpa using List.find?_some he'
    rw [he', List.inj_on_of_nodup_map hnodup hmem' hmem (hname'.trans hname.symm)]

theorem namesDependent_of_nodup {entities : List Entity} (hnodup : (entities.map (·.name)).Nodup)
    {e : Entity} (he : e ∈ entities) :
    namesDependent entities e.name = (e.dependency == .dependent) := by
  rw [Bool.eq_iff_iff, namesDependent_iff, beq_iff_eq]
  constructor
  · rintro ⟨e', he', hname, hdependent⟩
    rw [← List.inj_on_of_nodup_map hnodup he' he hname]
    exact hdependent
  · intro hdependent
    exact ⟨e, he, rfl, hdependent⟩

/-! ## Relationships -/

section Align

variable (entities : List Entity) (r : Relationship)

@[simp] theorem Relationship.align_first_name : (r.align entities).first.name = r.first.name := rfl

@[simp] theorem Relationship.align_second_name :
    (r.align entities).second.name = r.second.name := rfl

@[simp] theorem Relationship.align_first_dependency :
    (r.align entities).first.dependency = r.alignedFirst entities := rfl

@[simp] theorem Relationship.align_second_dependency :
    (r.align entities).second.dependency = r.alignedSecond entities := rfl

@[simp] theorem Relationship.align_cardinality :
    (r.align entities).cardinality = r.cardinality := rfl

@[simp] theorem Relationship.align_options : (r.align entities).options = r.options := rfl

end Align

/-- Aligning leaves all of a relationship as it is but the dependencies of its sides. -/
theorem align_map {α : Type} {f : Relationship → α}
    (h : ∀ (r : Relationship) (d1 d2 : Dependency), f (r.withDependencies d1 d2) = f r)
    (entities : List Entity) (relationships : List Relationship) :
    (align entities relationships).map f = relationships.map f := by
  rw [align, List.map_map]
  exact List.map_congr_left fun r _ => h r _ _

theorem align_map_id (entities : List Entity) (relationships : List Relationship) :
    (align entities relationships).map (·.id) = relationships.map (·.id) :=
  align_map (fun _ _ _ => rfl) entities relationships

theorem mem_align {entities : List Entity} {relationships : List Relationship} {r : Relationship} :
    r ∈ align entities relationships ↔ ∃ r' ∈ relationships, r'.align entities = r := by
  simp [align]

/-! ## Counts and dependencies that fit -/

/-- The counts of both ends say something, or neither does. -/
def Count.Balanced (c1 c2 : Count) : Prop := c1 = .unspecified ↔ c2 = .unspecified

instance (c1 c2 : Count) : Decidable (Count.Balanced c1 c2) :=
  inferInstanceAs (Decidable (c1 = .unspecified ↔ c2 = .unspecified))

/-- The counts say something at both ends or at neither, each side is independent or dependent, and
the counts allow that. -/
structure Relationship.Sound (r : Relationship) : Prop where
  balanced : Count.Balanced r.cardinality.first.count r.cardinality.second.count
  first_written : r.first.dependency.IsWritten
  second_written : r.second.dependency.IsWritten
  allowed : r.isAllowed = true

/-- The kind that a relationship has as long as no side is called dependent. -/
def RelationshipKind.ofCounts : Count → Count → RelationshipKind
  | .many, .many => .nonSpecific
  | .unspecified, _ | _, .unspecified => .unspecified
  | _, _ => .nonIdentifying

section Judging

variable {c1 c2 : Count} {d1 d2 : Dependency}

theorem RelationshipKind.judge_eq (hbalanced : Count.Balanced c1 c2) (h1 : d1.IsWritten)
    (h2 : d2.IsWritten) (hallowed : allowsDependencies c1 c2 d1 d2 = true) :
    judge c1 c2 d1 d2 =
      if d1 = .dependent ∨ d2 = .dependent then identifying else ofCounts c1 c2 := by
  rcases h1 with rfl | rfl <;> rcases h2 with rfl | rfl <;> cases c1 <;> cases c2 <;>
    first | rfl | exact absurd hbalanced (by decide) | exact nomatch hallowed

theorem Role.judge_first (hbalanced : Count.Balanced c1 c2) (h2 : d2.IsWritten)
    (hallowed : allowsDependencies c1 c2 .dependent d2 = true) :
    d2 ≠ .dependent ∧ judge c1 c2 .dependent d2 = (child, parent) := by
  rcases h2 with rfl | rfl <;> cases c1 <;> cases c2 <;>
    first
      | exact ⟨by decide, rfl⟩
      | exact absurd hbalanced (by decide)
      | exact nomatch hallowed

theorem Role.judge_second (hbalanced : Count.Balanced c1 c2) (h1 : d1.IsWritten)
    (hallowed : allowsDependencies c1 c2 d1 .dependent = true) :
    d1 ≠ .dependent ∧ judge c1 c2 d1 .dependent = (parent, child) := by
  rcases h1 with rfl | rfl <;> cases c1 <;> cases c2 <;>
    first
      | exact ⟨by decide, rfl⟩
      | exact absurd hbalanced (by decide)
      | exact nomatch hallowed

/-- What it means that the counts allow the dependencies of two sides. -/
theorem allowsDependencies_iff :
    allowsDependencies c1 c2 d1 d2 = true ↔
      ¬(d1 = .dependent ∧ d2 = .dependent) ∧
      (c1 = .one → c2 = .many → d1 ≠ .dependent) ∧
      (c1 = .many → c2 = .one → d2 ≠ .dependent) ∧
      (c1 = .many → c2 = .many → d1 ≠ .dependent ∧ d2 ≠ .dependent) := by
  cases c1 <;> cases c2 <;> cases d1 <;> cases d2 <;> decide

/-- What the counts allow of two sides they allow of one of them alone. -/
theorem allowsDependencies_first (h : allowsDependencies c1 c2 .dependent d2 = true) :
    allowsDependencies c1 c2 .dependent .independent = true := by
  cases d2 <;> cases c1 <;> cases c2 <;> first | rfl | exact h

theorem allowsDependencies_second (h : allowsDependencies c1 c2 d1 .dependent = true) :
    allowsDependencies c1 c2 .independent .dependent = true := by
  cases d1 <;> cases c1 <;> cases c2 <;> first | rfl | exact h

end Judging

namespace Relationship.Sound

variable {r : Relationship}

/-- Aligning keeps a relationship sound, since a side is called dependent only where the counts and the
other side allow it. -/
theorem align (h : r.Sound) (entities : List Entity) : (r.align entities).Sound := by
  have hfirst : allowsDependencies r.cardinality.first.count r.cardinality.second.count
      (r.alignedFirst entities) r.second.dependency = true := by
    unfold alignedFirst
    split
    · rename_i hflag
      exact (Bool.and_eq_true_iff.mp hflag).2
    · exact h.allowed
  refine ⟨h.balanced, ?_, ?_, ?_⟩
  · rw [align_first_dependency, alignedFirst]
    split
    · exact .inr rfl
    · exact h.first_written
  · rw [align_second_dependency, alignedSecond]
    split
    · exact .inr rfl
    · exact h.second_written
  · change allowsDependencies r.cardinality.first.count r.cardinality.second.count
      (r.alignedFirst entities) (r.alignedSecond entities) = true
    unfold alignedSecond
    split
    · rename_i hflag
      exact (Bool.and_eq_true_iff.mp hflag).2
    · exact hfirst

/-- A sound relationship is identifying exactly if it calls a side dependent; otherwise the counts give
its kind. -/
theorem kind_eq (h : r.Sound) :
    r.kind = if r.first.dependency = .dependent ∨ r.second.dependency = .dependent then .identifying
      else .ofCounts r.cardinality.first.count r.cardinality.second.count :=
  RelationshipKind.judge_eq h.balanced h.first_written h.second_written h.allowed

theorem kind_eq_identifying_iff (h : r.Sound) :
    r.kind = .identifying ↔
      r.first.dependency = .dependent ∨ r.second.dependency = .dependent := by
  have hcounts : RelationshipKind.ofCounts r.cardinality.first.count r.cardinality.second.count ≠
      .identifying := by
    unfold RelationshipKind.ofCounts
    split <;> decide
  rw [h.kind_eq]
  split
  · rename_i hflagged
    simp [hflagged]
  · rename_i hflagged
    simp [hflagged, hcounts]

/-- The side that a sound relationship calls dependent is the only one, and it is the child. -/
theorem first_child (h : r.Sound) (hflag : r.first.dependency = .dependent) :
    r.second.dependency ≠ .dependent ∧ r.roles = (.child, .parent) := by
  have hallowed := h.allowed
  rw [isAllowed, hflag] at hallowed
  rw [roles, hflag]
  exact Role.judge_first h.balanced h.second_written hallowed

theorem second_child (h : r.Sound) (hflag : r.second.dependency = .dependent) :
    r.first.dependency ≠ .dependent ∧ r.roles = (.parent, .child) := by
  have hallowed := h.allowed
  rw [isAllowed, hflag] at hallowed
  rw [roles, hflag]
  exact Role.judge_second h.balanced h.first_written hallowed

end Relationship.Sound

/-! ## Sides and their entities -/

/-- Only sides of dependent entities are called dependent. -/
structure Relationship.Grounded (entities : List Entity) (r : Relationship) : Prop where
  first : r.first.dependency = .dependent → namesDependent entities r.first.name = true
  second : r.second.dependency = .dependent → namesDependent entities r.second.name = true

namespace Relationship.Grounded

variable {entities : List Entity} {r : Relationship}

/-- Aligning with the entities gives a side no other reason to be called dependent. -/
theorem align (h : r.Grounded entities) : (r.align entities).Grounded entities := by
  constructor
  · intro hflag
    rw [align_first_dependency, alignedFirst] at hflag
    split at hflag
    · rename_i hcond
      exact (Bool.and_eq_true_iff.mp hcond).1
    · exact h.first hflag
  · intro hflag
    rw [align_second_dependency, alignedSecond] at hflag
    split at hflag
    · rename_i hcond
      exact (Bool.and_eq_true_iff.mp hcond).1
    · exact h.second hflag

/-- After aligning, some side is called dependent exactly if the entity of a side is dependent on which
the counts have room for a dependent one. -/
theorem align_dependent_iff (h : r.Grounded entities) (hsound : r.Sound) :
    (r.alignedFirst entities = .dependent ∨ r.alignedSecond entities = .dependent) ↔
      (namesDependent entities r.first.name = true ∧
        allowsDependencies r.cardinality.first.count r.cardinality.second.count
          .dependent .independent = true) ∨
      (namesDependent entities r.second.name = true ∧
        allowsDependencies r.cardinality.first.count r.cardinality.second.count
          .independent .dependent = true) := by
  have hallowed := (hsound.align entities).allowed
  rw [isAllowed, align_cardinality, align_first_dependency, align_second_dependency] at hallowed
  constructor
  · rintro (hflag | hflag)
    · rw [hflag] at hallowed
      exact .inl ⟨h.align.first hflag, allowsDependencies_first hallowed⟩
    · rw [hflag] at hallowed
      exact .inr ⟨h.align.second hflag, allowsDependencies_second hallowed⟩
  · rintro (⟨hnames, hroom⟩ | ⟨hnames, hroom⟩)
    · rcases hsound.second_written with hother | hother
      · left
        simp [alignedFirst, hother, hnames, hroom]
      · -- the second side was called dependent from the start, and stays so
        right
        unfold alignedSecond
        split
        · rfl
        · exact hother
    · rcases (hsound.align entities).first_written with hother | hother
      · right
        rw [align_first_dependency] at hother
        simp [alignedSecond, hother, hnames, hroom]
      · exact .inl hother

end Relationship.Grounded

/-- The kind of a relationship by its counts and by which of its two entities are dependent. -/
def RelationshipKind.ofEntities : Count → Count → Bool → Bool → RelationshipKind
  | .many, .many, _, _ => .nonSpecific
  | .one, .many, _, dependent2 => if dependent2 then .identifying else .nonIdentifying
  | .many, .one, dependent1, _ => if dependent1 then .identifying else .nonIdentifying
  | .one, .one, dependent1, dependent2 =>
    if dependent1 || dependent2 then .identifying else .nonIdentifying
  | .unspecified, .unspecified, dependent1, dependent2 =>
    if dependent1 || dependent2 then .identifying else .unspecified
  | _, _, _, _ => .unspecified

/-- After aligning, the kind is a function of the counts and of the entities. -/
theorem Relationship.Grounded.align_kind {entities : List Entity} {r : Relationship}
    (h : r.Grounded entities) (hsound : r.Sound) :
    (r.align entities).kind =
      .ofEntities r.cardinality.first.count r.cardinality.second.count
        (namesDependent entities r.first.name) (namesDependent entities r.second.name) := by
  have hbalanced := hsound.balanced
  rw [(hsound.align entities).kind_eq, align_first_dependency, align_second_dependency,
    align_cardinality, if_congr (h.align_dependent_iff hsound) rfl rfl]
  generalize r.cardinality.first.count = c1, r.cardinality.second.count = c2,
    namesDependent entities r.first.name = n1, namesDependent entities r.second.name = n2 at *
  cases c1 <;> cases c2 <;> cases n1 <;> cases n2 <;>
    first | rfl | exact absurd hbalanced (by decide)

theorem RelationshipKind.ofEntities_eq_nonSpecific_iff {c1 c2 : Count}
    {dependent1 dependent2 : Bool} :
    ofEntities c1 c2 dependent1 dependent2 = nonSpecific ↔ c1 = .many ∧ c2 = .many := by
  cases c1 <;> cases c2 <;> cases dependent1 <;> cases dependent2 <;> decide

/-- What the counts of a relationship and the dependency of its two entities settle: its kind, which
side is called dependent, and the roles. -/
structure Relationship.Settled (r : Relationship) (dependent1 dependent2 : Bool) : Prop where
  balanced : r.cardinality.first.count = .unspecified ↔ r.cardinality.second.count = .unspecified
  kind_eq : r.kind =
    .ofEntities r.cardinality.first.count r.cardinality.second.count dependent1 dependent2
  nonSpecific_iff : r.kind = .nonSpecific ↔
    r.cardinality.first.count = .many ∧ r.cardinality.second.count = .many
  one_flagged : ¬(r.first.dependency = .dependent ∧ r.second.dependency = .dependent)
  first_parent : r.cardinality.first.count = .one → r.cardinality.second.count = .many →
    r.first.dependency ≠ .dependent
  second_parent : r.cardinality.first.count = .many → r.cardinality.second.count = .one →
    r.second.dependency ≠ .dependent
  many_unflagged : r.cardinality.first.count = .many → r.cardinality.second.count = .many →
    r.first.dependency ≠ .dependent ∧ r.second.dependency ≠ .dependent
  first_dependent : r.first.dependency = .dependent → dependent1 = true
  second_dependent : r.second.dependency = .dependent → dependent2 = true
  child : r.kind = .identifying →
    (r.first.dependency = .dependent ∧ r.second.dependency ≠ .dependent ∧
      r.roles = (.child, .parent)) ∨
    (r.first.dependency ≠ .dependent ∧ r.second.dependency = .dependent ∧
      r.roles = (.parent, .child))

/-- Aligned with the entities, a relationship is settled by them. -/
theorem Relationship.Grounded.settled {entities : List Entity} {r : Relationship}
    (h : r.Grounded entities) (hsound : r.Sound) :
    (r.align entities).Settled (namesDependent entities r.first.name)
      (namesDependent entities r.second.name) := by
  have haligned := hsound.align entities
  obtain ⟨honeFlagged, hfirstParent, hsecondParent, hmany⟩ :=
    allowsDependencies_iff.mp haligned.allowed
  have hkind := h.align_kind hsound
  constructor
  case balanced => exact haligned.balanced
  case kind_eq => exact hkind
  case nonSpecific_iff =>
    rw [hkind]
    exact RelationshipKind.ofEntities_eq_nonSpecific_iff
  case one_flagged => exact honeFlagged
  case first_parent => exact hfirstParent
  case second_parent => exact hsecondParent
  case many_unflagged => exact hmany
  case first_dependent => exact h.align.first
  case second_dependent => exact h.align.second
  case child =>
    intro hidentifying
    rcases haligned.kind_eq_identifying_iff.mp hidentifying with hflag | hflag
    · exact .inl ⟨hflag, haligned.first_child hflag⟩
    · obtain ⟨hother, hroles⟩ := haligned.second_child hflag
      exact .inr ⟨hother, hflag, hroles⟩

end ErDiagram

import Mathlib.Data.List.Induction
import ErDiagram.Proofs.Diagram.Id
import ErDiagram.Proofs.Diagram.Inference
import ErDiagram.Proofs.Diagram.OptionMap
import ErDiagram.Proofs.Collection
import ErDiagram.Proofs.Reading.Document
import ErDiagram.Proofs.Reading.Block

set_option autoImplicit false

/-!
# What the stages of an accepted document leave

The stage of the entity blocks leaves one entity for each block, in order, of distinct names and of
consecutive ids.  The stage of the relationships leaves one relationship for each line, in order, and
behind the entities of the blocks a bare entity for each further name, in the order in which the
names are first mentioned.
-/

namespace ErDiagram

open Stage (CleanRun)
open IdSource (Numbered entityWord relationshipWord)

/-! ## Entity blocks -/

/-- The block is read as the entity. -/
def ReadsBlock (b : Block) (e : Entity) : Prop := (b.read e.id).result = .ok e

/-- What the stage of the entity blocks leaves behind it. -/
structure NamedFrom (ids : IdSource) (blocks : List Block) (s : EntityStage) : Prop where
  read : List.Forall₂ ReadsBlock blocks s.entities
  nodup : (s.entities.map (·.name)).Nodup
  numbered : Numbered entityWord (ids.issued entityWord) s.ids (s.entities.map (·.id))
  others : s.ids.issued relationshipWord = ids.issued relationshipWord

theorem NamedFrom.step {ids : IdSource} {behind : List Block} {s : EntityStage} {b : Block}
    (h : NamedFrom ids behind s) (hfault : (stepBlock s b).fault = none) :
    NamedFrom ids (behind ++ [b]) (stepBlock s b).state := by
  obtain ⟨e, hread, hname, hstate⟩ := stepBlock_clean.mp ⟨hfault, rfl⟩
  have hid : e.id = (s.ids.next entityWord).1 := (Block.read_eq_ok.mp hread).1
  rw [hstate]
  constructor
  · exact forall₂_concat h.read (by rw [ReadsBlock, hid]; exact hread)
  · rw [List.map_append, List.nodup_append]
    refine ⟨h.nodup, by simp, ?_⟩
    rintro x hx y hy rfl
    rw [List.map_singleton, List.mem_singleton] at hy
    exact hname (hy ▸ hx)
  · rw [List.map_append, List.map_singleton, hid]
    exact h.numbered.next
  · exact (IdSource.issued_next _ _ _).trans
      ((if_neg IdSource.entityWord_ne_relationshipWord.symm).trans h.others)

/-- A clean run past entity blocks leaves what the blocks say. -/
theorem namedFrom_of_cleanRun {ids : IdSource} {blocks : List Block} {s : EntityStage}
    (h : CleanRun stepBlock ⟨ids, []⟩ blocks s) : NamedFrom ids blocks s :=
  h.invariant ⟨.nil, List.nodup_nil, IdSource.numbered_nil _ _, rfl⟩
    fun _ _ _ hbehind hfault => hbehind.step hfault

/-- A block that is read as an entity is read as this entity under every id. -/
theorem ReadsBlock.read {b : Block} {e : Entity} (h : ReadsBlock b e) (id : Text) :
    (b.read id).result = .ok { e with id := id } := by
  obtain ⟨-, hattributes, hnodup, hhead⟩ := Block.read_eq_ok.mp h
  exact Block.read_eq_ok.mpr ⟨rfl, hattributes, hnodup, hhead⟩

/-- Blocks that are read as entities of new and distinct names are all gone past without a fault. -/
theorem exists_blocksRun {blocks : List Block} {entities : List Entity}
    (h : List.Forall₂ ReadsBlock blocks entities) :
    ∀ {s : EntityStage}, (s.entities.map (·.name) ++ entities.map (·.name)).Nodup →
      ∃ s', CleanRun stepBlock s blocks s' := by
  induction h with
  | nil => exact fun {s} _ => ⟨s, .nil s⟩
  | @cons b e blocks entities hblock _ ih =>
    intro s hnodup
    have hnew : e.name ∉ s.entities.map (·.name) := by
      intro hmem
      rw [List.nodup_append] at hnodup
      exact hnodup.2.2 _ hmem _ (by simp) rfl
    obtain ⟨hfault, hstate⟩ := stepBlock_clean.mpr ⟨_, hblock.read s.ids.nextEntity.1, hnew, rfl⟩
    have hnext : ((stepBlock s b).state.entities.map (·.name) ++ entities.map (·.name)).Nodup := by
      rw [hstate]
      simpa using hnodup
    obtain ⟨s', hrun⟩ := ih hnext
    exact ⟨s', .cons hfault hrun⟩

/-! ## Relationships -/

/-- The line is read as the relationship. -/
def ReadsRelationship (line : Line) (r : Relationship) : Prop :=
  ∃ read, (readRelationshipLine line).result = .ok read ∧ r = read.toRelationship r.id

/-- Lines that are read as relationships are all gone past without a fault. -/
theorem exists_relationshipsRun {lines : List Line} {relationships : List Relationship}
    (h : List.Forall₂ ReadsRelationship lines relationships) :
    ∀ {s : RelationshipStage}, ∃ s', CleanRun stepRelationship s lines s' := by
  induction h with
  | nil => exact fun {s} => ⟨s, .nil s⟩
  | @cons line r lines relationships hline _ ih =>
    intro s
    obtain ⟨read, hread, -⟩ := hline
    obtain ⟨hfault, -⟩ := stepRelationship_clean.mpr ⟨read, hread, rfl⟩
    obtain ⟨s', hrun⟩ := @ih (stepRelationship s line).state
    exact ⟨s', .cons hfault hrun⟩

/-- The names of both sides. -/
def Relationship.names (r : Relationship) : List Text := [r.first.name, r.second.name]

/-- An entity of which nothing is said but its name. -/
def Entity.IsBare (e : Entity) : Prop := e = { id := e.id, name := e.name }

/-- The entities of a stage are those from before and, behind them, a bare one for each further name
that has been mentioned, in the order of first mention. -/
structure Mentioned (start : Nat) (before : List Entity) (names : List Text)
    (s : RelationshipStage) : Prop where
  entities_eq : ∃ added, s.entities = before ++ added ∧ ∀ e ∈ added, e.IsBare
  names_eq : s.entities.map (·.name) = (before.map (·.name) ++ names).eraseDups
  numbered : Numbered entityWord start s.ids (s.entities.map (·.id))

theorem eraseDups_concat {names : List Text} {name : Text} :
    (names ++ [name]).eraseDups =
      if name ∈ names then names.eraseDups else names.eraseDups ++ [name] := by
  rw [List.eraseDups_append]
  by_cases h : name ∈ names
  · simp [List.removeAll, h]
  · simp [List.removeAll, List.eraseDups_cons, h]

theorem eraseDups_eq_self {names : List Text} (h : names.Nodup) : names.eraseDups = names := by
  induction names with
  | nil => rfl
  | cons name rest ih =>
    rw [List.nodup_cons] at h
    have hfilter : rest.filter (fun other => !other == name) = rest := by
      rw [List.filter_eq_self]
      intro other hother
      have hne : other ≠ name := fun heq => h.1 (heq ▸ hother)
      simpa using hne
    rw [List.eraseDups_cons, hfilter, ih h.2]

theorem nodup_eraseDups (names : List Text) : names.eraseDups.Nodup := by
  induction names using List.reverseRecOn with
  | nil => exact List.nodup_nil
  | append_singleton rest name ih =>
    rw [eraseDups_concat]
    split
    · exact ih
    · rename_i hnew
      rw [List.nodup_append]
      refine ⟨ih, by simp, ?_⟩
      rintro x hx y hy rfl
      rw [List.mem_eraseDups] at hx
      exact hnew (List.mem_singleton.mp hy ▸ hx)

/-- Mentioning a name adds a bare entity exactly if the name is new. -/
theorem Mentioned.mention {start : Nat} {before : List Entity} {names : List Text}
    {s : RelationshipStage} (h : Mentioned start before names s) (name : Text) :
    Mentioned start before (names ++ [name]) (s.mention name).1 := by
  have hmem : hasEntity s.entities name = true ↔ name ∈ before.map (·.name) ++ names := by
    rw [hasEntity_iff, h.names_eq, List.mem_eraseDups]
  have hnames : (before.map (·.name) ++ (names ++ [name])).eraseDups =
      if hasEntity s.entities name = true then s.entities.map (·.name)
      else s.entities.map (·.name) ++ [name] := by
    rw [← List.append_assoc, eraseDups_concat, h.names_eq]
    exact if_congr hmem.symm rfl rfl
  unfold RelationshipStage.mention
  by_cases hhas : hasEntity s.entities name = true
  · rw [if_pos hhas] at hnames ⊢
    exact ⟨h.entities_eq, hnames.symm, h.numbered⟩
  · rw [if_neg hhas] at hnames ⊢
    obtain ⟨added, hentities, hbare⟩ := h.entities_eq
    refine ⟨⟨added ++ [{ id := (s.ids.next entityWord).1, name := name }], ?_, ?_⟩, ?_, ?_⟩
    · rw [← List.append_assoc, ← hentities]
      rfl
    · intro e he
      rcases List.mem_append.mp he with hold | hnew
      · exact hbare e hold
      · rw [List.mem_singleton.mp hnew]
        rfl
    · rw [hnames, List.map_append]
      rfl
    · rw [List.map_append]
      exact h.numbered.next

/-- A relationship that is added, and the names that it mentions. -/
theorem Mentioned.relate {start : Nat} {before : List Entity} {names : List Text}
    {s : RelationshipStage} (h : Mentioned start before names s) (r : Relationship) :
    Mentioned start before (names ++ r.names) (s.relate r) := by
  have hadded : Mentioned start before names (s.add r) :=
    ⟨h.entities_eq, h.names_eq, h.numbered.next_other IdSource.entityWord_ne_relationshipWord⟩
  have hnames : names ++ r.names = names ++ [r.first.name] ++ [r.second.name] := by
    simp [Relationship.names]
  rw [hnames]
  exact (hadded.mention r.first.name).mention r.second.name

/-- The entities that were added behind entities of distinct names are bare ones for the other names, each
once. -/
theorem Mentioned.exists_added {start : Nat} {before : List Entity} {names : List Text}
    {s : RelationshipStage} (h : Mentioned start before names s)
    (hnodup : (before.map (·.name)).Nodup) :
    ∃ added, s.entities = before ++ added ∧ (∀ e ∈ added, e.IsBare) ∧
      added.map (·.name) = (names.removeAll (before.map (·.name))).eraseDups := by
  obtain ⟨added, hentities, hbare⟩ := h.entities_eq
  have hnames := h.names_eq
  rw [hentities, List.map_append, List.eraseDups_append, eraseDups_eq_self hnodup] at hnames
  exact ⟨added, hentities, hbare, List.append_cancel_left hnames⟩

@[simp] theorem RelationshipStage.mention_relationships (s : RelationshipStage) (name : Text) :
    (s.mention name).1.relationships = s.relationships := by
  unfold mention
  split <;> rfl

theorem RelationshipStage.numbered_mention {start : Nat} {given : List Text}
    {s : RelationshipStage} (h : Numbered relationshipWord start s.ids given) (name : Text) :
    Numbered relationshipWord start (s.mention name).1.ids given := by
  unfold mention
  split
  · exact h
  · exact h.next_other IdSource.entityWord_ne_relationshipWord.symm

@[simp] theorem RelationshipStage.relate_relationships (s : RelationshipStage) (r : Relationship) :
    (s.relate r).relationships = s.relationships ++ [r] := by
  simp [relate, add]

/-- A relationship that is added takes the next id, and its names take none of this word. -/
theorem RelationshipStage.numbered_relate {start : Nat} {given : List Text} {s : RelationshipStage}
    (h : Numbered relationshipWord start s.ids given) (r : Relationship) :
    Numbered relationshipWord start (s.relate r).ids (given ++ [s.ids.nextRelationship.1]) := by
  have hadded : Numbered relationshipWord start (s.add r).ids (given ++ [s.ids.nextRelationship.1]) :=
    h.next
  exact numbered_mention (numbered_mention hadded r.first.name) r.second.name

/-- What the stage of the relationships leaves behind it. -/
structure BuiltFrom (before : EntityStage) (start : Nat) (lines : List Line)
    (s : RelationshipStage) : Prop where
  read : List.Forall₂ ReadsRelationship lines s.relationships
  mentioned : Mentioned start before.entities (s.relationships.flatMap Relationship.names) s
  numbered : Numbered relationshipWord (before.ids.issued relationshipWord) s.ids
    (s.relationships.map (·.id))

theorem BuiltFrom.step {before : EntityStage} {start : Nat} {behind : List Line}
    {s : RelationshipStage} {line : Line} (h : BuiltFrom before start behind s)
    (hfault : (stepRelationship s line).fault = none) :
    BuiltFrom before start (behind ++ [line]) (stepRelationship s line).state := by
  obtain ⟨read, hread, hstate⟩ := stepRelationship_clean.mp ⟨hfault, rfl⟩
  rw [hstate]
  constructor
  · rw [RelationshipStage.relate_relationships]
    exact forall₂_concat h.read ⟨read, hread, rfl⟩
  · rw [RelationshipStage.relate_relationships, List.flatMap_append, List.flatMap_singleton]
    exact h.mentioned.relate _
  · rw [RelationshipStage.relate_relationships, List.map_append]
    exact RelationshipStage.numbered_relate h.numbered _

/-- A clean run past relationship lines leaves what the lines say. -/
theorem builtFrom_of_cleanRun {before : EntityStage} {start : Nat} {lines : List Line}
    {s : RelationshipStage} (hnodup : (before.entities.map (·.name)).Nodup)
    (hnumbered : Numbered entityWord start before.ids (before.entities.map (·.id)))
    (h : CleanRun stepRelationship ⟨before.ids, before.entities, []⟩ lines s) :
    BuiltFrom before start lines s := by
  have hinit : Mentioned start before.entities [] ⟨before.ids, before.entities, []⟩ := by
    refine ⟨⟨[], by simp⟩, ?_, hnumbered⟩
    rw [List.append_nil, eraseDups_eq_self hnodup]
  exact h.invariant ⟨.nil, hinit, IdSource.numbered_nil _ _⟩
    fun _ _ _ hbehind hfault => hbehind.step hfault

/-! ## Accepted documents -/

section Accepted

variable {ids : IdSource} {lines : List Line} {d : Diagram} {g : Grouping} {options : OptionMap}
  {named : EntityStage} {built : RelationshipStage}

theorem AcceptedAs.namedFrom (h : AcceptedAs ids lines d g options named built) :
    NamedFrom ids g.blocks named :=
  namedFrom_of_cleanRun h.blocksRun

theorem AcceptedAs.builtFrom (h : AcceptedAs ids lines d g options named built) :
    BuiltFrom named (ids.issued entityWord) g.relationships built :=
  builtFrom_of_cleanRun h.namedFrom.nodup h.namedFrom.numbered h.relationshipsRun

theorem AcceptedAs.sorts (h : AcceptedAs ids lines d g options named built) : g.Sorts lines :=
  Grouping.sorts_of_ofLines h.grouped

/-- An entity of the built stage comes from a block, or it is bare and its name is not declared. -/
theorem AcceptedAs.entity_cases (h : AcceptedAs ids lines d g options named built) {e : Entity}
    (he : e ∈ built.entities) : e ∈ named.entities ∨ e.IsBare := by
  obtain ⟨added, hentities, hbare⟩ := h.builtFrom.mentioned.entities_eq
  rw [hentities, List.mem_append] at he
  exact he.imp_right (hbare e)

/-- The names of the blocks, and each further name where it is first mentioned. -/
theorem AcceptedAs.names_eq (h : AcceptedAs ids lines d g options named built) :
    d.entities.map (·.name) =
      (named.entities.map (·.name) ++ built.relationships.flatMap Relationship.names).eraseDups := by
  rw [h.diagram_eq, inferredDiagram, propagate_map_name]
  exact h.builtFrom.mentioned.names_eq

theorem AcceptedAs.names_nodup (h : AcceptedAs ids lines d g options named built) :
    (d.entities.map (·.name)).Nodup := by
  rw [h.names_eq]
  exact nodup_eraseDups _

end Accepted

end ErDiagram

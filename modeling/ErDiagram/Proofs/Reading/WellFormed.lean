import ErDiagram.Proofs.Diagram.Inference
import ErDiagram.Proofs.Reading.Block
import ErDiagram.Proofs.Reading.OptionList
import ErDiagram.Proofs.Reading.Run

set_option autoImplicit false

/-!
# Accepted documents give well-formed diagrams

The diagram of an accepted document has an entity for every name that the document declares or
mentions, and for no other, and each name of a side of a relationship is the name of one of them.
Names are not empty and come once, ids are numbered in order, and every option map holds the options
of its place with values of their types.
-/

namespace ErDiagram

open Stage (CleanRun)
open IdSource (idOf entityWord relationshipWord)

/-! ## Names are not empty -/

theorem ne_nil_of_readEntityPart {part : Text} {role : Part} {name : Text}
    {dependency : Dependency} (h : readEntityPart part role = .ok (name, dependency)) :
    name ≠ [] := by
  obtain ⟨_, _, ⟨_, hname⟩, _⟩ := readEntityPart_eq_ok.mp h
  exact (readEntityName_eq_ok.mp hname).2

theorem ne_nil_of_readAttributeName {t : Text} {read : AttributeName}
    (h : readAttributeName t = .ok read) : read.name ≠ [] := by
  dsimp only [readAttributeName] at h
  generalize Quoting.unquote _ = name at h
  split at h
  · cases h
  · rename_i hname
    cases h
    simpa using hname

/-! ## The names of a document -/

/-- The entity name that a part holds between its brackets. -/
def nameIn? (part : Text) : Option Text :=
  ((readEntityPart part .entityName).toOption).map (·.1)

/-- The name that a line declares, if it is there to name an entity. -/
def Line.declaredName? (line : Line) : Option Text :=
  if line.kind = .entityName then nameIn? (EntityParts.ofText line.text).entity else none

/-- The names that a line mentions, if it relates two entities; that of the first side comes first. -/
def Line.mentionedNames (line : Line) : List Text :=
  if line.kind = .relationship then
    let parts := RelationshipParts.ofText line.text
    [parts.entity1, parts.entity2].filterMap nameIn?
  else []

/-- The names that the lines of a document declare, in order. -/
def declaredNames (lines : List Line) : List Text := lines.filterMap Line.declaredName?

/-- The names that the lines of a document mention in relationships, in order. -/
def mentionedNames (lines : List Line) : List Text := lines.flatMap Line.mentionedNames

theorem nameIn?_eq_some {part : Text} {role : Part} {name : Text} {dependency : Dependency}
    (h : readEntityPart part role = .ok (name, dependency)) : nameIn? part = some name := by
  have hname : readEntityPart part .entityName = .ok (name, dependency) :=
    readEntityPart_eq_ok.mpr (readEntityPart_eq_ok.mp h)
  simp [nameIn?, hname, Except.toOption]

theorem declaredNames_linesOfKind (lines : List Line) :
    declaredNames (linesOfKind .entityName lines) = declaredNames lines := by
  induction lines with
  | nil => rfl
  | cons line rest ih =>
    rw [linesOfKind_cons]
    by_cases hkind : line.kind = .entityName
    · rw [if_pos hkind]
      simp only [declaredNames, List.filterMap_cons] at ih ⊢
      rw [ih]
    · rw [if_neg hkind, ih]
      simp [declaredNames, Line.declaredName?, hkind]

theorem mentionedNames_linesOfKind (lines : List Line) :
    mentionedNames (linesOfKind .relationship lines) = mentionedNames lines := by
  induction lines with
  | nil => rfl
  | cons line rest ih =>
    rw [linesOfKind_cons]
    by_cases hkind : line.kind = .relationship
    · rw [if_pos hkind]
      simp only [mentionedNames, List.flatMap_cons] at ih ⊢
      rw [ih]
    · rw [if_neg hkind, ih]
      simp [mentionedNames, Line.mentionedNames, hkind]

theorem declaredName?_of_readsBlock {b : Block} {e : Entity} (h : ReadsBlock b e)
    (hkind : b.head.kind = .entityName) : b.head.declaredName? = some e.name := by
  obtain ⟨-, -, -, hhead⟩ := Block.read_eq_ok.mp h
  obtain ⟨-, hpart, -⟩ := readEntityLine_eq_ok.mp hhead
  rw [Line.declaredName?, if_pos hkind]
  exact nameIn?_eq_some hpart

theorem mentionedNames_of_readsRelationship {line : Line} {r : Relationship}
    (h : ReadsRelationship line r) (hkind : line.kind = .relationship) :
    line.mentionedNames = r.names := by
  obtain ⟨read, hread, hr⟩ := h
  obtain ⟨-, hpart1, -, hpart2, -⟩ := readRelationshipLine_eq_ok.mp hread
  rw [Line.mentionedNames, if_pos hkind, hr]
  simp [nameIn?_eq_some hpart1, nameIn?_eq_some hpart2, Relationship.names,
    RelationshipLine.toRelationship]

/-- Blocks that are read as entities declare the names of these. -/
theorem declaredNames_heads {blocks : List Block} {entities : List Entity}
    (h : List.Forall₂ ReadsBlock blocks entities) (hkind : ∀ b ∈ blocks, b.head.kind = .entityName) :
    declaredNames (blocks.map (·.head)) = entities.map (·.name) := by
  induction h with
  | nil => rfl
  | @cons b e blocks entities hblock _ ih =>
    have hname := declaredName?_of_readsBlock hblock (hkind b List.mem_cons_self)
    have hrest := ih fun b' hb' => hkind b' (List.mem_cons_of_mem _ hb')
    simp only [declaredNames, List.map_cons, List.filterMap_cons, hname] at hrest ⊢
    rw [hrest]

/-- Lines that are read as relationships mention the names of their sides. -/
theorem mentionedNames_eq {lines : List Line} {relationships : List Relationship}
    (h : List.Forall₂ ReadsRelationship lines relationships)
    (hkind : ∀ line ∈ lines, line.kind = .relationship) :
    mentionedNames lines = relationships.flatMap Relationship.names := by
  induction h with
  | nil => rfl
  | @cons line r lines relationships hline _ ih =>
    have hnames := mentionedNames_of_readsRelationship hline (hkind line List.mem_cons_self)
    have hrest := ih fun l hl => hkind l (List.mem_cons_of_mem _ hl)
    simp only [mentionedNames, List.flatMap_cons, hnames] at hrest ⊢
    rw [hrest]

/-! ## Well-formed entities -/

/-- Names are not empty, those of attributes come once, and options have values of their types. -/
structure Entity.WellFormed (e : Entity) : Prop where
  name_ne_nil : e.name ≠ []
  attributes_nodup : (e.attributes.map (·.name)).Nodup
  attribute_ne_nil : ∀ a ∈ e.attributes, a.name ≠ []
  options_typed : e.options.TypedFor OptionName.ofEntity
  attribute_typed : ∀ a ∈ e.attributes, a.options.TypedFor OptionName.ofAttribute

theorem Entity.WellFormed.upgrade {e : Entity} (h : e.WellFormed)
    (relationships : List Relationship) : (e.upgrade relationships).WellFormed := by
  constructor
  · simpa using h.name_ne_nil
  · simpa using h.attributes_nodup
  · simpa using h.attribute_ne_nil
  · simpa using h.options_typed
  · simpa using h.attribute_typed

theorem Entity.IsBare.wellFormed {e : Entity} (h : e.IsBare) (hname : e.name ≠ []) :
    e.WellFormed := by
  rw [h]
  exact ⟨hname, List.nodup_nil, by simp, OptionMap.typedFor_ofNames OptionMap.nodup_ofEntity,
    by simp⟩

theorem wellFormed_of_readsBlock {b : Block} {e : Entity} (h : ReadsBlock b e) : e.WellFormed := by
  obtain ⟨-, hattributes, hnodup, hhead⟩ := Block.read_eq_ok.mp h
  obtain ⟨-, hname, -, hoptions, -⟩ := readEntityLine_eq_ok.mp hhead
  refine ⟨ne_nil_of_readEntityPart hname, hnodup, ?_,
    typedFor_of_readOptionPart OptionMap.nodup_ofEntity hoptions, ?_⟩
  · intro a ha
    obtain ⟨line, -, hline⟩ := exists_of_mem_right hattributes ha
    exact ne_nil_of_readAttributeName (readAttributeLine_eq_ok.mp hline).1
  · intro a ha
    obtain ⟨line, -, hline⟩ := exists_of_mem_right hattributes ha
    exact typedFor_of_readOptionPart OptionMap.nodup_ofAttribute
      (readAttributeLine_eq_ok.mp hline).2.1

theorem ne_nil_of_readsRelationship {line : Line} {r : Relationship}
    (h : ReadsRelationship line r) : ∀ name ∈ r.names, name ≠ [] := by
  obtain ⟨read, hread, hr⟩ := h
  obtain ⟨-, hpart1, -, hpart2, -⟩ := readRelationshipLine_eq_ok.mp hread
  rw [hr]
  simp only [Relationship.names, RelationshipLine.toRelationship, List.forall_mem_cons,
    List.not_mem_nil, false_implies, implies_true, and_true]
  exact ⟨ne_nil_of_readEntityPart hpart1, ne_nil_of_readEntityPart hpart2⟩

theorem typed_of_readsRelationship {line : Line} {r : Relationship}
    (h : ReadsRelationship line r) : r.options.TypedFor OptionName.ofRelationship := by
  obtain ⟨read, hread, hr⟩ := h
  obtain ⟨-, -, -, -, -, -, -, hoptions, -⟩ := readRelationshipLine_eq_ok.mp hread
  rw [hr]
  exact typedFor_of_readOptionPart OptionMap.nodup_ofRelationship hoptions

/-! ## Accepted documents -/

/-- The diagram is complete and consistent as the diagram of these lines. -/
structure Diagram.WellFormed (lines : List Line) (d : Diagram) : Prop where
  names_nodup : (d.entities.map (·.name)).Nodup
  entities : ∀ e ∈ d.entities, e.WellFormed
  /-- The declared names come first, and every other name stands where it is first mentioned. -/
  names_eq : d.entities.map (·.name) =
    declaredNames lines ++ ((mentionedNames lines).removeAll (declaredNames lines)).eraseDups
  name_mem_iff : ∀ name, name ∈ d.entities.map (·.name) ↔
    name ∈ declaredNames lines ∨ name ∈ mentionedNames lines
  declares : ∀ line ∈ lines, line.kind = .entityName → ∃ name, line.declaredName? = some name
  mentions : ∀ line ∈ lines, line.kind = .relationship →
    ∃ name1 name2, line.mentionedNames = [name1, name2]
  undeclared_bare : ∀ e ∈ d.entities, e.name ∉ declaredNames lines → e.attributes = []
  sides_mem : ∀ r ∈ d.relationships, ∀ name ∈ r.names, name ∈ d.entities.map (·.name)
  entity_id : ∀ i e, d.entities[i]? = some e → e.id = idOf entityWord (i + 1)
  relationship_id : ∀ i r, d.relationships[i]? = some r → r.id = idOf relationshipWord (i + 1)
  options_typed : d.options.TypedFor OptionName.ofDiagram
  relationship_typed : ∀ r ∈ d.relationships, r.options.TypedFor OptionName.ofRelationship

section Accepted

variable {ids : IdSource} {lines : List Line} {d : Diagram} {g : Grouping} {options : OptionMap}
  {named : EntityStage} {built : RelationshipStage}

theorem AcceptedAs.declaredNames_eq (h : AcceptedAs ids lines d g options named built) :
    declaredNames lines = named.entities.map (·.name) := by
  have hkind : ∀ b ∈ g.blocks, b.head.kind = .entityName := by
    intro b hb
    have hmem : b.head ∈ linesOfKind .entityName lines :=
      h.sorts.heads_eq ▸ List.mem_map_of_mem hb
    exact (mem_linesOfKind.mp hmem).2
  rw [← declaredNames_linesOfKind, ← h.sorts.heads_eq]
  exact declaredNames_heads h.namedFrom.read hkind

theorem AcceptedAs.mentionedNames_eq (h : AcceptedAs ids lines d g options named built) :
    mentionedNames lines = built.relationships.flatMap Relationship.names := by
  have hkind : ∀ line ∈ g.relationships, line.kind = .relationship := by
    intro line hline
    rw [h.sorts.relationships_eq] at hline
    exact (mem_linesOfKind.mp hline).2
  rw [← mentionedNames_linesOfKind, ← h.sorts.relationships_eq]
  exact ErDiagram.mentionedNames_eq h.builtFrom.read hkind

theorem AcceptedAs.options_typed (h : AcceptedAs ids lines d g options named built) :
    options.TypedFor OptionName.ofDiagram := by
  refine h.optionsRun.invariant (P := fun _ m => m.TypedFor OptionName.ofDiagram)
    (OptionMap.typedFor_ofNames OptionMap.nodup_ofDiagram) ?_
  intro _ line m hm hfault
  exact typedFor_of_readGlobalOptions hm (stepOptions_clean.mp ⟨hfault, rfl⟩)

theorem AcceptedAs.name_ne_nil (h : AcceptedAs ids lines d g options named built) {name : Text}
    (hname : name ∈ built.entities.map (·.name)) : name ≠ [] := by
  rw [h.builtFrom.mentioned.names_eq, List.mem_eraseDups, List.mem_append] at hname
  rcases hname with hdeclared | hmentioned
  · obtain ⟨e, he, rfl⟩ := List.mem_map.mp hdeclared
    obtain ⟨b, -, hb⟩ := exists_of_mem_right h.namedFrom.read he
    exact (wellFormed_of_readsBlock hb).name_ne_nil
  · obtain ⟨r, hr, hmem⟩ := List.mem_flatMap.mp hmentioned
    obtain ⟨line, -, hline⟩ := exists_of_mem_right h.builtFrom.read hr
    exact ne_nil_of_readsRelationship hline name hmem

/-- An entity of an accepted document is well-formed, whether a block declares it or not. -/
theorem AcceptedAs.entity_wellFormed (h : AcceptedAs ids lines d g options named built) {e : Entity}
    (he : e ∈ d.entities) : e.WellFormed := by
  rw [h.diagram_eq] at he
  obtain ⟨e', he', rfl⟩ := mem_propagate.mp he
  refine Entity.WellFormed.upgrade ?_ _
  rcases h.entity_cases he' with hnamed | hbare
  · obtain ⟨b, -, hb⟩ := exists_of_mem_right h.namedFrom.read hnamed
    exact wellFormed_of_readsBlock hb
  · exact hbare.wellFormed (h.name_ne_nil (List.mem_map_of_mem he'))

theorem AcceptedAs.relationship_typed (h : AcceptedAs ids lines d g options named built)
    {r : Relationship} (hr : r ∈ d.relationships) : r.options.TypedFor OptionName.ofRelationship := by
  rw [h.diagram_eq] at hr
  obtain ⟨r', hr', rfl⟩ := mem_align.mp hr
  obtain ⟨line, -, hline⟩ := exists_of_mem_right h.builtFrom.read hr'
  rw [Relationship.align_options]
  exact typed_of_readsRelationship hline

theorem AcceptedAs.wellFormed (h : AcceptedAs {} lines d g options named built) :
    d.WellFormed lines := by
  have hnames := h.names_eq
  rw [← h.declaredNames_eq, ← h.mentionedNames_eq] at hnames
  have hentities : d.entities = propagate built.entities built.relationships := by
    rw [h.diagram_eq]
    rfl
  have hrelationships : d.relationships =
      align (propagate built.entities built.relationships) built.relationships := by
    rw [h.diagram_eq]
    rfl
  have hmem : ∀ name, name ∈ d.entities.map (·.name) ↔
      name ∈ declaredNames lines ∨ name ∈ mentionedNames lines := by
    intro name
    rw [hnames, List.mem_eraseDups, List.mem_append]
  have hdeclaredNodup : (declaredNames lines).Nodup := by
    rw [h.declaredNames_eq]
    exact h.namedFrom.nodup
  constructor
  case names_nodup => exact h.names_nodup
  case entities => exact fun e he => h.entity_wellFormed he
  case names_eq =>
    rw [hnames, List.eraseDups_append, eraseDups_eq_self hdeclaredNodup]
  case name_mem_iff => exact hmem
  case declares =>
    intro line hline hkind
    have hhead : line ∈ g.blocks.map (·.head) := by
      rw [h.sorts.heads_eq]
      exact mem_linesOfKind.mpr ⟨hline, hkind⟩
    obtain ⟨b, hb, rfl⟩ := List.mem_map.mp hhead
    obtain ⟨e, -, he⟩ := exists_of_mem_left h.namedFrom.read hb
    exact ⟨e.name, declaredName?_of_readsBlock he hkind⟩
  case mentions =>
    intro line hline hkind
    have hqueue : line ∈ g.relationships := by
      rw [h.sorts.relationships_eq]
      exact mem_linesOfKind.mpr ⟨hline, hkind⟩
    obtain ⟨r, -, hr⟩ := exists_of_mem_left h.builtFrom.read hqueue
    exact ⟨_, _, mentionedNames_of_readsRelationship hr hkind⟩
  case undeclared_bare =>
    intro e he hundeclared
    obtain ⟨e', he', rfl⟩ := mem_propagate.mp (hentities ▸ he)
    rw [Entity.upgrade_name, h.declaredNames_eq] at hundeclared
    rw [Entity.upgrade_attributes]
    rcases h.entity_cases he' with hnamed | hbare
    · exact absurd (List.mem_map_of_mem hnamed) hundeclared
    · rw [hbare]
  case sides_mem =>
    intro r hr name hname
    obtain ⟨r', hr', rfl⟩ := mem_align.mp (hrelationships ▸ hr)
    rw [hmem, h.mentionedNames_eq]
    exact .inr (List.mem_flatMap.mpr ⟨r', hr', hname⟩)
  case entity_id =>
    intro i e he
    have hids : (built.entities.map (·.id))[i]? = some e.id := by
      rw [← propagate_map_id built.entities built.relationships, ← hentities, List.getElem?_map, he]
      rfl
    have := h.builtFrom.mentioned.numbered.eq_idOf hids
    simpa [IdSource.issued] using this
  case relationship_id =>
    intro i r hr
    have hids : (built.relationships.map (·.id))[i]? = some r.id := by
      rw [← align_map_id (propagate built.entities built.relationships), ← hrelationships,
        List.getElem?_map, hr]
      rfl
    have := h.builtFrom.numbered.eq_idOf hids
    rw [h.namedFrom.others] at this
    simpa [IdSource.issued] using this
  case options_typed =>
    rw [h.diagram_eq]
    exact h.options_typed
  case relationship_typed => exact fun r hr => h.relationship_typed hr

end Accepted

/-- Whatever the lines of a document are: if they are accepted, their diagram is complete and
consistent. -/
theorem wellFormed_of_readLines {c : Catalog} {lines : List (Option Text)} {d : Diagram}
    (h : (readLines c {} lines).result = .ok (.ok d)) :
    d.WellFormed (Line.ofTexts (lines.map fun l => l.getD [])) := by
  obtain ⟨g, options, named, built, haccepted⟩ := readDocument_eq_diagram_iff.mp h
  exact haccepted.wellFormed

/-- The rules hold of the diagram of tracks. -/
theorem wellFormed_trackDiagram :
    (readLines Catalog.english {} trackLines).result = .ok (.ok trackDiagram) ∧
      trackDiagram.WellFormed (Line.ofTexts (trackLines.map fun l => l.getD [])) :=
  ⟨readLines_trackLines, wellFormed_of_readLines readLines_trackLines⟩

end ErDiagram

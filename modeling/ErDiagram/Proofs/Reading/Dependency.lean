import ErDiagram.Proofs.Reading.Run

set_option autoImplicit false

/-!
# Dependency in accepted documents

An entity of an accepted document is dependent for one of three reasons, all of which can be read off
the lines: its own brackets, a key, or the brackets of a relationship.  One round of inference finds
them all, because a relationship line that passes its checks with a side in round brackets is always
identifying.  The kinds, sides and roles of the relationships are then settled by their counts and
by the entities.
-/

namespace ErDiagram

/-! ## What lines write -/

theorem Bracket.dependency_written (kind : Bracket) : kind.dependency.IsWritten := by
  cases kind <;> first | exact .inl rfl | exact .inr rfl

theorem written_of_readEntityPart {part : Text} {role : Part} {name : Text}
    {dependency : Dependency} (h : readEntityPart part role = .ok (name, dependency)) :
    dependency.IsWritten := by
  obtain ⟨kind, -, -, rfl⟩ := readEntityPart_eq_ok.mp h
  exact kind.dependency_written

/-- Of the names that are read, those in round brackets belong to dependent entities. -/
theorem writesName_round_iff {part : Text} {role : Part} {name : Text} {dependency : Dependency}
    (h : readEntityPart part role = .ok (name, dependency)) (other : Text) :
    writesName .round part other ↔ dependency = .dependent ∧ name = other := by
  obtain ⟨kind, hkind, ⟨henclosed, hname⟩, rfl⟩ := readEntityPart_eq_ok.mp h
  constructor
  · rintro ⟨hround, hother⟩
    rw [Bracket.eq_of_encloses henclosed hround]
    exact ⟨rfl, Except.ok.inj (hname.symm.trans hother)⟩
  · rintro ⟨hdependent, rfl⟩
    have hround : kind = .round := by
      simp only [Bracket.entity, List.mem_cons, List.not_mem_nil, or_false] at hkind
      rcases hkind with rfl | rfl
      · exact absurd hdependent (by decide)
      · rfl
    rw [← hround]
    exact ⟨henclosed, hname⟩

/-- A cardinality that is read says something at both ends or at neither. -/
theorem balanced_of_readCardinality {t : Text} {cardinality : Cardinality}
    (h : readCardinality t = .ok cardinality) :
    Count.Balanced cardinality.first.count cardinality.second.count := by
  unfold readCardinality at h
  split at h
  · cases h
  · split at h
    · cases h
    · split at h
      · cases h
      · split at h
        · cases h
        · rename_i first _ _ second _ hsided
          cases h
          have hequal : (first.count == .unspecified) = (second.count == .unspecified) := by
            simpa using hsided
          rw [Bool.eq_iff_iff, beq_iff_eq, beq_iff_eq] at hequal
          exact hequal
  · cases h

/-- A relationship that is read off a line is sound. -/
theorem sound_of_readsRelationship {line : Line} {r : Relationship}
    (h : ReadsRelationship line r) : r.Sound := by
  obtain ⟨read, hread, hr⟩ := h
  obtain ⟨-, hpart1, hcardinality, hpart2, -, -, -, -, -, hallowed⟩ :=
    readRelationshipLine_eq_ok.mp hread
  rw [hr]
  exact ⟨balanced_of_readCardinality hcardinality, written_of_readEntityPart hpart1,
    written_of_readEntityPart hpart2, hallowed⟩

/-! ## What inference makes of it -/

section Accepted

variable {ids : IdSource} {lines : List Line} {d : Diagram} {g : Grouping} {options : OptionMap}
  {named : EntityStage} {built : RelationshipStage}

theorem AcceptedAs.sound (h : AcceptedAs ids lines d g options named built) {r : Relationship}
    (hr : r ∈ built.relationships) : r.Sound := by
  obtain ⟨line, -, hline⟩ := exists_of_mem_right h.builtFrom.read hr
  exact sound_of_readsRelationship hline

/-- The dependency of an entity of a block is the one that its brackets write, and any other entity is
independent before inference. -/
theorem AcceptedAs.written (h : AcceptedAs ids lines d g options named built) {e : Entity}
    (he : e ∈ built.entities) : e.dependency.IsWritten := by
  rcases h.entity_cases he with hnamed | hbare
  · obtain ⟨b, -, hb⟩ := exists_of_mem_right h.namedFrom.read hnamed
    obtain ⟨-, -, -, hhead⟩ := Block.read_eq_ok.mp hb
    exact written_of_readEntityPart (readEntityLine_eq_ok.mp hhead).2.1
  · rw [hbare]
    exact .inl rfl

/-- Since every sound relationship with a dependent side is identifying, an entity has to be dependent
exactly if a key or any relationship says so. -/
theorem AcceptedAs.mustBeDependent_iff (h : AcceptedAs ids lines d g options named built)
    {e : Entity} :
    e.mustBeDependent built.relationships = true ↔
      (∃ a ∈ e.attributes, a.isPrimaryKey = true ∧ a.isForeignKey = true) ∨
        ∃ r ∈ built.relationships, r.hasDependentSide e.name = true := by
  have hkind : ∀ r ∈ built.relationships, ∀ name, r.hasDependentSide name = true →
      r.kind = .identifying := by
    intro r hr name hside
    rw [(h.sound hr).kind_eq_identifying_iff]
    simp only [Relationship.hasDependentSide, Bool.or_eq_true, Bool.and_eq_true, beq_iff_eq] at hside
    exact hside.imp And.right And.right
  simp only [Entity.mustBeDependent, Bool.or_eq_true, List.any_eq_true, Bool.and_eq_true,
    beq_iff_eq, Attribute.isPrimaryForeignKey]
  refine or_congr_right ?_
  constructor
  · rintro ⟨r, hr, -, hside⟩
    exact ⟨r, hr, hside⟩
  · rintro ⟨r, hr, hside⟩
    exact ⟨r, hr, hkind r hr _ hside, hside⟩

theorem AcceptedAs.dependent_iff (h : AcceptedAs ids lines d g options named built) {e : Entity}
    (he : e ∈ built.entities) :
    (e.upgrade built.relationships).dependency = .dependent ↔
      e.dependency = .dependent ∨
        (∃ a ∈ e.attributes, a.isPrimaryKey = true ∧ a.isForeignKey = true) ∨
        ∃ r ∈ built.relationships, r.hasDependentSide e.name = true := by
  rw [Entity.upgrade_dependent_iff (h.written he), h.mustBeDependent_iff]

/-- A side that a line calls dependent names an entity that inference makes dependent. -/
theorem AcceptedAs.grounded (h : AcceptedAs ids lines d g options named built) {r : Relationship}
    (hr : r ∈ built.relationships) :
    r.Grounded (propagate built.entities built.relationships) := by
  have hpropagated : ∀ name ∈ r.names, r.hasDependentSide name = true →
      namesDependent (propagate built.entities built.relationships) name = true := by
    intro name hname hside
    have hmem : name ∈ built.entities.map (·.name) := by
      rw [h.builtFrom.mentioned.names_eq, List.mem_eraseDups, List.mem_append]
      exact .inr (List.mem_flatMap.mpr ⟨r, hr, hname⟩)
    obtain ⟨e, he, rfl⟩ := List.mem_map.mp hmem
    rw [namesDependent_iff]
    refine ⟨_, mem_propagate.mpr ⟨e, he, rfl⟩, Entity.upgrade_name _ _, ?_⟩
    exact (h.dependent_iff he).mpr (.inr (.inr ⟨r, hr, hside⟩))
  constructor
  · intro hflag
    exact hpropagated r.first.name (by simp [Relationship.names])
      (by simp [Relationship.hasDependentSide, hflag])
  · intro hflag
    exact hpropagated r.second.name (by simp [Relationship.names])
      (by simp [Relationship.hasDependentSide, hflag])

end Accepted

/-! ## Why an entity is dependent -/

/-- Some line declares the name in round brackets. -/
def DeclaresRound (lines : List Line) (name : Text) : Prop :=
  ∃ line ∈ lines, line.kind = .entityName ∧
    writesName .round (EntityParts.ofText line.text).entity name

/-- Some line relates an entity of the name to another and writes the name in round brackets. -/
def RelatesRound (lines : List Line) (name : Text) : Prop :=
  ∃ line ∈ lines, line.kind = .relationship ∧
    (writesName .round (RelationshipParts.ofText line.text).entity1 name ∨
      writesName .round (RelationshipParts.ofText line.text).entity2 name)

section Accepted

variable {ids : IdSource} {lines : List Line} {d : Diagram} {g : Grouping} {options : OptionMap}
  {named : EntityStage} {built : RelationshipStage}

theorem AcceptedAs.built_nodup (h : AcceptedAs ids lines d g options named built) :
    (built.entities.map (·.name)).Nodup := by
  rw [h.builtFrom.mentioned.names_eq]
  exact nodup_eraseDups _

/-- Before inference exactly the entities are dependent that a line declares in round brackets. -/
theorem AcceptedAs.declaresRound_iff (h : AcceptedAs ids lines d g options named built)
    {e : Entity} (he : e ∈ built.entities) :
    e.dependency = .dependent ↔ DeclaresRound lines e.name := by
  have hround : ∀ (b : Block) (e' : Entity), ReadsBlock b e' → ∀ name,
      writesName .round (EntityParts.ofText b.head.text).entity name ↔
        e'.dependency = .dependent ∧ e'.name = name := by
    intro b e' hb name
    obtain ⟨-, -, -, hhead⟩ := Block.read_eq_ok.mp hb
    exact writesName_round_iff (readEntityLine_eq_ok.mp hhead).2.1 name
  have hheads : ∀ line, line ∈ g.blocks.map (·.head) ↔ line ∈ lines ∧ line.kind = .entityName := by
    intro line
    rw [h.sorts.heads_eq, mem_linesOfKind]
  constructor
  · intro hdependent
    rcases h.entity_cases he with hnamed | hbare
    · obtain ⟨b, hb, hread⟩ := exists_of_mem_right h.namedFrom.read hnamed
      obtain ⟨hline, hkind⟩ := (hheads b.head).mp (List.mem_map_of_mem hb)
      exact ⟨b.head, hline, hkind, (hround b e hread e.name).mpr ⟨hdependent, rfl⟩⟩
    · rw [hbare] at hdependent
      cases hdependent
  · rintro ⟨line, hline, hkind, hwrites⟩
    obtain ⟨b, hb, rfl⟩ := List.mem_map.mp ((hheads line).mpr ⟨hline, hkind⟩)
    obtain ⟨e', he', hread⟩ := exists_of_mem_left h.namedFrom.read hb
    obtain ⟨hdependent, hname⟩ := (hround b e' hread e.name).mp hwrites
    -- the entity of the block is this one, because names are distinct
    obtain ⟨added, hentities, -⟩ := h.builtFrom.mentioned.entities_eq
    have hmem : e' ∈ built.entities := hentities ▸ List.mem_append_left added he'
    rw [← List.inj_on_of_nodup_map h.built_nodup hmem he hname]
    exact hdependent

/-- A relationship calls an entity dependent exactly if a relationship line writes its name in round
brackets. -/
theorem AcceptedAs.relatesRound_iff (h : AcceptedAs ids lines d g options named built)
    (name : Text) :
    (∃ r ∈ built.relationships, r.hasDependentSide name = true) ↔ RelatesRound lines name := by
  have hqueue : ∀ line, line ∈ g.relationships ↔ line ∈ lines ∧ line.kind = .relationship := by
    intro line
    rw [h.sorts.relationships_eq, mem_linesOfKind]
  have hround : ∀ (line : Line) (r : Relationship), ReadsRelationship line r →
      (r.hasDependentSide name = true ↔
        writesName .round (RelationshipParts.ofText line.text).entity1 name ∨
          writesName .round (RelationshipParts.ofText line.text).entity2 name) := by
    rintro line r ⟨read, hread, hr⟩
    obtain ⟨-, hpart1, -, hpart2, -⟩ := readRelationshipLine_eq_ok.mp hread
    rw [writesName_round_iff hpart1, writesName_round_iff hpart2, hr]
    simp [Relationship.hasDependentSide, RelationshipLine.toRelationship, and_comm]
  constructor
  · rintro ⟨r, hr, hside⟩
    obtain ⟨line, hline, hread⟩ := exists_of_mem_right h.builtFrom.read hr
    obtain ⟨hmem, hkind⟩ := (hqueue line).mp hline
    exact ⟨line, hmem, hkind, (hround line r hread).mp hside⟩
  · rintro ⟨line, hmem, hkind, hwrites⟩
    obtain ⟨r, hr, hread⟩ := exists_of_mem_left h.builtFrom.read ((hqueue line).mpr ⟨hmem, hkind⟩)
    exact ⟨r, hr, (hround line r hread).mpr hwrites⟩

end Accepted

/-- The entity is dependent for one of the three reasons that lines can give, and independent
otherwise. -/
structure Entity.DependencyExplained (lines : List Line) (e : Entity) : Prop where
  dependent_iff : e.dependency = .dependent ↔
    DeclaresRound lines e.name ∨
      (∃ a ∈ e.attributes, a.isPrimaryKey = true ∧ a.isForeignKey = true) ∨
      RelatesRound lines e.name
  independent : e.dependency ≠ .dependent → e.dependency = .independent

/-- In every accepted document, the dependency of every entity is explained by the lines. -/
theorem dependencyExplained_of_readLines {c : Catalog} {ids : IdSource}
    {lines : List (Option Text)} {d : Diagram}
    (h : (readLines c ids lines).result = .ok (.ok d)) :
    ∀ e ∈ d.entities, e.DependencyExplained (Line.ofTexts (lines.map fun l => l.getD [])) := by
  obtain ⟨g, options, named, built, haccepted⟩ := readDocument_eq_diagram_iff.mp h
  intro e he
  rw [haccepted.diagram_eq] at he
  obtain ⟨e', he', rfl⟩ := mem_propagate.mp he
  constructor
  · rw [haccepted.dependent_iff he', haccepted.declaresRound_iff he',
      haccepted.relatesRound_iff e'.name, Entity.upgrade_name, Entity.upgrade_attributes]
  · exact (Entity.upgrade_written (haccepted.written he') _).eq_independent_iff.mpr

/-- Of the tracks, albums and lyrics, the first depend on a key and the last on a relationship. -/
theorem dependencyExplained_trackDiagram :
    (readLines Catalog.english {} trackLines).result = .ok (.ok trackDiagram) ∧
      ∀ e ∈ trackDiagram.entities,
        e.DependencyExplained (Line.ofTexts (trackLines.map fun l => l.getD [])) :=
  ⟨readLines_trackLines, dependencyExplained_of_readLines readLines_trackLines⟩

/-! ## What a relationship means -/

/-- Every relationship of an accepted document relates two of its entities, and these settle it. -/
theorem settled_of_readLines {c : Catalog} {ids : IdSource} {lines : List (Option Text)}
    {d : Diagram} (h : (readLines c ids lines).result = .ok (.ok d)) :
    ∀ r ∈ d.relationships, ∃ e1 e2, d.entity? r.first.name = some e1 ∧
      d.entity? r.second.name = some e2 ∧
      r.Settled (e1.dependency == .dependent) (e2.dependency == .dependent) := by
  obtain ⟨g, options, named, built, haccepted⟩ := readDocument_eq_diagram_iff.mp h
  have hnodup := haccepted.names_nodup
  intro r hr
  have hentities : d.entities = propagate built.entities built.relationships := by
    rw [haccepted.diagram_eq]
    rfl
  rw [haccepted.diagram_eq] at hr
  obtain ⟨r', hr', rfl⟩ := mem_align.mp hr
  have hside : ∀ name ∈ r'.names, ∃ e, d.entity? name = some e ∧
      namesDependent d.entities name = (e.dependency == .dependent) := by
    intro name hname
    have hmem : name ∈ d.entities.map (·.name) := by
      rw [haccepted.names_eq, List.mem_eraseDups, List.mem_append]
      exact .inr (List.mem_flatMap.mpr ⟨r', hr', hname⟩)
    obtain ⟨e, he, rfl⟩ := List.mem_map.mp hmem
    exact ⟨e, (Diagram.entity?_eq_some_iff hnodup).mpr ⟨he, rfl⟩,
      namesDependent_of_nodup hnodup he⟩
  obtain ⟨e1, hfound1, hdependent1⟩ := hside r'.first.name (by simp [Relationship.names])
  obtain ⟨e2, hfound2, hdependent2⟩ := hside r'.second.name (by simp [Relationship.names])
  refine ⟨e1, e2, hfound1, hfound2, ?_⟩
  rw [← hdependent1, ← hdependent2, hentities]
  exact (haccepted.grounded hr').settled (haccepted.sound hr')

/-- The albums hold tracks, which are dependent, and the tracks have lyrics, which are dependent as
well but cannot both be called so. -/
theorem settled_trackDiagram :
    (readLines Catalog.english {} trackLines).result = .ok (.ok trackDiagram) ∧
      ∀ r ∈ trackDiagram.relationships, ∃ e1 e2,
        trackDiagram.entity? r.first.name = some e1 ∧
        trackDiagram.entity? r.second.name = some e2 ∧
        r.Settled (e1.dependency == .dependent) (e2.dependency == .dependent) :=
  ⟨readLines_trackLines, settled_of_readLines readLines_trackLines⟩

end ErDiagram

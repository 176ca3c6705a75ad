import ErDiagram.Proofs.Diagram.Order
import ErDiagram.Proofs.Reading.Alike
import ErDiagram.Proofs.Reading.Run
import ErDiagram.Proofs.Reading.Unit

set_option autoImplicit false

/-!
# The order of a document does not matter

The units of a document may stand in any order, as long as the global options keep theirs.  An entity
block is read without a look at the others, apart from its name, which may be taken; a relationship is
read without a look at anything; and the entities that are only mentioned are the same, whichever
relationship comes first.  So the document is still accepted, and its diagram says the same.
-/

namespace ErDiagram

open Stage (CleanRun)

/-! ## What is read, apart from ids -/

/-- Lines of the same text say the same. -/
theorem saysSame_text : SaysSame fun line line' : Line => line.text = line'.text :=
  ⟨Line.body_eq_of_text_eq, Line.kind_eq_of_text_eq⟩

/-- A reading that is like one with a value has this value. -/
theorem Reading.Alike.eq_ok {α : Type} {R : Line → Line → Prop} {r r' : Reading α} {a : α}
    (h : r.Alike R r') (hread : r.result = .ok a) : r'.result = .ok a := by
  rcases ExceptRel.cases h with ⟨fault, -, hfault, -⟩ | ⟨b, b', hb, hb', hsame⟩
  · rw [hread] at hfault
    cases hfault
  · rw [hb', ← hsame, ← hb, hread]

theorem readsBlock_of_texts_eq (b b' : Block) (e : Entity) (h : b.texts = b'.texts)
    (hread : ReadsBlock b e) : ReadsBlock b' e := by
  obtain ⟨hhead, hattributes⟩ := Prod.mk.inj h
  have halike : b.Alike (fun line line' => line.text = line'.text) b' :=
    ⟨hhead, forall₂_map_eq_iff.mpr hattributes⟩
  exact (halike.read saysSame_text e.id).eq_ok hread

theorem readsRelationship_of_text_eq (line line' : Line) (r : Relationship)
    (h : line.text = line'.text) (hread : ReadsRelationship line r) : ReadsRelationship line' r := by
  obtain ⟨read, hline, hr⟩ := hread
  exact ⟨read, (alike_readRelationshipLine saysSame_text h).eq_ok hline, hr⟩

/-- A block is read as one entity, but for its id. -/
theorem ReadsBlock.withoutId_eq {b : Block} {e e' : Entity} (h : ReadsBlock b e)
    (h' : ReadsBlock b e') : e.withoutId = e'.withoutId :=
  Except.ok.inj ((h.read []).symm.trans (h'.read []))

/-- A line is read as one relationship, but for its id. -/
theorem ReadsRelationship.withoutId_eq {line : Line} {r r' : Relationship}
    (h : ReadsRelationship line r) (h' : ReadsRelationship line r') : r.withoutId = r'.withoutId := by
  obtain ⟨read, hread, hr⟩ := h
  obtain ⟨read', hread', hr'⟩ := h'
  rw [hr, hr', Except.ok.inj (hread.symm.trans hread')]
  rfl

/-! ## Entities that are only mentioned -/

theorem Entity.IsBare.withoutId_eq {e : Entity} (h : e.IsBare) :
    e.withoutId = { id := [], name := e.name } := by
  rw [h]
  rfl

theorem map_withoutId_of_isBare {added : List Entity} (h : ∀ e ∈ added, e.IsBare) :
    added.map Entity.withoutId = (added.map (·.name)).map fun name => { id := [], name := name } := by
  rw [List.map_map]
  exact List.map_congr_left fun e he => (h e he).withoutId_eq

/-- The names of sides do not depend on ids. -/
theorem flatMap_names_withoutId (relationships : List Relationship) :
    (relationships.map Relationship.withoutId).flatMap Relationship.names =
      relationships.flatMap Relationship.names := by
  rw [List.flatMap_map]
  rfl

/-- Names that are not taken are the same, each once, in whatever order they come. -/
theorem eraseDups_removeAll_perm {names names' taken taken' : List Text} (hnames : names.Perm names')
    (htaken : taken.Perm taken') :
    (names.removeAll taken).eraseDups.Perm (names'.removeAll taken').eraseDups := by
  apply (List.perm_ext_iff_of_nodup (nodup_eraseDups _) (nodup_eraseDups _)).mpr
  intro name
  have hmem : ∀ names taken : List Text,
      name ∈ (names.removeAll taken).eraseDups ↔ name ∈ names ∧ name ∉ taken := by
    intro names taken
    rw [List.mem_eraseDups, List.removeAll, List.mem_filter]
    simp
  rw [hmem, hmem, hnames.mem_iff, htaken.mem_iff]

/-- The same entities of blocks and the same relationships leave the same entities behind them. -/
theorem Mentioned.entities_perm {start start' : Nat} {before before' : List Entity}
    {relationships relationships' : List Relationship} {s s' : RelationshipStage}
    (h : Mentioned start before (relationships.flatMap Relationship.names) s)
    (h' : Mentioned start' before' (relationships'.flatMap Relationship.names) s')
    (hnodup : (before.map (·.name)).Nodup) (hnodup' : (before'.map (·.name)).Nodup)
    (hbefore : (before.map Entity.withoutId).Perm (before'.map Entity.withoutId))
    (hrelationships : (relationships.map Relationship.withoutId).Perm
      (relationships'.map Relationship.withoutId)) :
    (s.entities.map Entity.withoutId).Perm (s'.entities.map Entity.withoutId) := by
  obtain ⟨added, hentities, hbare, hadded⟩ := h.exists_added hnodup
  obtain ⟨added', hentities', hbare', hadded'⟩ := h'.exists_added hnodup'
  have hmentioned : (relationships.flatMap Relationship.names).Perm
      (relationships'.flatMap Relationship.names) := by
    rw [← flatMap_names_withoutId, ← flatMap_names_withoutId relationships']
    exact hrelationships.flatMap_right _
  have htaken : (before.map (·.name)).Perm (before'.map (·.name)) := by
    rw [← map_name_withoutId, ← map_name_withoutId before']
    exact hbefore.map _
  rw [hentities, hentities', List.map_append, List.map_append, map_withoutId_of_isBare hbare,
    map_withoutId_of_isBare hbare', hadded, hadded']
  apply hbefore.append
  exact (eraseDups_removeAll_perm hmentioned htaken).map _

/-! ## Units in another order -/

/-- The queues of two groupings have the same lines, those of the global options in the same order. -/
structure Grouping.SameLines (g g' : Grouping) : Prop where
  options : g.options.map (·.text) = g'.options.map (·.text)
  blocks : (g.blocks.map Block.texts).Perm (g'.blocks.map Block.texts)
  relationships : (g.relationships.map (·.text)).Perm (g'.relationships.map (·.text))

/-- A document with the units of an accepted one is accepted, and its diagram says the same. -/
theorem AcceptedAs.exists_sameButIds {ids : IdSource} {lines lines' : List Line} {d : Diagram}
    {g g' : Grouping} {options : OptionMap} {named : EntityStage} {built : RelationshipStage}
    (h : AcceptedAs ids lines d g options named built) (hsame : g.SameLines g')
    (hgrouped : Grouping.ofLines lines' = .ok g') (ids' : IdSource) :
    ∃ d' named' built', AcceptedAs ids' lines' d' g' options named' built' ∧ d.SameButIds d' := by
  have hoptions : CleanRun stepOptions (OptionMap.ofNames OptionName.ofDiagram) g'.options options :=
    Stage.CleanRun.alike
      ((forall₂_map_eq_iff.mpr hsame.options).imp fun _ _ => alike_stepOptions saysSame_text)
      h.optionsRun
  -- the blocks are read as the same entities, whose names are still distinct
  obtain ⟨entities, hentities, hentitiesPerm⟩ :=
    exists_perm_of_forall₂ readsBlock_of_texts_eq hsame.blocks h.namedFrom.read
  have hnodup : (entities.map (·.name)).Nodup :=
    (hentitiesPerm.map _).nodup_iff.mpr h.namedFrom.nodup
  obtain ⟨named', hnamed⟩ := @exists_blocksRun _ _ hentities ⟨ids', []⟩ hnodup
  have hnamedFrom := namedFrom_of_cleanRun hnamed
  have hnamedEq : entities.map Entity.withoutId = named'.entities.map Entity.withoutId := by
    apply forall₂_map_eq_iff.mp
    refine (forall₂_span hentities hnamedFrom.read).imp ?_
    intro e e' hread
    obtain ⟨b, he, he'⟩ := hread
    exact he.withoutId_eq he'
  have hnamedPerm : (named.entities.map Entity.withoutId).Perm
      (named'.entities.map Entity.withoutId) :=
    hnamedEq ▸ hentitiesPerm.symm.map _
  -- the lines are read as the same relationships
  obtain ⟨relationships, hrelationships, hrelationshipsPerm⟩ :=
    exists_perm_of_forall₂ readsRelationship_of_text_eq hsame.relationships h.builtFrom.read
  obtain ⟨built', hbuilt⟩ :=
    @exists_relationshipsRun _ _ hrelationships ⟨named'.ids, named'.entities, []⟩
  have hbuiltFrom := builtFrom_of_cleanRun hnamedFrom.nodup hnamedFrom.numbered hbuilt
  have hbuiltEq : relationships.map Relationship.withoutId =
      built'.relationships.map Relationship.withoutId := by
    apply forall₂_map_eq_iff.mp
    refine (forall₂_span hrelationships hbuiltFrom.read).imp ?_
    intro r r' hread
    obtain ⟨line, hr, hr'⟩ := hread
    exact hr.withoutId_eq hr'
  have hbuiltPerm : (built.relationships.map Relationship.withoutId).Perm
      (built'.relationships.map Relationship.withoutId) :=
    hbuiltEq ▸ hrelationshipsPerm.symm.map _
  refine ⟨_, named', built', ⟨hgrouped, hoptions, hnamed, hbuilt, rfl⟩, ?_⟩
  rw [h.diagram_eq]
  apply sameButIds_inferredDiagram
  · exact h.builtFrom.mentioned.entities_perm hbuiltFrom.mentioned h.namedFrom.nodup
      hnamedFrom.nodup hnamedPerm hbuiltPerm
  · exact hbuiltPerm
  · rw [h.builtFrom.mentioned.names_eq]
    exact nodup_eraseDups _

/-- The units in another order, in which the global options are still in theirs. -/
structure Rearranged (units units' : List DocumentUnit) : Prop where
  perm : units.Perm units'
  options_eq : units.filterMap DocumentUnit.options? = units'.filterMap DocumentUnit.options?

namespace Rearranged

variable {units units' : List DocumentUnit}

theorem symm (h : Rearranged units units') : Rearranged units' units :=
  ⟨h.perm.symm, h.options_eq.symm⟩

theorem sameLines (h : Rearranged units units') {g g' : Grouping} (hg : g.Holds units)
    (hg' : g'.Holds units') : g.SameLines g' := by
  constructor
  · rw [hg.options, hg'.options, h.options_eq]
  · rw [hg.blocks, hg'.blocks]
    exact h.perm.filterMap _
  · rw [hg.relationships, hg'.relationships]
    exact h.perm.filterMap _

/-- A document of rearranged units is accepted if the other one is, and the diagrams say the same. -/
theorem exists_diagram (h : Rearranged units units') {lines lines' : List (Option Text)}
    (hunits : HasUnits lines units) (hunits' : HasUnits lines' units') {c : Catalog} {ids : IdSource}
    {d : Diagram} (hread : (readLines c ids lines).result = .ok (.ok d)) (c' : Catalog)
    (ids' : IdSource) :
    ∃ d', (readLines c' ids' lines').result = .ok (.ok d') ∧ d.SameButIds d' := by
  obtain ⟨g, options, named, built, haccepted⟩ := readDocument_eq_diagram_iff.mp hread
  obtain ⟨⟨g', hgrouped⟩, heq⟩ := hunits'
  have hholds := hunits.units_eq ▸ Grouping.holds_of_ofLines haccepted.grouped
  have hholds' := heq ▸ Grouping.holds_of_ofLines hgrouped
  obtain ⟨d', named', built', haccepted', hsame⟩ :=
    haccepted.exists_sameButIds (h.sameLines hholds hholds') hgrouped ids'
  exact ⟨d', readDocument_eq_diagram_iff.mpr ⟨g', options, named', built', haccepted'⟩, hsame⟩

end Rearranged

/-- In whatever order the units of a document stand, with the global options in theirs: they can be
written out, and every document of these units is accepted if and only if the other one is, with a
diagram that says the same. -/
theorem readLines_rearranged {lines : List (Option Text)} {units units' : List DocumentUnit}
    (h : HasUnits lines units) (hrearranged : Rearranged units units') :
    HasUnits ((units'.flatMap DocumentUnit.texts).map some) units' ∧
      ∀ lines', HasUnits lines' units' → ∀ (c c' : Catalog) (ids ids' : IdSource),
        ((∃ d, (readLines c ids lines).result = .ok (.ok d)) ↔
          ∃ d', (readLines c' ids' lines').result = .ok (.ok d')) ∧
        ∀ d d', (readLines c ids lines).result = .ok (.ok d) →
          (readLines c' ids' lines').result = .ok (.ok d') → d.SameButIds d' := by
  have hfits : ∀ unit ∈ units', unit.Fits := by
    intro unit hunit
    apply fits_of_mem_unitsOf
    rw [h.units_eq]
    exact hrearranged.perm.mem_iff.mpr hunit
  refine ⟨hasUnits_texts hfits, fun lines' h' c c' ids ids' => ⟨⟨?_, ?_⟩, ?_⟩⟩
  · intro hd
    obtain ⟨d, hd⟩ := hd
    obtain ⟨d', hd', -⟩ := hrearranged.exists_diagram h h' hd c' ids'
    exact ⟨d', hd'⟩
  · intro hd'
    obtain ⟨d', hd'⟩ := hd'
    obtain ⟨d, hd, -⟩ := hrearranged.symm.exists_diagram h' h hd' c ids
    exact ⟨d, hd⟩
  · intro d d' hd hd'
    obtain ⟨d'', hd'', hsame⟩ := hrearranged.exists_diagram h h' hd c' ids'
    rw [hd'', Except.ok.injEq, Except.ok.injEq] at hd'
    exact hd' ▸ hsame

/-- The units of the tracks. -/
def trackUnits : List DocumentUnit :=
  [.options "{title: Music; title-size: 14}".toList,
    .block "[Track] {color: red}".toList ["*id".toList, "*album* {mark: of}".toList],
    .relationship "[Album] 1--+ [Track] <holds->".toList,
    .relationship "[Track] 1--? (Lyrics)  # sung".toList]

/-- Of the tracks, first what relates them: lyrics are now mentioned in front of albums. -/
theorem readLines_trackUnits_reverse :
    HasUnits trackLines trackUnits ∧ Rearranged trackUnits trackUnits.reverse ∧
      ∃ d, (readLines Catalog.english {}
          ((trackUnits.reverse.flatMap DocumentUnit.texts).map some)).result = .ok (.ok d) ∧
        trackDiagram.SameButIds d := by
  obtain ⟨g, _, _, _, haccepted⟩ := readDocument_eq_diagram_iff.mp readLines_trackLines
  have hunits : HasUnits trackLines trackUnits := ⟨⟨g, haccepted.grouped⟩, by decide +kernel⟩
  have hrearranged : Rearranged trackUnits trackUnits.reverse :=
    ⟨(List.reverse_perm trackUnits).symm, rfl⟩
  refine ⟨hunits, hrearranged, ?_⟩
  obtain ⟨hwritten, hread⟩ := readLines_rearranged hunits hrearranged
  obtain ⟨haccepts, hsame⟩ := hread _ hwritten Catalog.english Catalog.english {} {}
  obtain ⟨d, hd⟩ := haccepts.mp ⟨trackDiagram, readLines_trackLines⟩
  exact ⟨d, hd, hsame _ _ readLines_trackLines hd⟩

end ErDiagram

import ErDiagram.Proofs.Reading.Block
import ErDiagram.Proofs.Reading.CleanRun
import ErDiagram.Reading.Document

set_option autoImplicit false

/-!
# What an accepted document went through

A document is accepted exactly if its lines can be grouped and each of the three stages goes past
its units without a fault; the diagram is then inferred from what the stages leave.  The catalog has
no part in this.
-/

namespace ErDiagram

open Stage (CleanRun)

/-! ## What one unit does -/

/-- A line of global options passes exactly if it is read, and the options read go on. -/
theorem stepOptions_clean {m m' : OptionMap} {line : Line} :
    ((stepOptions m line).fault = none ∧ (stepOptions m line).state = m') ↔
      (readGlobalOptions m line).result = .ok m' := by
  unfold stepOptions
  rcases readGlobalOptions m line with ⟨log, fault | read⟩
  · simp
  · simp

theorem hasEntity_iff {entities : List Entity} {name : Text} :
    hasEntity entities name = true ↔ name ∈ entities.map (·.name) := by
  simp [hasEntity]

/-- An entity block passes exactly if it is read under the next id as an entity of a new name, which
then comes last. -/
theorem stepBlock_clean {s s' : EntityStage} {b : Block} :
    ((stepBlock s b).fault = none ∧ (stepBlock s b).state = s') ↔
      ∃ e, (b.read s.ids.nextEntity.1).result = .ok e ∧ e.name ∉ s.entities.map (·.name) ∧
        s' = ⟨s.ids.nextEntity.2, s.entities ++ [e]⟩ := by
  unfold stepBlock
  rcases b.read s.ids.nextEntity.1 with ⟨log, fault | e⟩
  · simp
  · by_cases hname : hasEntity s.entities e.name = true
    · have hold : e.name ∈ s.entities.map (·.name) := hasEntity_iff.mp hname
      simp only [hname, if_true, reduceCtorEq, false_and, false_iff, Except.ok.injEq, not_exists,
        not_and]
      rintro e' rfl hnew
      exact absurd hold hnew
    · have hnew : e.name ∉ s.entities.map (·.name) := fun h => hname (hasEntity_iff.mpr h)
      simp only [hname, Bool.false_eq_true, if_false, true_and, Except.ok.injEq]
      constructor
      · rintro rfl
        exact ⟨e, rfl, hnew, rfl⟩
      · rintro ⟨e', rfl, -, rfl⟩
        rfl

/-- The stage with a relationship behind the others, and with the entities that it mentions first. -/
def RelationshipStage.relate (s : RelationshipStage) (r : Relationship) : RelationshipStage :=
  (((s.add r).mention r.first.name).1.mention r.second.name).1

/-- A relationship line passes exactly if it is read, and its relationship goes under the next id. -/
theorem stepRelationship_clean {s s' : RelationshipStage} {line : Line} :
    ((stepRelationship s line).fault = none ∧ (stepRelationship s line).state = s') ↔
      ∃ read, (readRelationshipLine line).result = .ok read ∧
        s' = s.relate (read.toRelationship s.ids.nextRelationship.1) := by
  have hread := @readRelationship_eq_ok line s.ids.nextRelationship.1
  unfold stepRelationship
  rcases hresult : readRelationship [line] s.ids.nextRelationship.1 with ⟨log, fault | r⟩
  · simp only [reduceCtorEq, false_and, false_iff, not_exists, not_and]
    intro read hline _
    have := (hread (r := read.toRelationship s.ids.nextRelationship.1)).mpr ⟨read, hline, rfl⟩
    simp [hresult] at this
  · obtain ⟨read, hline, rfl⟩ := hread.mp (by rw [hresult])
    simp only [hline, Except.ok.injEq, exists_eq_left', true_and]
    exact eq_comm

/-! ## What the stages do -/

/-- The lines are grouped, the three stages run without a fault from fresh states, and this is the
diagram inferred from what they leave. -/
structure AcceptedAs (ids : IdSource) (lines : List Line) (d : Diagram) (g : Grouping)
    (options : OptionMap) (named : EntityStage) (built : RelationshipStage) : Prop where
  grouped : Grouping.ofLines lines = .ok g
  optionsRun : CleanRun stepOptions (OptionMap.ofNames OptionName.ofDiagram) g.options options
  blocksRun : CleanRun stepBlock ⟨ids, []⟩ g.blocks named
  relationshipsRun :
    CleanRun stepRelationship ⟨named.ids, named.entities, []⟩ g.relationships built
  diagram_eq : d = inferredDiagram options built.entities built.relationships

/-- A reading that rejects the document after a stage with reports, and goes on after a stage without,
leads to a diagram exactly if the stage's run is clean and what follows it leads there. -/
theorem Stage.diagram_iff_cleanRun {σ α : Type} (c : Catalog) (step : σ → α → StageStep σ)
    (stage : Stage σ) {units : List α} {r : DocumentReading} {d : Diagram} {Q : σ → Prop}
    (hempty : stage.reports = [])
    (hhalted : ∀ halt, Stage.through c step stage units = .error halt → r.result ≠ .ok (.ok d))
    (hrejected : ∀ stage', Stage.through c step stage units = .ok stage' → stage'.reports ≠ [] →
      r.result ≠ .ok (.ok d))
    (hnext : ∀ stage', Stage.through c step stage units = .ok stage' → stage'.reports = [] →
      (r.result = .ok (.ok d) ↔ Q stage'.state)) :
    r.result = .ok (.ok d) ↔ ∃ s', CleanRun step stage.state units s' ∧ Q s' := by
  have hrun := @Stage.through_eq_ok_iff_cleanRun _ _ step c units stage
  constructor
  · intro h
    cases hthrough : Stage.through c step stage units with
    | error halt => exact absurd h (hhalted halt hthrough)
    | ok stage' =>
      by_cases hreports : stage'.reports = []
      · have hclean := (hrun hempty).mp ⟨stage', hthrough, hreports, rfl⟩
        exact ⟨stage'.state, hclean, (hnext stage' hthrough hreports).mp h⟩
      · exact absurd h (hrejected stage' hthrough hreports)
  · rintro ⟨s', hclean, hQ⟩
    obtain ⟨stage', hthrough, hreports, rfl⟩ := (hrun hempty).mpr hclean
    exact (hnext stage' hthrough hreports).mpr hQ

theorem readRelationships_eq_diagram_iff {c : Catalog} {log : List Event} {options : OptionMap}
    {before : EntityStage} {lines : List Line} {d : Diagram} :
    (readRelationships c log options before lines).result = .ok (.ok d) ↔
      ∃ built, CleanRun stepRelationship ⟨before.ids, before.entities, []⟩ lines built ∧
        inferredDiagram options built.entities built.relationships = d := by
  refine Stage.diagram_iff_cleanRun c stepRelationship ⟨⟨before.ids, before.entities, []⟩, log, []⟩
    rfl ?_ ?_ ?_
  · intro halt hthrough
    simp [readRelationships, hthrough, DocumentReading.halted]
  · intro stage' hthrough hreports
    simp [readRelationships, hthrough, hreports, DocumentReading.rejected]
  · intro stage' hthrough hreports
    simp [readRelationships, hthrough, hreports]

theorem readEntities_eq_diagram_iff {c : Catalog} {ids : IdSource} {log : List Event}
    {options : OptionMap} {g : Grouping} {d : Diagram} :
    (readEntities c ids log options g).result = .ok (.ok d) ↔
      ∃ named, CleanRun stepBlock ⟨ids, []⟩ g.blocks named ∧
        ∃ built, CleanRun stepRelationship ⟨named.ids, named.entities, []⟩ g.relationships built ∧
          inferredDiagram options built.entities built.relationships = d := by
  refine Stage.diagram_iff_cleanRun c stepBlock ⟨⟨ids, []⟩, log, []⟩ rfl ?_ ?_ ?_
  · intro halt hthrough
    simp [readEntities, hthrough, DocumentReading.halted]
  · intro stage' hthrough hreports
    simp [readEntities, hthrough, hreports, DocumentReading.rejected]
  · intro stage' hthrough hreports
    simp [readEntities, hthrough, hreports, readRelationships_eq_diagram_iff]

theorem readUnits_eq_diagram_iff {c : Catalog} {ids : IdSource} {log : List Event} {g : Grouping}
    {d : Diagram} :
    (readUnits c ids log g).result = .ok (.ok d) ↔
      ∃ options, CleanRun stepOptions (OptionMap.ofNames OptionName.ofDiagram) g.options options ∧
        ∃ named, CleanRun stepBlock ⟨ids, []⟩ g.blocks named ∧
          ∃ built, CleanRun stepRelationship ⟨named.ids, named.entities, []⟩ g.relationships built ∧
            inferredDiagram options built.entities built.relationships = d := by
  refine Stage.diagram_iff_cleanRun c stepOptions ⟨OptionMap.ofNames OptionName.ofDiagram, log, []⟩
    rfl ?_ ?_ ?_
  · intro halt hthrough
    simp [readUnits, hthrough, DocumentReading.halted]
  · intro stage' hthrough hreports
    simp [readUnits, hthrough, hreports, DocumentReading.rejected]
  · intro stage' hthrough hreports
    simp [readUnits, hthrough, hreports, readEntities_eq_diagram_iff]

/-- A document is accepted exactly if it can be grouped and its stages run without a fault. -/
theorem readDocument_eq_diagram_iff {c : Catalog} {ids : IdSource} {lines : List Line}
    {d : Diagram} :
    (readDocument c ids lines).result = .ok (.ok d) ↔
      ∃ g options named built, AcceptedAs ids lines d g options named built := by
  unfold readDocument
  cases hgroup : Grouping.ofLines lines with
  | error fault =>
    constructor
    · intro h
      cases hdescribe : c.describe (.cause fault.cause (some fault.line)) with
      | error cause =>
        simp [hdescribe, DocumentReading.halted] at h
      | ok report =>
        simp [hdescribe, DocumentReading.rejected] at h
    · rintro ⟨g, options, named, built, haccepted⟩
      have := haccepted.grouped
      simp [hgroup] at this
  | ok g =>
    rw [readUnits_eq_diagram_iff]
    constructor
    · rintro ⟨options, hoptions, named, hnamed, built, hbuilt, rfl⟩
      exact ⟨g, options, named, built, hgroup, hoptions, hnamed, hbuilt, rfl⟩
    · rintro ⟨g', options, named, built, hgroup', hoptions, hnamed, hbuilt, rfl⟩
      rw [hgroup, Except.ok.injEq] at hgroup'
      exact ⟨options, hgroup' ▸ hoptions, named, hgroup' ▸ hnamed, built, hgroup' ▸ hbuilt, rfl⟩

/-! ## A document that is accepted -/

/-- Tracks of albums with their lyrics: a declared entity that depends on its key, one that is only
mentioned, and one that a relationship calls dependent. -/
def trackLines : List (Option Text) :=
  [some "{title: Music; title-size: 14}".toList, none,
    some "[Track] {color: red}".toList, some "*id".toList, some "*album* {mark: of}".toList,
    some "[Album] 1--+ [Track] <holds->".toList, some "[Track] 1--? (Lyrics)  # sung".toList]

def trackDiagram : Diagram where
  entities :=
    [{ id := "entity_1".toList, name := "Track".toList, dependency := .dependent
       attributes :=
        [{ name := "id".toList, isPrimaryKey := true },
         { name := "album".toList, isPrimaryKey := true, isForeignKey := true
           options := ⟨[(.mark, .text "of".toList)]⟩ }]
       options := ⟨[(.color, .color .red), (.mark, .text [])]⟩ },
     { id := "entity_2".toList, name := "Album".toList },
     { id := "entity_3".toList, name := "Lyrics".toList, dependency := .dependent }]
  relationships :=
    [{ id := "relationship_1".toList
       first := ⟨"Album".toList, .independent⟩
       second := ⟨"Track".toList, .dependent⟩
       cardinality := ⟨⟨.one, .mandatory⟩, ⟨.many, .mandatory⟩⟩
       verb := ⟨"holds".toList, .firstToSecond⟩ },
     { id := "relationship_2".toList
       first := ⟨"Track".toList, .independent⟩
       second := ⟨"Lyrics".toList, .dependent⟩
       cardinality := ⟨⟨.one, .mandatory⟩, ⟨.one, .optional⟩⟩ }]
  options := ⟨[(.title, .text "Music".toList), (.titleSize, .whole 14), (.linkFiles, .text [])]⟩

theorem readLines_trackLines :
    (readLines Catalog.english {} trackLines).result = .ok (.ok trackDiagram) := by
  decide +kernel

end ErDiagram

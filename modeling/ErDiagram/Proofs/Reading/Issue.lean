import ErDiagram.Proofs.Reading.ReportedRun
import ErDiagram.Proofs.Reading.Run
import ErDiagram.Proofs.Reading.Staged

set_option autoImplicit false

/-!
# The ids that reading hands out

Reading a document only ever takes ids from its source: behind it, however it ends, at least as many ids of
each word have been handed out as in front.  Blocks of a taken name and documents that are rejected take ids
as well.  If the document is accepted, its entities and its relationships carry the next numbers, in order.
-/

namespace ErDiagram

open Stage (CleanRun)
open IdSource (Numbered entityWord relationshipWord)

variable {c : Catalog} {ids : IdSource} {lines : List Line} {d : Diagram}

/-! ## Counters only grow -/

theorem IdSource.issued_le_next (s : IdSource) (word other : Text) :
    s.issued other ≤ (s.next word).2.issued other := by
  rw [issued_next]
  split
  · rename_i heq
    exact heq ▸ Nat.le_succ _
  · exact Nat.le_refl _

theorem issued_le_stepBlock (s : EntityStage) (b : Block) (word : Text) :
    s.ids.issued word ≤ (stepBlock s b).state.ids.issued word := by
  cases h : (b.read []).result with
  | error fault => rw [(stepBlock_of_error h).1]
  | ok e =>
    rw [(stepBlock_of_ok h).1]
    exact s.ids.issued_le_next entityWord word

theorem RelationshipStage.issued_le_mention (s : RelationshipStage) (name word : Text) :
    s.ids.issued word ≤ (s.mention name).1.ids.issued word := by
  unfold mention
  split
  · exact Nat.le_refl _
  · exact s.ids.issued_le_next entityWord word

theorem RelationshipStage.issued_le_relate (s : RelationshipStage) (r : Relationship) (word : Text) :
    s.ids.issued word ≤ (s.relate r).ids.issued word :=
  calc s.ids.issued word
      ≤ (s.add r).ids.issued word := s.ids.issued_le_next relationshipWord word
    _ ≤ ((s.add r).mention r.first.name).1.ids.issued word := issued_le_mention _ _ _
    _ ≤ (s.relate r).ids.issued word := issued_le_mention _ _ _

theorem issued_le_stepRelationship (s : RelationshipStage) (line : Line) (word : Text) :
    s.ids.issued word ≤ (stepRelationship s line).state.ids.issued word := by
  cases h : (readRelationshipLine line).result with
  | error fault => rw [(stepRelationship_of_error h).1]
  | ok read =>
    rw [(stepRelationship_of_ok h).1]
    exact s.issued_le_relate _ word

/-- What every step keeps holds behind a stage, also where it halts. -/
theorem Stage.invariant_through {σ α : Type} {step : σ → α → StageStep σ} {P : σ → Prop}
    (hstep : ∀ s unit, P s → P (step s unit).state) {units : List α} : ∀ {stage : Stage σ},
      P stage.state → (∀ stage', through c step stage units = .ok stage' → P stage'.state) ∧
        ∀ halt, through c step stage units = .error halt → P halt.state := by
  induction units with
  | nil =>
    intro stage h
    refine ⟨fun stage' hthrough => ?_, fun halt hthrough => ?_⟩
    · cases hthrough
      exact h
    · cases hthrough
  | cons unit rest ih =>
    intro stage h
    have hkept := hstep stage.state unit h
    rcases through_cases c step stage unit rest with
      ⟨-, hnext⟩ | ⟨fault, r, -, -, hnext⟩ | ⟨fault, cause, -, -, hnext⟩
    · rw [hnext]
      exact ih hkept
    · rw [hnext]
      exact ih hkept
    · rw [hnext]
      refine ⟨fun stage' hthrough => ?_, fun halt hthrough => ?_⟩
      · cases hthrough
      · cases hthrough
        exact hkept

/-! ## Documents -/

/-- A reading only takes ids from its source.  If it leads to a diagram, the ids of the diagram carry the
next numbers, in order, and none are handed out behind them. -/
structure Issues (ids : IdSource) (r : DocumentReading) : Prop where
  issued_le : ∀ word, ids.issued word ≤ r.ids.issued word
  entities : ∀ d, r.result = .ok (.ok d) →
    Numbered entityWord (ids.issued entityWord) r.ids (d.entities.map (·.id))
  relationships : ∀ d, r.result = .ok (.ok d) →
    Numbered relationshipWord (ids.issued relationshipWord) r.ids (d.relationships.map (·.id))

/-- Without a diagram, it is enough that ids are only taken. -/
theorem issues_halted {ids' : IdSource} (h : ∀ word, ids.issued word ≤ ids'.issued word)
    (log : List Event) (cause : Halt) : Issues ids (.halted ids' log cause) :=
  ⟨h, fun d hd => (by cases hd), fun d hd => (by cases hd)⟩

theorem issues_rejected {ids' : IdSource} (h : ∀ word, ids.issued word ≤ ids'.issued word)
    (log : List Event) (reports : List Report) : Issues ids (.rejected ids' log reports) :=
  ⟨h, fun d hd => (by cases hd), fun d hd => (by cases hd)⟩

section Stages

variable {log : List Event} {options : OptionMap} {g : Grouping}

theorem issues_readRelationships {before : EntityStage} {blocks : List Block}
    (hbefore : ∀ word, ids.issued word ≤ before.ids.issued word) (hnamed : NamedFrom ids blocks before) :
    Issues ids (readRelationships c log options before lines) := by
  obtain ⟨hpassed, hhalted⟩ := @Stage.invariant_through c _ _ stepRelationship
    (fun s => ∀ word, ids.issued word ≤ s.ids.issued word)
    (fun s line hs word => (hs word).trans (issued_le_stepRelationship s line word)) lines
    ⟨⟨before.ids, before.entities, []⟩, log, []⟩ hbefore
  unfold readRelationships
  split
  · rename_i halt hthrough
    exact issues_halted (hhalted halt hthrough) _ _
  · rename_i stage hthrough
    split
    · rename_i hnone
      have hrun := Stage.cleanRun_of_through hthrough rfl (List.isEmpty_iff.mp hnone)
      have hbuilt := builtFrom_of_cleanRun hnamed.nodup hnamed.numbered hrun
      refine ⟨hpassed stage hthrough, fun d hd => ?_, fun d hd => ?_⟩
      · obtain rfl := Except.ok.inj (Except.ok.inj hd)
        rw [inferredDiagram, propagate_map_id]
        exact hbuilt.mentioned.numbered
      · obtain rfl := Except.ok.inj (Except.ok.inj hd)
        rw [inferredDiagram, align_map_id, ← hnamed.others]
        exact hbuilt.numbered
    · exact issues_rejected (hpassed stage hthrough) _ _

theorem issues_readEntities : Issues ids (readEntities c ids log options g) := by
  obtain ⟨hpassed, hhalted⟩ := @Stage.invariant_through c _ _ stepBlock
    (fun s => ∀ word, ids.issued word ≤ s.ids.issued word)
    (fun s b hs word => (hs word).trans (issued_le_stepBlock s b word)) g.blocks
    ⟨⟨ids, []⟩, log, []⟩ fun _ => Nat.le_refl _
  unfold readEntities
  split
  · rename_i halt hthrough
    exact issues_halted (hhalted halt hthrough) _ _
  · rename_i stage hthrough
    split
    · rename_i hnone
      have hrun := Stage.cleanRun_of_through hthrough rfl (List.isEmpty_iff.mp hnone)
      exact issues_readRelationships (hpassed stage hthrough) (namedFrom_of_cleanRun hrun)
    · exact issues_rejected (hpassed stage hthrough) _ _

theorem issues_readUnits : Issues ids (readUnits c ids log g) := by
  unfold readUnits
  split
  · exact issues_halted (fun _ => Nat.le_refl _) _ _
  · split
    · exact issues_readEntities
    · exact issues_rejected (fun _ => Nat.le_refl _) _ _

end Stages

/-- However a document is read, ids are only taken from the source; and those of a diagram carry the next
numbers. -/
theorem issues_readDocument (c : Catalog) (ids : IdSource) (lines : List Line) :
    Issues ids (readDocument c ids lines) := by
  unfold readDocument
  split
  · split
    · exact issues_halted (fun _ => Nat.le_refl _) _ _
    · exact issues_rejected (fun _ => Nat.le_refl _) _ _
  · exact issues_readUnits

end ErDiagram

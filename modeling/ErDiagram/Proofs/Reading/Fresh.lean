import ErDiagram.Proofs.Diagram.Order
import ErDiagram.Proofs.Reading.Issue
import ErDiagram.Proofs.Reading.Judge

set_option autoImplicit false

/-!
# Reading does not look at ids

Ids are only put on what is read.  Two stages that hold the same apart from ids meet the same fault at a
unit, and hold the same apart from ids behind it; inference does not look at ids either.  So whatever ids a
source has handed out before, a document has the same reports, or the same diagram apart from ids.
-/

namespace ErDiagram

/-- The diagram under no ids. -/
def Diagram.withoutIds (d : Diagram) : Diagram :=
  ⟨d.entities.map Entity.withoutId, d.relationships.map Relationship.withoutId, d.options⟩

/-- What reading a document leads to, under no ids. -/
def outcomeWithoutIds (x : Except Halt (Except (List Report) Diagram)) :
    Except Halt (Except (List Report) Diagram) :=
  x.map fun outcome => outcome.map Diagram.withoutIds

/-! ## Stages whose states agree -/

section Stage

variable {σ α γ δ : Type} {step : σ → α → StageStep σ} {R : σ → σ → Prop}
  (hstep : ∀ s s' unit, R s s' →
    (step s unit).fault = (step s' unit).fault ∧ R (step s unit).state (step s' unit).state)
include hstep

/-- If steps from states that agree meet the same fault and lead to states that agree, so do all units. -/
theorem Stage.faultsFrom_eq (units : List α) : ∀ {s s' : σ}, R s s' →
    faultsFrom step s units = faultsFrom step s' units ∧
      R (behind step s units) (behind step s' units) := by
  induction units with
  | nil => exact fun h => ⟨rfl, h⟩
  | cons unit rest ih =>
    intro s s' h
    obtain ⟨hfault, hstate⟩ := hstep s s' unit h
    obtain ⟨hfaults, hbehind⟩ := ih hstate
    rw [faultsFrom, faultsFrom, behind, behind, hfault, hfaults]
    exact ⟨rfl, hbehind⟩

theorem Stage.judge_map_eq (units : List α) {f : γ → δ} {s s' : σ}
    {next next' : σ → Except (List ReadFault) γ} (h : R s s')
    (hnext : ∀ t t', R t t' → (next t).map f = (next' t').map f) :
    (judge step s units next).map f = (judge step s' units next').map f := by
  obtain ⟨hfaults, hbehind⟩ := Stage.faultsFrom_eq hstep units h
  unfold judge
  rw [hfaults]
  split
  · exact hnext _ _ hbehind
  · rfl

end Stage

/-! ## Stages apart from ids -/

/-- The stages have the same entities apart from ids. -/
def EntityStage.SameButIds (s s' : EntityStage) : Prop :=
  s.entities.map Entity.withoutId = s'.entities.map Entity.withoutId

/-- The stages have the same entities and relationships apart from ids. -/
structure RelationshipStage.SameButIds (s s' : RelationshipStage) : Prop where
  entities : s.entities.map Entity.withoutId = s'.entities.map Entity.withoutId
  relationships : s.relationships.map Relationship.withoutId = s'.relationships.map Relationship.withoutId

theorem hasEntity_withoutId (entities : List Entity) (name : Text) :
    hasEntity (entities.map Entity.withoutId) name = hasEntity entities name := by
  rw [hasEntity, List.any_map]
  rfl

theorem hasEntity_eq_of_withoutId {entities entities' : List Entity}
    (h : entities.map Entity.withoutId = entities'.map Entity.withoutId) (name : Text) :
    hasEntity entities name = hasEntity entities' name := by
  rw [← hasEntity_withoutId, h, hasEntity_withoutId]

theorem EntityStage.SameButIds.step {s s' : EntityStage} (h : s.SameButIds s') (b : Block) :
    (stepBlock s b).fault = (stepBlock s' b).fault ∧
      (stepBlock s b).state.SameButIds (stepBlock s' b).state := by
  cases hread : (b.read []).result with
  | error fault =>
    obtain ⟨hstate, hfault⟩ := stepBlock_of_error (s := s) hread
    obtain ⟨hstate', hfault'⟩ := stepBlock_of_error (s := s') hread
    rw [hstate, hstate', hfault, hfault']
    exact ⟨rfl, h⟩
  | ok e =>
    obtain ⟨hstate, hfault⟩ := stepBlock_of_ok (s := s) hread
    obtain ⟨hstate', hfault'⟩ := stepBlock_of_ok (s := s') hread
    rw [hstate, hstate', hfault, hfault', hasEntity_eq_of_withoutId h]
    refine ⟨rfl, ?_⟩
    unfold SameButIds
    split
    · exact h
    · rw [List.map_append, List.map_append, show s.entities.map _ = _ from h]
      rfl

theorem RelationshipStage.SameButIds.mention {s s' : RelationshipStage} (h : s.SameButIds s')
    (name : Text) : (s.mention name).1.SameButIds (s'.mention name).1 := by
  unfold RelationshipStage.mention
  rw [hasEntity_eq_of_withoutId h.entities]
  split
  · exact h
  · refine ⟨?_, h.relationships⟩
    dsimp only
    rw [List.map_append, List.map_append, h.entities]
    rfl

theorem RelationshipStage.SameButIds.add {s s' : RelationshipStage} (h : s.SameButIds s')
    {r r' : Relationship} (hr : r.withoutId = r'.withoutId) : (s.add r).SameButIds (s'.add r') := by
  refine ⟨h.entities, ?_⟩
  rw [RelationshipStage.add, RelationshipStage.add, List.map_append, List.map_append,
    h.relationships, List.map_singleton, List.map_singleton, hr]

theorem RelationshipStage.SameButIds.step {s s' : RelationshipStage} (h : s.SameButIds s')
    (line : Line) :
    (stepRelationship s line).fault = (stepRelationship s' line).fault ∧
      (stepRelationship s line).state.SameButIds (stepRelationship s' line).state := by
  cases hread : (readRelationshipLine line).result with
  | error fault =>
    obtain ⟨hstate, hfault⟩ := stepRelationship_of_error (s := s) hread
    obtain ⟨hstate', hfault'⟩ := stepRelationship_of_error (s := s') hread
    rw [hstate, hstate', hfault, hfault']
    exact ⟨rfl, h⟩
  | ok read =>
    obtain ⟨hstate, hfault⟩ := stepRelationship_of_ok (s := s) hread
    obtain ⟨hstate', hfault'⟩ := stepRelationship_of_ok (s := s') hread
    rw [hstate, hstate', hfault, hfault']
    have hadded := h.add (show (read.toRelationship s.ids.nextRelationship.1).withoutId =
      (read.toRelationship s'.ids.nextRelationship.1).withoutId from rfl)
    exact ⟨rfl, (hadded.mention _).mention _⟩

/-! ## Documents apart from ids -/

theorem inferredDiagram_withoutIds (options : OptionMap) (entities : List Entity)
    (relationships : List Relationship) :
    (inferredDiagram options entities relationships).withoutIds =
      inferredDiagram options (entities.map Entity.withoutId)
        (relationships.map Relationship.withoutId) := by
  rw [inferredDiagram, inferredDiagram, Diagram.withoutIds, ← propagate_withoutId, ← align_withoutId]

/-- Whatever the source of ids is, a document is found to be the same apart from ids. -/
theorem judgeDocument_withoutIds (ids ids' : IdSource) (lines : List Line) :
    (judgeDocument ids lines).map Diagram.withoutIds =
      (judgeDocument ids' lines).map Diagram.withoutIds := by
  unfold judgeDocument
  split
  · rfl
  · rename_i g _
    refine Stage.judge_map_eq (R := Eq) (fun m _ line h => h ▸ ⟨rfl, rfl⟩) _ rfl ?_
    rintro options _ rfl
    refine Stage.judge_map_eq (R := EntityStage.SameButIds) (fun s s' b h => h.step b) _ rfl ?_
    intro named named' hnamed
    refine Stage.judge_map_eq (R := RelationshipStage.SameButIds) (fun s s' line h => h.step line) _
      ⟨hnamed, rfl⟩ fun built built' hbuilt => congrArg Except.ok ?_
    rw [inferredDiagram_withoutIds, inferredDiagram_withoutIds, hbuilt.entities, hbuilt.relationships]

theorem Catalog.outcomeWithoutIds_worded (c : Catalog) (x : Except (List ReadFault) Diagram) :
    outcomeWithoutIds (c.worded x) = c.worded (x.map Diagram.withoutIds) := by
  cases x with
  | ok d => rfl
  | error faults =>
    change outcomeWithoutIds ((faults.mapM c.describe).map .error) = (faults.mapM c.describe).map .error
    cases faults.mapM c.describe <;> rfl

/-- A document has the same reports, or the same diagram apart from ids, whatever the source of ids is. -/
theorem readDocument_withoutIds (c : Catalog) (ids ids' : IdSource) (lines : List Line) :
    outcomeWithoutIds (readDocument c ids lines).result =
      outcomeWithoutIds (readDocument c ids' lines).result := by
  rw [readDocument_eq_worded, readDocument_eq_worded, c.outcomeWithoutIds_worded,
    c.outcomeWithoutIds_worded, judgeDocument_withoutIds ids ids' lines]

end ErDiagram

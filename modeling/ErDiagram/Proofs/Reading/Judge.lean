import ErDiagram.Proofs.Collection
import ErDiagram.Proofs.Reading.Document

set_option autoImplicit false

/-!
# What a document is found to be

Without any words, a document is found to have a diagram, or to have the faults of its first stage that
meets any.  A catalog then words these faults one after the other, and reading ends without an answer at
the first one that cannot be worded.  The catalog has no other part in reading.
-/

namespace ErDiagram

/-! ## Stages -/

namespace Stage

variable {σ α : Type} (step : σ → α → StageStep σ)

/-- The faults that a stage meets on its way past units, none of which stops it. -/
def faultsFrom : σ → List α → List ReadFault
  | _, [] => []
  | s, unit :: rest =>
    match (step s unit).fault with
    | none => faultsFrom (step s unit).state rest
    | some fault => fault :: faultsFrom (step s unit).state rest

/-- The state of a stage behind units. -/
def behind : σ → List α → σ
  | s, [] => s
  | s, unit :: rest => behind (step s unit).state rest

/-- What follows a stage that meets no fault, or the faults that it meets. -/
def judge {β : Type} (s : σ) (units : List α) (next : σ → Except (List ReadFault) β) :
    Except (List ReadFault) β :=
  match faultsFrom step s units with
  | [] => next (behind step s units)
  | faults => .error faults

variable {step} {c : Catalog}

/-- A clean run meets no fault. -/
theorem cleanRun_iff {units : List α} : ∀ {s s' : σ},
    CleanRun step s units s' ↔ faultsFrom step s units = [] ∧ behind step s units = s' := by
  induction units with
  | nil =>
    intro s s'
    constructor
    · intro h
      cases h
      exact ⟨rfl, rfl⟩
    · intro h
      exact h.2 ▸ .nil s
  | cons unit rest ih =>
    intro s s'
    rw [faultsFrom, behind]
    constructor
    · intro h
      cases h with
      | cons hfault hrest =>
        rw [hfault]
        exact ih.mp hrest
    · intro h
      cases hfault : (step s unit).fault with
      | none =>
        rw [hfault] at h
        exact .cons hfault (ih.mpr h)
      | some fault =>
        rw [hfault] at h
        cases h.1

/-- A stage words the faults that it meets, and halts at the first one that cannot be worded. -/
theorem through_eq_mapM {units : List α} : ∀ {stage : Stage σ},
    (∃ log reports, (faultsFrom step stage.state units).mapM c.describe = .ok reports ∧
        through c step stage units =
          .ok ⟨behind step stage.state units, log, stage.reports ++ reports⟩) ∨
      ∃ halt, (faultsFrom step stage.state units).mapM c.describe = .error halt.cause ∧
        through c step stage units = .error halt := by
  induction units with
  | nil =>
    intro stage
    exact .inl ⟨stage.log, [], rfl, by rw [List.append_nil]; rfl⟩
  | cons unit rest ih =>
    intro stage
    rw [faultsFrom, behind]
    rcases through_cases c step stage unit rest with
      ⟨hfault, hnext⟩ | ⟨fault, r, hfault, hreport, hnext⟩ | ⟨fault, cause, hfault, hcause, hnext⟩
    · rw [hfault, hnext]
      exact @ih (stage.past (step stage.state unit) stage.reports)
    · rw [hfault, hnext]
      simp only [List.mapM_cons, hreport]
      rcases @ih (stage.past (step stage.state unit) (stage.reports ++ [r])) with
        ⟨log, reports, hmap, hthrough⟩ | ⟨halt, hmap, hthrough⟩
      · dsimp only [past] at hmap hthrough
        refine .inl ⟨log, r :: reports, by rw [hmap]; rfl, hthrough.trans ?_⟩
        rw [List.append_assoc]
        rfl
      · dsimp only [past] at hmap hthrough
        exact .inr ⟨halt, by rw [hmap]; rfl, hthrough⟩
    · rw [hfault, hnext]
      simp only [List.mapM_cons, hcause]
      exact .inr ⟨⟨_, _, cause⟩, rfl, rfl⟩

end Stage

/-! ## Documents -/

/-- The diagram of a document, or the faults of the first stage that meets any. -/
def judgeDocument (ids : IdSource) (lines : List Line) : Except (List ReadFault) Diagram :=
  match Grouping.ofLines lines with
  | .error fault => .error [.cause fault.cause (some fault.line)]
  | .ok g =>
    Stage.judge stepOptions (OptionMap.ofNames OptionName.ofDiagram) g.options fun options =>
      Stage.judge stepBlock ⟨ids, []⟩ g.blocks fun named =>
        Stage.judge stepRelationship ⟨named.ids, named.entities, []⟩ g.relationships fun built =>
          .ok (inferredDiagram options built.entities built.relationships)

/-- What a document is found to be, in the words of a catalog. -/
def Catalog.worded (c : Catalog) :
    Except (List ReadFault) Diagram → Except Halt (Except (List Report) Diagram)
  | .ok d => .ok (.ok d)
  | .error faults => (faults.mapM c.describe).map .error

/-- A reading that ends with the reports of a stage, if there are any, and goes on behind it otherwise,
words what the stage and what follows it are found to be. -/
theorem Stage.worded_judge {σ α : Type} {c : Catalog} {step : σ → α → StageStep σ} {s : σ}
    {units : List α} {r : DocumentReading} {next : σ → Except (List ReadFault) Diagram}
    (log : List Event)
    (hhalted : ∀ halt, Stage.through c step ⟨s, log, []⟩ units = .error halt →
      r.result = .error halt.cause)
    (hrejected : ∀ stage, Stage.through c step ⟨s, log, []⟩ units = .ok stage →
      stage.reports.isEmpty = false → r.result = .ok (.error stage.reports))
    (hnext : ∀ stage, Stage.through c step ⟨s, log, []⟩ units = .ok stage →
      stage.reports.isEmpty = true → r.result = c.worded (next stage.state)) :
    r.result = c.worded (judge step s units next) := by
  rcases @Stage.through_eq_mapM σ α step c units ⟨s, log, []⟩ with
    ⟨log', reports, hmap, hthrough⟩ | ⟨halt, hmap, hthrough⟩
  · dsimp only [List.nil_append] at hmap hthrough
    have hempty := (isEmpty_eq_of_forall₂ (forall₂_of_mapM hmap)).symm
    unfold judge
    split
    · rename_i hfaults
      rw [hfaults] at hempty
      exact hnext _ hthrough hempty
    · rename_i hfaults
      rw [Catalog.worded, hmap]
      refine hrejected _ hthrough (hempty.trans ?_)
      exact List.isEmpty_eq_false_iff.mpr hfaults
  · dsimp only at hmap
    rw [hhalted halt hthrough]
    unfold judge
    split
    · rename_i hfaults
      rw [hfaults] at hmap
      cases hmap
    · rw [Catalog.worded, hmap]
      rfl

/-- Whatever the catalog is, reading words what the document is found to be. -/
theorem readDocument_eq_worded (c : Catalog) (ids : IdSource) (lines : List Line) :
    (readDocument c ids lines).result = c.worded (judgeDocument ids lines) := by
  unfold readDocument judgeDocument
  cases Grouping.ofLines lines with
  | error fault =>
    dsimp only [Catalog.worded]
    rw [List.mapM_cons]
    cases c.describe (.cause fault.cause (some fault.line)) <;> rfl
  | ok g =>
    refine Stage.worded_judge [g.event] (fun halt h => ?_) (fun stage h hreports => ?_)
      fun options h hreports => ?_
    · simp [readUnits, h, DocumentReading.halted]
    · simp [readUnits, h, hreports, DocumentReading.rejected]
    · simp only [readUnits, h, hreports, if_true]
      refine Stage.worded_judge options.log (fun halt h => ?_) (fun stage h hreports => ?_)
        fun named h hreports => ?_
      · simp [readEntities, h, DocumentReading.halted]
      · simp [readEntities, h, hreports, DocumentReading.rejected]
      · simp only [readEntities, h, hreports, if_true]
        refine Stage.worded_judge named.log (fun halt h => ?_) (fun stage h hreports => ?_)
          fun built h hreports => ?_
        · simp [readRelationships, h, DocumentReading.halted]
        · simp [readRelationships, h, hreports, DocumentReading.rejected]
        · simp [readRelationships, h, hreports, Catalog.worded]

end ErDiagram

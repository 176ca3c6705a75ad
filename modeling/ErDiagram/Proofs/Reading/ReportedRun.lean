import ErDiagram.Proofs.Reading.Document

set_option autoImplicit false

/-!
# Stages with their errors

A stage goes past all of its units, whatever is wrong with them, and adds the report of each fault
behind those that it has.  A run of a stage is a relation between the state in front, the units, the
reports and the state behind.  A document is rejected with the report of the first line that does not
fit, or with all the reports of the first stage that has any.
-/

namespace ErDiagram

namespace Stage

variable {σ α : Type} {c : Catalog} {step : σ → α → StageStep σ}

/-- A stage goes from one state to another past units and reports the faults that it meets. -/
inductive Run (c : Catalog) (step : σ → α → StageStep σ) : σ → List α → List Report → σ → Prop where
  | nil (s : σ) : Run c step s [] [] s
  | pass {s s' : σ} {unit : α} {rest : List α} {reports : List Report}
      (hfault : (step s unit).fault = none) (hrest : Run c step (step s unit).state rest reports s') :
      Run c step s (unit :: rest) reports s'
  | report {s s' : σ} {unit : α} {rest : List α} {reports : List Report} {fault : ReadFault}
      {r : Report} (hfault : (step s unit).fault = some fault) (hreport : c.describe fault = .ok r)
      (hrest : Run c step (step s unit).state rest reports s') :
      Run c step s (unit :: rest) (r :: reports) s'

/-- A clean run is a run without reports. -/
theorem CleanRun.run {s s' : σ} {units : List α} (h : CleanRun step s units s') :
    Run c step s units [] s' := by
  induction h with
  | nil s => exact .nil s
  | cons hfault _ ih => exact .pass hfault ih

/-- What a stage that does not halt adds to its reports are those of its run. -/
theorem run_of_through {units : List α} :
    ∀ {stage stage' : Stage σ}, through c step stage units = .ok stage' →
      ∃ reports, Run c step stage.state units reports stage'.state ∧
        stage'.reports = stage.reports ++ reports := by
  induction units with
  | nil =>
    intro stage stage' h
    cases h
    exact ⟨[], .nil _, (List.append_nil _).symm⟩
  | cons unit rest ih =>
    intro stage stage' h
    rcases through_cases c step stage unit rest with
      ⟨hfault, hnext⟩ | ⟨fault, r, hfault, hreport, hnext⟩ | ⟨fault, cause, -, -, hnext⟩
    · rw [hnext] at h
      obtain ⟨reports, hrun, hreports⟩ := ih h
      exact ⟨reports, .pass hfault hrun, hreports⟩
    · rw [hnext] at h
      obtain ⟨reports, hrun, hreports⟩ := ih h
      exact ⟨r :: reports, .report hfault hreport hrun,
        hreports.trans (List.append_assoc stage.reports [r] reports)⟩
    · rw [hnext] at h
      cases h

/-- A stage halts at no unit if, as long as a property of its state is kept, each fault that it meets
can be worded. -/
theorem through_eq_ok {P : σ → Prop} {units : List α}
    (hstep : ∀ s, P s → ∀ unit ∈ units, P (step s unit).state ∧
      ∀ fault, (step s unit).fault = some fault → ∃ r, c.describe fault = .ok r) :
    ∀ {stage : Stage σ}, P stage.state → ∃ stage', through c step stage units = .ok stage' := by
  induction units with
  | nil =>
    intro stage _
    exact ⟨stage, rfl⟩
  | cons unit rest ih =>
    intro stage hstage
    have hrest := @ih fun s hs u hu => hstep s hs u (List.mem_cons_of_mem _ hu)
    obtain ⟨hkept, hworded⟩ := hstep stage.state hstage unit List.mem_cons_self
    rcases through_cases c step stage unit rest with
      ⟨-, hnext⟩ | ⟨fault, r, -, -, hnext⟩ | ⟨fault, cause, hfault, hcause, -⟩
    · rw [hnext]
      exact hrest hkept
    · rw [hnext]
      exact hrest hkept
    · obtain ⟨r, hr⟩ := hworded fault hfault
      rw [hcause] at hr
      cases hr

/-- Every report of a run words a fault of one of its units, met in a state that has a property which
the run keeps. -/
theorem Run.exists_fault {P : σ → Prop} {s s' : σ} {units : List α} {reports : List Report}
    (hrun : Run c step s units reports s') (hinit : P s)
    (hstep : ∀ s, P s → ∀ unit ∈ units, P (step s unit).state) :
    ∀ r ∈ reports, ∃ s, P s ∧ ∃ unit ∈ units, ∃ fault, (step s unit).fault = some fault ∧
      c.describe fault = .ok r := by
  induction hrun with
  | nil => simp
  | @pass s s' unit rest reports hfault _ ih =>
    intro r hr
    obtain ⟨t, ht, u, hu, hu'⟩ := ih (hstep s hinit unit List.mem_cons_self)
      (fun s hs u hu => hstep s hs u (List.mem_cons_of_mem _ hu)) r hr
    exact ⟨t, ht, u, List.mem_cons_of_mem _ hu, hu'⟩
  | @report s s' unit rest reports fault r hfault hreport _ ih =>
    intro q hq
    rcases List.mem_cons.mp hq with rfl | hq
    · exact ⟨s, hinit, unit, List.mem_cons_self, fault, hfault, hreport⟩
    · obtain ⟨t, ht, u, hu, hu'⟩ := ih (hstep s hinit unit List.mem_cons_self)
        (fun s hs u hu => hstep s hs u (List.mem_cons_of_mem _ hu)) q hq
      exact ⟨t, ht, u, List.mem_cons_of_mem _ hu, hu'⟩

end Stage

open Stage (CleanRun Run)

/-! ## The faults of units -/

theorem stepOptions_fault_iff {m : OptionMap} {line : Line} {fault : ReadFault} :
    (stepOptions m line).fault = some fault ↔ (readGlobalOptions m line).result = .error fault := by
  unfold stepOptions
  rcases readGlobalOptions m line with ⟨log, first | read⟩
  · simp
  · simp

/-- Under whatever id a block is read, it is read as the same entity. -/
theorem Block.read_result (b : Block) (id : Text) :
    (b.read id).result = (b.read []).result.map fun e => { e with id := id } := by
  simp only [Block.read, Reading.bind_result]
  cases (readAttributes [] b.attributes).result with
  | error fault => rfl
  | ok attributes => cases (readEntityLine b.head).result <;> rfl

/-- A block that cannot be read changes nothing. -/
theorem stepBlock_of_error {s : EntityStage} {b : Block} {fault : ReadFault}
    (h : (b.read []).result = .error fault) :
    (stepBlock s b).state = s ∧ (stepBlock s b).fault = some fault := by
  have hread := b.read_result s.ids.nextEntity.1
  rw [h] at hread
  unfold stepBlock
  rcases hresult : b.read s.ids.nextEntity.1 with ⟨log, first | e⟩
  · rw [hresult] at hread
    exact ⟨rfl, congrArg some (Except.error.inj hread)⟩
  · rw [hresult] at hread
    cases hread

/-- A block that is read takes an id, and its entity is put behind the others if its name is new. -/
theorem stepBlock_of_ok {s : EntityStage} {b : Block} {e : Entity} (h : (b.read []).result = .ok e) :
    (stepBlock s b).state = ⟨s.ids.nextEntity.2, if hasEntity s.entities e.name = true then s.entities
        else s.entities ++ [{ e with id := s.ids.nextEntity.1 }]⟩ ∧
      (stepBlock s b).fault = if hasEntity s.entities e.name = true then
        some (.cause (.duplicateEntityName e.name) (some b.head)) else none := by
  have hread := b.read_result s.ids.nextEntity.1
  rw [h] at hread
  unfold stepBlock
  rcases hresult : b.read s.ids.nextEntity.1 with ⟨log, first | other⟩
  · rw [hresult] at hread
    cases hread
  · rw [hresult] at hread
    obtain rfl := Except.ok.inj hread
    by_cases hname : hasEntity s.entities e.name = true
    · simp only [hname, if_true, and_self]
    · simp only [hname, Bool.false_eq_true, if_false, and_self]

/-- An entity block is wrong if it cannot be read, or if it is read under a name that is taken. -/
theorem stepBlock_fault_iff {s : EntityStage} {b : Block} {fault : ReadFault} :
    (stepBlock s b).fault = some fault ↔
      (b.read s.ids.nextEntity.1).result = .error fault ∨
        ∃ e, (b.read s.ids.nextEntity.1).result = .ok e ∧ e.name ∈ s.entities.map (·.name) ∧
          fault = .cause (.duplicateEntityName e.name) (some b.head) := by
  rw [b.read_result]
  cases hresult : (b.read []).result with
  | error first => simp [(stepBlock_of_error hresult).2, Except.map]
  | ok e =>
    rw [(stepBlock_of_ok hresult).2]
    simp only [Except.map, reduceCtorEq, false_or, Except.ok.injEq, exists_eq_left', ← hasEntity_iff]
    by_cases hname : hasEntity s.entities e.name = true
    · simp [hname, eq_comm]
    · simp [hname]

/-- Under whatever id a line is read, it is read as the same relationship. -/
theorem readRelationship_result (line : Line) (id : Text) :
    (readRelationship [line] id).result =
      (readRelationshipLine line).result.map fun read => read.toRelationship id := by
  rw [readRelationship, Reading.bind_result]
  cases (readRelationshipLine line).result <;> rfl

/-- A relationship line that cannot be read changes nothing. -/
theorem stepRelationship_of_error {s : RelationshipStage} {line : Line} {fault : ReadFault}
    (h : (readRelationshipLine line).result = .error fault) :
    (stepRelationship s line).state = s ∧ (stepRelationship s line).fault = some fault := by
  have hread := readRelationship_result line s.ids.nextRelationship.1
  rw [h] at hread
  unfold stepRelationship
  rcases hresult : readRelationship [line] s.ids.nextRelationship.1 with ⟨log, first | r⟩
  · rw [hresult] at hread
    exact ⟨rfl, congrArg some (Except.error.inj hread)⟩
  · rw [hresult] at hread
    cases hread

theorem stepRelationship_of_ok {s : RelationshipStage} {line : Line} {read : RelationshipLine}
    (h : (readRelationshipLine line).result = .ok read) :
    (stepRelationship s line).state = s.relate (read.toRelationship s.ids.nextRelationship.1) ∧
      (stepRelationship s line).fault = none :=
  (stepRelationship_clean.mpr ⟨read, h, rfl⟩).symm

theorem stepRelationship_fault_iff {s : RelationshipStage} {line : Line} {fault : ReadFault} :
    (stepRelationship s line).fault = some fault ↔
      (readRelationshipLine line).result = .error fault := by
  cases hresult : (readRelationshipLine line).result with
  | error first => simp [(stepRelationship_of_error hresult).2]
  | ok read => simp [(stepRelationship_of_ok hresult).2]

/-! ## Rejected documents -/

/-- Where a document is rejected, and with which reports. -/
inductive RejectedAs (c : Catalog) (ids : IdSource) (lines : List Line) : List Report → Prop where
  /-- the lines cannot be grouped -/
  | grouping {fault : GroupingFault} {r : Report} (hgroup : Grouping.ofLines lines = .error fault)
      (hreport : c.describe (.cause fault.cause (some fault.line)) = .ok r) :
      RejectedAs c ids lines [r]
  /-- a line of global options is wrong -/
  | options {g : Grouping} {reports : List Report} {options : OptionMap}
      (hgroup : Grouping.ofLines lines = .ok g) (hne : reports ≠ [])
      (hrun : Run c stepOptions (OptionMap.ofNames OptionName.ofDiagram) g.options reports options) :
      RejectedAs c ids lines reports
  /-- the global options are right, and an entity block is wrong -/
  | blocks {g : Grouping} {reports : List Report} {options : OptionMap} {named : EntityStage}
      (hgroup : Grouping.ofLines lines = .ok g) (hne : reports ≠ [])
      (hoptions : CleanRun stepOptions (OptionMap.ofNames OptionName.ofDiagram) g.options options)
      (hrun : Run c stepBlock ⟨ids, []⟩ g.blocks reports named) : RejectedAs c ids lines reports
  /-- the global options and the entity blocks are right, and a relationship is wrong -/
  | relationships {g : Grouping} {reports : List Report} {options : OptionMap} {named : EntityStage}
      {built : RelationshipStage} (hgroup : Grouping.ofLines lines = .ok g) (hne : reports ≠ [])
      (hoptions : CleanRun stepOptions (OptionMap.ofNames OptionName.ofDiagram) g.options options)
      (hblocks : CleanRun stepBlock ⟨ids, []⟩ g.blocks named)
      (hrun : Run c stepRelationship ⟨named.ids, named.entities, []⟩ g.relationships reports built) :
      RejectedAs c ids lines reports

/-- A document is never rejected without a report. -/
theorem RejectedAs.ne_nil {c : Catalog} {ids : IdSource} {lines : List Line} {reports : List Report}
    (h : RejectedAs c ids lines reports) : reports ≠ [] := by
  cases h with
  | grouping => exact List.cons_ne_nil _ _
  | options _ hne => exact hne
  | blocks _ hne => exact hne
  | relationships _ hne => exact hne

/-- A stage behind an empty list of reports that adds none runs clean. -/
theorem Stage.cleanRun_of_through {σ α : Type} {c : Catalog} {step : σ → α → StageStep σ}
    {stage stage' : Stage σ} {units : List α} (h : Stage.through c step stage units = .ok stage')
    (hbefore : stage.reports = []) (hafter : stage'.reports = []) :
    CleanRun step stage.state units stage'.state :=
  (Stage.through_eq_ok_iff_cleanRun hbefore).mp ⟨stage', h, hafter, rfl⟩

/-- Behind an empty list of reports, those of a stage are those of its run. -/
theorem Stage.run_of_fresh {σ α : Type} {c : Catalog} {step : σ → α → StageStep σ} {s : σ}
    {log : List Event} {stage' : Stage σ} {units : List α}
    (h : Stage.through c step ⟨s, log, []⟩ units = .ok stage') :
    Run c step s units stage'.reports stage'.state := by
  obtain ⟨reports, hrun, hreports⟩ := Stage.run_of_through h
  rw [hreports]
  exact hrun

/-- A rejected document is rejected in one of the four ways. -/
theorem rejectedAs_of_readDocument {c : Catalog} {ids : IdSource} {lines : List Line}
    {reports : List Report} (h : (readDocument c ids lines).result = .ok (.error reports)) :
    RejectedAs c ids lines reports := by
  unfold readDocument at h
  cases hgroup : Grouping.ofLines lines with
  | error fault =>
    simp only [hgroup] at h
    cases hdescribe : c.describe (.cause fault.cause (some fault.line)) with
    | error cause =>
      simp [hdescribe, DocumentReading.halted] at h
    | ok r =>
      simp only [hdescribe, DocumentReading.rejected, Except.ok.injEq, Except.error.injEq] at h
      exact h ▸ .grouping hgroup hdescribe
  | ok g =>
    simp only [hgroup, readUnits] at h
    split at h
    · cases h
    · rename_i afterOptions hoptions
      split at h
      · rename_i hnone
        have hoptionsRun := Stage.cleanRun_of_through hoptions rfl (List.isEmpty_iff.mp hnone)
        simp only [readEntities] at h
        split at h
        · cases h
        · rename_i afterBlocks hblocks
          split at h
          · rename_i hnone'
            have hblocksRun := Stage.cleanRun_of_through hblocks rfl (List.isEmpty_iff.mp hnone')
            simp only [readRelationships] at h
            split at h
            · cases h
            · rename_i afterRelationships hrelationships
              split at h
              · cases h
              · rename_i hsome
                simp only [DocumentReading.rejected, Except.ok.injEq, Except.error.injEq] at h
                subst h
                exact .relationships hgroup (by simpa using hsome) hoptionsRun hblocksRun
                  (Stage.run_of_fresh hrelationships)
          · rename_i hsome
            simp only [DocumentReading.rejected, Except.ok.injEq, Except.error.injEq] at h
            subst h
            exact .blocks hgroup (by simpa using hsome) hoptionsRun (Stage.run_of_fresh hblocks)
      · rename_i hsome
        simp only [DocumentReading.rejected, Except.ok.injEq, Except.error.injEq] at h
        subst h
        exact .options hgroup (by simpa using hsome) (Stage.run_of_fresh hoptions)

end ErDiagram

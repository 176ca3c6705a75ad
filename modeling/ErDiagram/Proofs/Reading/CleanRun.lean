import Mathlib.Data.List.Nodup
import ErDiagram.Reading.Basic

set_option autoImplicit false

/-!
# Stages without errors

A stage that ends without a report has gone past every unit without a fault.  Such a run is a
relation between the state in front and the state behind, in which neither the catalog nor the log
has a part.  What a clean run preserves is shown step by step, with the units that lie behind.
-/

namespace ErDiagram.Stage

variable {σ α : Type} {step : σ → α → StageStep σ}

/-- A stage goes from one state to another past units, none of which has a fault. -/
inductive CleanRun (step : σ → α → StageStep σ) : σ → List α → σ → Prop where
  | nil (s : σ) : CleanRun step s [] s
  | cons {s s' : σ} {unit : α} {rest : List α} (hfault : (step s unit).fault = none)
      (hrest : CleanRun step (step s unit).state rest s') : CleanRun step s (unit :: rest) s'

/-- What holds in front of a clean run, and is carried past each unit, holds behind the run.  The
property may speak of the units that lie behind. -/
theorem CleanRun.invariant {P : List α → σ → Prop} {s s' : σ} {units : List α}
    (hrun : CleanRun step s units s') (hinit : P [] s)
    (hstep : ∀ (behind : List α) (unit : α) (s : σ), P behind s → (step s unit).fault = none →
      P (behind ++ [unit]) (step s unit).state) : P units s' := by
  suffices hgeneral : ∀ behind, P behind s → P (behind ++ units) s' by
    simpa using hgeneral [] hinit
  clear hinit
  induction hrun with
  | nil s =>
    intro behind hbehind
    simpa using hbehind
  | cons hfault hrest ih =>
    intro behind hbehind
    simpa using ih _ (hstep _ _ _ hbehind hfault)

/-! ## Past one unit -/

theorem through_of_no_fault {c : Catalog} {stage : Stage σ} {unit : α} {rest : List α}
    (h : (step stage.state unit).fault = none) :
    through c step stage (unit :: rest) =
      through c step (stage.past (step stage.state unit) stage.reports) rest := by
  simp only [through, advance, h]

/-- A stage goes past a unit without a fault, or past a fault with its report, or it halts at a fault that
cannot be worded. -/
theorem through_cases (c : Catalog) (step : σ → α → StageStep σ) (stage : Stage σ) (unit : α)
    (rest : List α) :
    ((step stage.state unit).fault = none ∧
        through c step stage (unit :: rest) =
          through c step (stage.past (step stage.state unit) stage.reports) rest) ∨
      (∃ fault r, (step stage.state unit).fault = some fault ∧ c.describe fault = .ok r ∧
        through c step stage (unit :: rest) =
          through c step (stage.past (step stage.state unit) (stage.reports ++ [r])) rest) ∨
      ∃ fault cause, (step stage.state unit).fault = some fault ∧ c.describe fault = .error cause ∧
        through c step stage (unit :: rest) =
          .error ⟨(step stage.state unit).state, stage.log ++ (step stage.state unit).log, cause⟩ := by
  cases hfault : (step stage.state unit).fault with
  | none => exact .inl ⟨rfl, through_of_no_fault hfault⟩
  | some fault =>
    cases hdescribe : c.describe fault with
    | ok r =>
      refine .inr (.inl ⟨fault, r, rfl, hdescribe, ?_⟩)
      simp only [through, advance, hfault, hdescribe]
    | error cause =>
      refine .inr (.inr ⟨fault, cause, rfl, hdescribe, ?_⟩)
      simp only [through, advance, hfault, hdescribe]

/-- Reports are only ever added. -/
theorem reports_prefix_of_through {c : Catalog} {units : List α} :
    ∀ {stage stage' : Stage σ}, through c step stage units = .ok stage' →
      stage.reports <+: stage'.reports := by
  induction units with
  | nil =>
    intro stage stage' h
    cases h
    exact List.prefix_refl _
  | cons unit rest ih =>
    intro stage stage' h
    rcases through_cases c step stage unit rest with
      ⟨-, hnext⟩ | ⟨fault, r, -, -, hnext⟩ | ⟨fault, cause, -, -, hnext⟩
    · rw [hnext] at h
      exact @ih (stage.past (step stage.state unit) stage.reports) stage' h
    · rw [hnext] at h
      exact (List.prefix_append stage.reports [r]).trans (ih h)
    · rw [hnext] at h
      cases h

/-- A stage passes its units without a report exactly if the run past them is clean. -/
theorem through_eq_ok_iff_cleanRun {c : Catalog} {units : List α} :
    ∀ {stage : Stage σ} {s' : σ}, stage.reports = [] →
      ((∃ stage', through c step stage units = .ok stage' ∧ stage'.reports = [] ∧
          stage'.state = s') ↔
        CleanRun step stage.state units s') := by
  induction units with
  | nil =>
    intro stage s' hstage
    constructor
    · rintro ⟨stage', hthrough, -, rfl⟩
      rw [through, Except.ok.injEq] at hthrough
      rw [hthrough]
      exact .nil _
    · intro hrun
      cases hrun
      exact ⟨stage, rfl, hstage, rfl⟩
  | cons unit rest ih =>
    intro stage s' hstage
    have hpast : (stage.past (step stage.state unit) stage.reports).reports = [] := hstage
    constructor
    · rintro ⟨stage', hthrough, hreports, rfl⟩
      rcases through_cases c step stage unit rest with
        ⟨hfault, hnext⟩ | ⟨fault, r, -, -, hnext⟩ | ⟨fault, cause, -, -, hnext⟩
      · rw [hnext] at hthrough
        exact .cons hfault ((ih hpast).mp ⟨stage', hthrough, hreports, rfl⟩)
      · -- the fault would have left a report
        rw [hnext] at hthrough
        have hprefix := reports_prefix_of_through hthrough
        rw [hreports, List.prefix_nil] at hprefix
        exact absurd hprefix (List.concat_ne_nil r stage.reports)
      · rw [hnext] at hthrough
        cases hthrough
    · intro hrun
      cases hrun with
      | cons hfault hrest =>
        rw [through_of_no_fault hfault]
        exact (ih hpast).mpr hrest

end ErDiagram.Stage

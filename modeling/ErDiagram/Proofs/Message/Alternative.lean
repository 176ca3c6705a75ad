import ErDiagram.Proofs.Message.Document
import ErDiagram.Proofs.Reading.Judge
import ErDiagram.Proofs.Reading.Staged

set_option autoImplicit false

/-!
# Reading with another catalog

A catalog that is accepted in place of the English one finds the same in a document.  It words an error
if the conversion and the layout of each field of the template apply to the parameter that the field
stands for; a template may ask for more, and is still accepted.
-/

namespace ErDiagram

/-! ## Documents in the words of different catalogs

All catalogs find the same diagram in a document, or they reject it for the same causes.  For what a
document is found to be does not depend on the catalog, and the faults that it is found to have are
causes, since all of them can be worded in English. -/

/-- The end of reading a document of which these causes are reported: it is rejected with a report of
each, or reading ends at the first one that cannot be worded. -/
def Catalog.reject (c : Catalog) (causes : List (Cause × Option Line)) :
    Except Halt (Except (List Report) Diagram) :=
  match causes.mapM fun e => c.report e.1 e.2 with
  | .ok reports => .ok (.error reports)
  | .error fault => .error (.wording fault)

/-- Wording causes is wording faults. -/
theorem Catalog.reject_eq (c : Catalog) (causes : List (Cause × Option Line)) :
    c.reject causes = c.worded (.error (causes.map fun e => .cause e.1 e.2)) := by
  have hwords : (causes.map fun e => ReadFault.cause e.1 e.2).mapM c.describe =
      match causes.mapM fun e => c.report e.1 e.2 with
      | .ok reports => .ok reports
      | .error fault => .error (.wording fault) := by
    induction causes with
    | nil => rfl
    | cons e rest ih =>
      rw [List.map_cons, List.mapM_cons, List.mapM_cons, ih, describe]
      cases c.report e.1 e.2 with
      | error fault => rfl
      | ok report => cases (rest.mapM fun e => c.report e.1 e.2) <;> rfl
  rw [worded, hwords, reject]
  cases (causes.mapM fun e => c.report e.1 e.2) <;> rfl

/-- Faults that can all be worded are causes. -/
theorem exists_causes {c : Catalog} {faults : List ReadFault} {reports : List Report}
    (h : List.Forall₂ (fun fault r => c.describe fault = .ok r) faults reports) :
    ∃ causes : List (Cause × Option Line), faults = causes.map fun e => .cause e.1 e.2 := by
  induction h with
  | nil => exact ⟨[], rfl⟩
  | @cons fault r faults reports hdescribe _ ih =>
    obtain ⟨causes, rfl⟩ := ih
    cases fault with
    | cause cause line => exact ⟨(cause, line) :: causes, rfl⟩
    | option fault => cases hdescribe
    | lineMissing => cases hdescribe

/-- A document has one diagram under all catalogs, or all catalogs reject it for the same causes. -/
theorem exists_outcome (ids : IdSource) (lines : List Line) :
    (∃ d, ∀ c, (readDocument c ids lines).result = .ok (.ok d)) ∨
      ∃ causes, causes ≠ [] ∧ (∃ reports, Catalog.english.reject causes = .ok (.error reports)) ∧
        ∀ c, (readDocument c ids lines).result = c.reject causes := by
  cases hjudge : judgeDocument ids lines with
  | ok d =>
    left
    refine ⟨d, fun c => ?_⟩
    rw [readDocument_eq_worded, hjudge]
    rfl
  | error faults =>
    right
    -- in English all of the faults are worded, so they are causes, and there is one at least
    obtain ⟨outcome, houtcome⟩ := exists_result_english ids lines
    have henglish := houtcome
    rw [readDocument_eq_worded, hjudge, Catalog.worded] at henglish
    obtain ⟨reports, hreports, rfl⟩ := Except.map_eq_ok_iff.mp henglish
    have hdescribed := forall₂_of_mapM hreports
    obtain ⟨causes, rfl⟩ := exists_causes hdescribed
    refine ⟨causes, ?_, ⟨reports, ?_⟩, fun c => ?_⟩
    · intro hnil
      have hnone := isEmpty_eq_of_forall₂ hdescribed
      rw [hnil] at hnone
      exact (rejectedAs_of_readDocument houtcome).ne_nil (List.isEmpty_iff.mp hnone.symm)
    · rw [Catalog.reject_eq, Catalog.worded, hreports]
      rfl
    · rw [readDocument_eq_worded, hjudge, Catalog.reject_eq]

/-! ## Words -/

/-- The parameters of all causes but one are texts. -/
theorem Cause.params_text {c : Catalog} {cause : Cause} (h : cause.kind ≠ .blankOptionPair) :
    ∀ p ∈ cause.params c, ∃ t, p = .text t := by
  intro p hp
  cases p with
  | text t => exact ⟨t, rfl⟩
  | number n =>
    cases cause with
    | blankOptionPair index => exact absurd rfl h
    | _ => simp [Cause.params] at hp

/-- What a catalog does with the template of a kind of error. -/
structure Catalog.WordsKind (c : Catalog) (kind : ErrorKind) (template : Text) : Prop where
  /-- the template is well-formed, and its fields are numbers of parameters of this kind -/
  fits : (Template.read template).Fits kind.paramCount
  /-- a cause is worded exactly if all fields apply to its parameters -/
  word_iff : (Template.read template).IsFlat → ∀ cause : Cause, cause.kind = kind →
    ((∃ t, c.word kind (cause.params c) = .ok t) ↔
      ∀ f ∈ (Template.read template).fields, f.Applies (cause.params c))
  /-- a cause that is not worded is refused, or asks for more room than there is; only a number can be
  too large for what is asked of it -/
  refused : (Template.read template).IsFlat → ∀ cause : Cause, cause.kind = kind →
    ∀ fault, c.word kind (cause.params c) = .error fault →
      fault.kind = kind ∧ fault.fault.IsRefusalOfNumber ∧
        (kind ≠ .blankOptionPair → fault.fault.IsRefusal)

theorem Catalog.wordsKind_of_fits {c : Catalog} {kind : ErrorKind} {template : Text}
    (hlookup : c.errors.lookup kind.key = some template)
    (hfits : (Template.read template).Fits kind.paramCount) : c.WordsKind kind template := by
  have hparams : ∀ cause : Cause, cause.kind = kind →
      (Template.read template).Fits (cause.params c).length := by
    intro cause hcause
    rw [cause.length_params, hcause]
    exact hfits
  constructor
  case fits => exact hfits
  case word_iff =>
    intro hflat cause hcause
    rw [← Format.set_eq_ok_iff (hparams cause hcause) hflat, Catalog.word, hlookup]
    dsimp only
    cases Format.set template (cause.params c) with
    | ok t => simp only [Except.ok.injEq]
    | error fault => simp only [reduceCtorEq]
  case refused =>
    intro hflat cause hcause fault hfault
    rw [Catalog.word, hlookup] at hfault
    dsimp only at hfault
    rcases Format.set_cases (hparams cause hcause) hflat with
      ⟨⟨t, ht⟩, -⟩ | ⟨reason, hreason, f, p, -, hparam, hfails⟩
    · rw [ht] at hfault
      cases hfault
    · rw [hreason] at hfault
      cases hfault
      refine ⟨rfl, f.faultsIn_setParam p reason hfails, fun hkind => ?_⟩
      obtain ⟨t, rfl⟩ := Cause.params_text (hcause.symm ▸ hkind) p (f.mem_of_param? hparam)
      exact f.faultsIn_setParam_text t reason hfails

/-! ## Accepted catalogs -/

/-- An accepted alternative has a fitting template for every kind of error, and finds in a document what
the English catalog finds: the same diagram, or the same causes, which it words as far as it can. -/
theorem words_of_ofAlternative {document : Value} {c : Catalog}
    (h : Catalog.ofAlternative document = .ok c) :
    (∀ kind : ErrorKind, ∃ template, c.errors.lookup kind.key = some template ∧
        c.WordsKind kind template) ∧
      ∀ (ids : IdSource) (lines : List (Option Text)),
        (∃ d, (readLines Catalog.english ids lines).result = .ok (.ok d) ∧
            (readLines c ids lines).result = .ok (.ok d)) ∨
          ∃ causes reports, causes ≠ [] ∧
            (readLines Catalog.english ids lines).result = .ok (.error reports) ∧
            Catalog.english.reject causes = .ok (.error reports) ∧
            (readLines c ids lines).result = c.reject causes := by
  constructor
  · intro kind
    obtain ⟨template, hlookup, hfits⟩ := fits_of_ofAlternative h kind
    exact ⟨template, hlookup, Catalog.wordsKind_of_fits hlookup hfits⟩
  · intro ids lines
    rcases exists_outcome ids (Line.ofTexts (lines.map fun l => l.getD [])) with
      ⟨d, hd⟩ | ⟨causes, hne, ⟨reports, hreports⟩, hcauses⟩
    · exact .inl ⟨d, hd Catalog.english, hd c⟩
    · exact .inr ⟨causes, reports, hne, (hcauses Catalog.english).trans hreports, hreports, hcauses c⟩

/-! ## A catalog that is accepted and cannot word an error -/

/-- The English catalog, with a template that lays out a symbol as a number. -/
def numberingCatalog : Catalog :=
  { Catalog.english with
    errors := Table.put ErrorKind.invalidCardinalityChar.key "{0:d}".toList Catalog.english.errors }

theorem ofAlternative_numberingCatalog :
    Catalog.ofAlternative numberingCatalog.toDocument = .ok numberingCatalog := by
  decide +kernel

/-- The catalog fits all kinds of errors, and finds in every document what the English one finds. -/
theorem words_numberingCatalog :
    (∀ kind : ErrorKind, ∃ template, numberingCatalog.errors.lookup kind.key = some template ∧
        numberingCatalog.WordsKind kind template) ∧
      ∀ (ids : IdSource) (lines : List (Option Text)),
        (∃ d, (readLines Catalog.english ids lines).result = .ok (.ok d) ∧
            (readLines numberingCatalog ids lines).result = .ok (.ok d)) ∨
          ∃ causes reports, causes ≠ [] ∧
            (readLines Catalog.english ids lines).result = .ok (.error reports) ∧
            Catalog.english.reject causes = .ok (.error reports) ∧
            (readLines numberingCatalog ids lines).result = numberingCatalog.reject causes :=
  words_of_ofAlternative ofAlternative_numberingCatalog

/-- Not every accepted catalog can word every error: a symbol that is laid out as a number ends the reading
without an answer. -/
theorem readLines_numberingCatalog :
    Catalog.ofAlternative numberingCatalog.toDocument = .ok numberingCatalog ∧
      (readLines numberingCatalog {} [some "[A] x--1 [B]".toList]).result =
        .error (.wording ⟨.invalidCardinalityChar,
          .unusable "Unknown format code 'd' for object of type 'str'".toList⟩) := by
  refine ⟨ofAlternative_numberingCatalog, ?_⟩
  decide +kernel

end ErDiagram

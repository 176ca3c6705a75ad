import ErDiagram.Message.Document
import ErDiagram.Proofs.Message.English
import ErDiagram.Proofs.Value.Check

set_option autoImplicit false

/-!
# What an accepted catalog document says

A document that is accepted as an alternative catalog has a template for every kind of error.  Each of
these templates is well-formed, and its fields are among those of the English template of the same kind,
so they are numbers of parameters that causes of this kind have.
-/

namespace ErDiagram

/-! ## Fields -/

/-- The names that are compared are those of the fields of a well-formed template. -/
theorem fieldNames_eq_ok {template : Text} {names : List Text} (h : fieldNames template = .ok names) :
    (Template.read template).fault = none ∧
      ∀ name, name ∈ names ↔ ∃ f ∈ (Template.read template).fields, f.name = name := by
  unfold fieldNames at h
  dsimp only at h
  split at h
  · cases h
  · rename_i hfault
    cases h
    refine ⟨hfault, fun name => ?_⟩
    rw [(sortBy_perm _ _).mem_iff, List.mem_eraseDups, List.mem_map]

/-- A template about which nothing is said has only fields that the template of reference has. -/
theorem fields_of_checkFields {reference : List (Text × Text)} {key template other : Text}
    (h : checkFields (some reference) key template = .ok [])
    (hother : reference.lookup key = some other) :
    (Template.read template).fault = none ∧
      ∀ f ∈ (Template.read template).fields,
        ∃ g ∈ (Template.read other).fields, g.name = f.name := by
  unfold checkFields at h
  split at h
  · cases h
  rename_i names hnames
  obtain ⟨hfault, hmem⟩ := fieldNames_eq_ok hnames
  refine ⟨hfault, fun f hf => ?_⟩
  dsimp only at h
  split at h
  · cases h
  rw [Option.bind_some, hother] at h
  dsimp only at h
  split at h
  · cases h
  rename_i known hknown
  -- an entry would have been made of a field that is not known
  have hextra : (names.filter fun name => !known.contains name) = [] := by
    by_contra hne
    rw [if_neg (fun hempty => hne (List.isEmpty_iff.mp hempty))] at h
    cases h
  have hname : known.contains f.name = true := by
    have := List.filter_eq_nil_iff.mp hextra f.name ((hmem f.name).mpr ⟨f, hf, rfl⟩)
    simpa using this
  exact ((fieldNames_eq_ok hknown).2 f.name).mp (List.contains_iff_mem.mp hname)

theorem checkFields_of_checkAllFields {reference : Option (List (Text × Text))}
    {errors : List (Text × Text)} (h : checkAllFields reference errors = .ok []) :
    ∀ e ∈ errors, checkFields reference e.1 e.2 = .ok [] := by
  induction errors with
  | nil => exact nofun
  | cons e rest ih =>
    rw [checkAllFields] at h
    split at h
    · cases h
    · rename_i entries hentries
      cases hrest : checkAllFields reference rest with
      | error fault =>
        rw [hrest] at h
        cases h
      | ok more =>
        rw [hrest] at h
        obtain ⟨rfl, rfl⟩ := List.append_eq_nil_iff.mp (Except.ok.inj h)
        exact List.forall_mem_cons.mpr ⟨hentries, ih hrest⟩

/-- Nothing is said about any template that passes. -/
theorem checkFields_of_checkTemplates {reference : Option (List (Text × Text))}
    {errors : List (Text × Text)} (h : checkTemplates errors reference = .ok ()) :
    ∀ e ∈ errors, checkFields reference e.1 e.2 = .ok [] := by
  unfold checkTemplates at h
  split at h
  · cases h
  · rename_i hall
    intro e he
    apply checkFields_of_checkAllFields hall
    exact (sortBy_perm _ _).mem_iff.mpr he
  · cases h

/-! ## Documents -/

/-- A document that is as it should be has a mapping of templates, which are texts, with the key of every
kind of error. -/
theorem exists_errors_of_catalogCheck {document : Value} (h : catalogCheck [] document = []) :
    ∃ entries, document.get? "errors".toList = some (.mapping entries) ∧
      (∀ kind : ErrorKind, ∃ value, Value.lookup? kind.key entries = some value) ∧
      ∀ e ∈ entries, ∃ t, e.2 = .text t := by
  rw [catalogCheck, Check.all_eq_nil_iff] at h
  simp only [List.forall_mem_cons] at h
  obtain ⟨hmapping, -, hrequired, hproperties, -⟩ := h
  obtain ⟨sections, rfl⟩ := Check.isMapping_eq_nil_iff.mp hmapping
  obtain ⟨errors, herrors⟩ :=
    Check.required_eq_nil_iff.mp hrequired "errors".toList (by simp [catalogKeys])
  have hchecked := Check.of_properties hproperties
    (List.mem_cons_of_mem _ (List.mem_cons_of_mem _ (List.mem_cons_of_mem _ List.mem_cons_self)))
    (show (Value.mapping sections).get? "errors".toList = some errors from herrors)
  rw [Check.all_eq_nil_iff] at hchecked
  simp only [List.forall_mem_cons] at hchecked
  obtain ⟨hmapping, hkeys, htexts, -⟩ := hchecked
  obtain ⟨entries, rfl⟩ := Check.isMapping_eq_nil_iff.mp hmapping
  refine ⟨entries, herrors, ?_, ?_⟩
  · intro kind
    exact Check.required_eq_nil_iff.mp hkeys kind.key (List.mem_map_of_mem kind.mem_all)
  · intro e he
    have htext := Check.everyValue_eq_nil_iff.mp htexts e he
    rw [someText, Check.all_eq_nil_iff] at htext
    exact Check.isText_eq_nil_iff.mp (htext _ List.mem_cons_self)

/-- An accepted document has a template for each kind of error, and its templates pass the check of their
fields. -/
theorem errors_of_ofDocument {reference : Option (List (Text × Text))} {document : Value}
    {c : Catalog} (h : Catalog.ofDocument reference document = .ok c) :
    (∀ kind : ErrorKind, ∃ template, c.errors.lookup kind.key = some template) ∧
      checkTemplates c.errors reference = .ok () := by
  unfold Catalog.ofDocument at h
  split at h
  rotate_left
  · cases h
  dsimp only at h
  split at h
  · cases h
  · cases h
  rename_i hpasses
  split at h
  · cases h
  split at h
  · cases h
  rename_i hcheck
  cases h
  refine ⟨fun kind => ?_, hcheck⟩
  obtain ⟨entries, herrors, hkeys, htexts⟩ :=
    exists_errors_of_catalogCheck (Violation.find?_eq_some_nil_iff.mp hpasses)
  obtain ⟨value, hvalue⟩ := hkeys kind
  rw [← Value.lookup_textTable htexts, Option.map_eq_some_iff] at hvalue
  obtain ⟨template, htemplate, -⟩ := hvalue
  refine ⟨template, ?_⟩
  rw [herrors]
  exact htemplate

/-- An accepted alternative has a template for each kind of error, which is well-formed and whose fields
are numbers of parameters that causes of this kind have. -/
theorem fits_of_ofAlternative {document : Value} {c : Catalog}
    (h : Catalog.ofAlternative document = .ok c) (kind : ErrorKind) :
    ∃ template, c.errors.lookup kind.key = some template ∧
      (Template.read template).Fits kind.paramCount := by
  obtain ⟨htemplates, hcheck⟩ := errors_of_ofDocument h
  obtain ⟨template, htemplate⟩ := htemplates kind
  have hmem := Table.mem_of_lookup_eq_some htemplate
  obtain ⟨hfault, hfields⟩ :=
    fields_of_checkFields (checkFields_of_checkTemplates hcheck _ hmem) kind.lookup_english
  have henglish := kind.isPlain_english
  simp only [Template.isPlain, Bool.and_eq_true, List.all_eq_true] at henglish
  refine ⟨template, htemplate, hfault, fun f hf => ?_⟩
  obtain ⟨g, hg, hname⟩ := hfields f hf
  obtain ⟨i, hi, hread⟩ := (TemplateField.of_isPlain (henglish.2 g hg)).1
  exact ⟨i, hi, hname ▸ hread⟩

end ErDiagram

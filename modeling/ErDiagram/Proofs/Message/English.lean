import ErDiagram.Message.Catalog
import ErDiagram.Proofs.Message.Setting
import ErDiagram.Proofs.Collection

set_option autoImplicit false

/-!
# The English catalog words every cause

A template whose fields are plain numbers of parameters can be set, whatever the parameters are.  The
English templates are of that kind, and every cause has the parameters that the template of its kind
asks for.  So an error of a document can always be reported in English.
-/

namespace ErDiagram

/-! ## Plain templates -/

/-- The field is the number of one of `n` parameters, and asks for nothing else. -/
def TemplateField.isPlain (n : Nat) (f : TemplateField) : Bool :=
  f.conversion.isNone && f.layout.isEmpty && f.name.all (fun c => c != '.' && c != '[') &&
    match Format.readIndex f.name with
    | .ok (some i) => decide (i < n)
    | _ => false

/-- The template is well-formed, and its fields are plain. -/
def Template.isPlain (n : Nat) (t : Template) : Bool := t.fault.isNone && t.fields.all (·.isPlain n)

/-- A plain field is the number of a parameter, and sets it as it is. -/
theorem TemplateField.of_isPlain {n : Nat} {f : TemplateField} (h : f.isPlain n = true) :
    f.IsNumbered n ∧ f.conversion = none ∧ f.layout = [] := by
  simp only [isPlain, Bool.and_eq_true, Option.isNone_iff_eq_none, List.isEmpty_iff] at h
  obtain ⟨⟨⟨hconversion, hlayout⟩, -⟩, hindex⟩ := h
  refine ⟨?_, hconversion, hlayout⟩
  split at hindex
  · rename_i i hread
    exact ⟨i, of_decide_eq_true hindex, hread⟩
  · cases hindex

namespace Format

variable {params : List Param}

theorem set_ofParam (p : Param) : ∃ t, (Facet.ofParam p).set [] = .ok t := by
  cases p with
  | text t => exact ⟨t, rfl⟩
  | number n => exact ⟨Text.ofInt n, rfl⟩

/-- A plain template can be set, whatever its parameters are. -/
theorem set_of_isPlain {template : Text} (h : (Template.read template).isPlain params.length = true) :
    ∃ t, set template params = .ok t := by
  simp only [Template.isPlain, Bool.and_eq_true, Option.isNone_iff_eq_none, List.all_eq_true] at h
  obtain ⟨hfault, hplain⟩ := h
  have hfits : (Template.read template).Fits params.length :=
    ⟨hfault, fun f hf => (TemplateField.of_isPlain (hplain f hf)).1⟩
  have hflat : (Template.read template).IsFlat := by
    intro f hf
    obtain ⟨-, -, hlayout⟩ := TemplateField.of_isPlain (hplain f hf)
    rw [hlayout]
    exact List.not_mem_nil
  apply (set_eq_ok_iff hfits hflat).mpr
  intro f hf
  obtain ⟨hnumbered, hconversion, hlayout⟩ := TemplateField.of_isPlain (hplain f hf)
  obtain ⟨p, hparam⟩ := hnumbered.exists_param
  obtain ⟨t, ht⟩ := set_ofParam p
  refine ⟨p, t, hparam, ?_⟩
  rw [TemplateField.setParam, hconversion, hlayout]
  exact ht

end Format

/-! ## The English templates -/

/-- The number of parameters that causes of a kind have. -/
def ErrorKind.paramCount : ErrorKind → Nat
  | .invalidBrackets | .invalidOptionValue => 2
  | .textBefore | .textAfter => 3
  | .textBetween => 4
  | .unknownLineType | .entityNotOpened | .relationshipLineCount | .blankAttrName
  | .blankCardinality | .blankVerbPhrase | .dependentEntities | .dependentParent
  | .dependentManyToMany => 0
  | _ => 1

theorem Cause.length_params (c : Catalog) (cause : Cause) :
    (cause.params c).length = cause.kind.paramCount := by
  cases cause <;> rfl

/-- The characters of a template that is given as a string show whether it is plain. -/
theorem isPlain_of_ofList {t : Text} {s : String} {chars : List Char} {n : Nat}
    (hs : s = String.ofList chars) (ht : t = s.toList)
    (h : (Template.read chars).isPlain n = true) : (Template.read t).isPlain n = true := by
  rw [ht, hs, String.toList_ofList]
  exact h

theorem ErrorKind.isPlain_english (kind : ErrorKind) :
    (Template.read kind.english).isPlain kind.paramCount = true := by
  cases kind <;> refine isPlain_of_ofList rfl rfl ?_ <;> decide +kernel

theorem ErrorKind.mem_all (kind : ErrorKind) : kind ∈ all := by
  cases kind <;> decide

theorem ErrorKind.nodup_key : (ErrorKind.all.map ErrorKind.key).Nodup := by
  decide +kernel

theorem ErrorKind.lookup_english (kind : ErrorKind) :
    Catalog.english.errors.lookup kind.key = some kind.english := by
  have hkeys : (Catalog.english.errors.map (·.1)).Nodup := by
    rw [Catalog.english, List.map_map]
    exact ErrorKind.nodup_key
  exact Table.lookup_eq_some_of_mem hkeys
    (List.mem_map_of_mem (f := fun k : ErrorKind => (k.key, k.english)) kind.mem_all)

/-- Every cause can be reported in English, on any line. -/
theorem Catalog.exists_english_report (cause : Cause) (line : Option Line) :
    ∃ r, Catalog.english.report cause line = .ok r := by
  have hplain := cause.kind.isPlain_english
  rw [← Cause.length_params Catalog.english] at hplain
  obtain ⟨t, ht⟩ := Format.set_of_isPlain hplain
  have hword : Catalog.english.word cause.kind (cause.params Catalog.english) = .ok t := by
    simp [Catalog.word, ErrorKind.lookup_english, ht]
  exact ⟨_, by rw [Catalog.report, hword]⟩

end ErDiagram

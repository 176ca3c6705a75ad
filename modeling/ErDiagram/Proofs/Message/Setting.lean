import Mathlib.Data.List.TakeWhile
import ErDiagram.Message.Format

set_option autoImplicit false

/-!
# When a template can be set

A field that is the number of a parameter stands for this parameter, however many fields come before
it.  Such a field is set if its conversion is one that there is and its layout applies to the converted
parameter.  A template of such fields, whose layouts hold no fields of their own, is set exactly if each
of them is; otherwise its fault is that of a field.  The fault is a refusal, or it comes from the sizes
of numbers and texts, but nothing is ever asked for a property or an item.
-/

namespace ErDiagram

/-! ## Fields that are numbers -/

/-- The parameter whose number the field has. -/
def TemplateField.param? (params : List Param) (f : TemplateField) : Option Param :=
  (Format.readIndex f.name).toOption.join.bind fun i => params[i]?

/-- A parameter, converted and laid out as the field asks for. -/
def TemplateField.setParam (f : TemplateField) (p : Param) : Except FormatFault Text :=
  (Format.convert (Facet.ofParam p) f.conversion).bind fun value => value.set f.layout

/-- The field is the number of a parameter that can be converted and laid out as it asks for. -/
def TemplateField.Applies (params : List Param) (f : TemplateField) : Prop :=
  ∃ p t, f.param? params = some p ∧ f.setParam p = .ok t

/-- The field is the number of one of `n` parameters. -/
def TemplateField.IsNumbered (n : Nat) (f : TemplateField) : Prop :=
  ∃ i < n, Format.readIndex f.name = .ok (some i)

/-- The layout of no field holds a field of its own. -/
def Template.IsFlat (t : Template) : Prop := ∀ f ∈ t.fields, '{' ∉ f.layout

/-- The template is well-formed, and its fields are numbers of `n` parameters. -/
structure Template.Fits (n : Nat) (t : Template) : Prop where
  fault_eq : t.fault = none
  numbered : ∀ f ∈ t.fields, f.IsNumbered n

theorem TemplateField.param?_eq_some_iff {params : List Param} {f : TemplateField} {p : Param} :
    f.param? params = some p ↔
      ∃ i, Format.readIndex f.name = .ok (some i) ∧ params[i]? = some p := by
  unfold param?
  cases Format.readIndex f.name with
  | error fault => simp [Except.toOption]
  | ok index => cases index <;> simp [Except.toOption]

theorem TemplateField.IsNumbered.exists_param {params : List Param} {f : TemplateField}
    (h : f.IsNumbered params.length) : ∃ p, f.param? params = some p := by
  obtain ⟨i, hi, hread⟩ := h
  exact ⟨params[i], param?_eq_some_iff.mpr ⟨i, hread, List.getElem?_eq_getElem hi⟩⟩

theorem TemplateField.mem_of_param? {params : List Param} {p : Param} (f : TemplateField)
    (h : f.param? params = some p) : p ∈ params := by
  obtain ⟨i, -, hget⟩ := param?_eq_some_iff.mp h
  exact List.mem_of_getElem? hget

namespace Format

/-- A name that is read as a number consists of digits. -/
theorem isDecimal_of_readIndex {name : Text} {i : Nat} (h : readIndex name = .ok (some i)) :
    name ≠ [] ∧ ∀ c ∈ name, Numeral.isDecimal c = true := by
  unfold readIndex at h
  dsimp only at h
  split at h
  · cases h
  split at h
  · cases h
  rename_i hname
  simp only [Bool.or_eq_true, List.isEmpty_iff, bne_iff_ne, ne_eq, not_or, not_not] at hname
  refine ⟨hname.1, ?_⟩
  have hall : name.takeWhile Numeral.isDecimal = name :=
    (List.takeWhile_prefix Numeral.isDecimal).eq_of_length hname.2
  exact List.takeWhile_eq_self_iff.mp hall

variable {params : List Param}

/-- A field that is the number of a parameter stands for it, and fields are counted by their numbers
behind it. -/
theorem resolve_of_param? {numbering : Numbering} {f : TemplateField} {p : Param}
    (hnumbering : ∀ k, numbering ≠ .automatic k) (h : f.param? params = some p) :
    resolve params numbering f.name = .ok (Facet.ofParam p, .manual) := by
  obtain ⟨i, hread, hget⟩ := TemplateField.param?_eq_some_iff.mp h
  have hdecimal := (isDecimal_of_readIndex hread).2
  have hname : ∀ c ∈ f.name, (c != '.' && c != '[') = true := by
    intro c hc
    have hdot : c ≠ '.' := fun heq => absurd (heq ▸ hdecimal c hc) (by decide)
    have hopen : c ≠ '[' := fun heq => absurd (heq ▸ hdecimal c hc) (by decide)
    simp [hdot, hopen]
  have hfirst : f.name.takeWhile (fun c => c != '.' && c != '[') = f.name :=
    List.takeWhile_eq_self_iff.mpr hname
  have hrest : f.name.dropWhile (fun c => c != '.' && c != '[') = [] :=
    List.dropWhile_eq_nil_iff.mpr hname
  have hchoose : choose params numbering f.name = .ok (p, .manual) := by
    cases numbering with
    | automatic k => exact absurd rfl (hnumbering k)
    | undecided | manual => simp [choose, hread, hget]
  simp [resolve, hfirst, hrest, hchoose, follow, Except.map]

/-! ## Templates of numbered fields -/

/-- The field is a piece among others, and cannot be set for this reason. -/
def Fails (params : List Param) (pieces : List TemplatePiece) (fault : FormatFault) : Prop :=
  ∃ f p, .field f ∈ pieces ∧ f.param? params = some p ∧ f.setParam p = .error fault

/-- Pieces are set exactly if each field among them applies; if not, one of them fails for the same
reason. -/
theorem setPieces_cases {expand : Numbering → Text → Except FormatFault (Text × Numbering)}
    {pieces : List TemplatePiece} :
    ∀ {numbering : Numbering}, (∀ k, numbering ≠ .automatic k) →
      (∀ f, .field f ∈ pieces → f.IsNumbered params.length ∧ '{' ∉ f.layout) →
      ((∃ r, setPieces expand params numbering pieces = .ok r) ∧
          ∀ f, .field f ∈ pieces → f.Applies params) ∨
        ∃ fault, setPieces expand params numbering pieces = .error fault ∧
          Fails params pieces fault := by
  induction pieces with
  | nil =>
    intro numbering _ _
    exact .inl ⟨⟨([], numbering), rfl⟩, nofun⟩
  | cons piece rest ih =>
    intro numbering hnumbering hpieces
    have hrest : ∀ f, .field f ∈ rest → f.IsNumbered params.length ∧ '{' ∉ f.layout :=
      fun f hf => hpieces f (List.mem_cons_of_mem _ hf)
    have hlater : ∀ {fault}, Fails params rest fault → Fails params (piece :: rest) fault := by
      intro fault hfails
      obtain ⟨f, p, hf, hp⟩ := hfails
      exact ⟨f, p, List.mem_cons_of_mem _ hf, hp⟩
    cases piece with
    | literal t =>
      rw [setPieces]
      rcases ih hnumbering hrest with ⟨⟨r, hr⟩, happlies⟩ | ⟨fault, hfault, hfails⟩
      · refine .inl ⟨⟨(t ++ r.1, r.2), by rw [hr]; rfl⟩, ?_⟩
        intro f hf
        rcases List.mem_cons.mp hf with heq | hmem
        · cases heq
        · exact happlies f hmem
      · exact .inr ⟨fault, by rw [hfault]; rfl, hlater hfails⟩
    | field f =>
      obtain ⟨hnumbered, hlayout⟩ := hpieces f List.mem_cons_self
      obtain ⟨p, hparam⟩ := hnumbered.exists_param
      have hresolve := resolve_of_param? hnumbering hparam
      have hflat : f.layout.contains '{' = false := by
        rw [List.contains_eq_mem, decide_eq_false_iff_not]
        exact hlayout
      have hset : setPieces expand params numbering (.field f :: rest) =
          (f.setParam p).bind fun t =>
            (setPieces expand params .manual rest).map fun r => (t ++ r.1, r.2) := by
        simp only [setPieces, hresolve, hflat, Bool.false_eq_true, if_false, TemplateField.setParam]
        cases convert (Facet.ofParam p) f.conversion with
        | error fault => rfl
        | ok value =>
          dsimp only [Except.bind]
          cases value.set f.layout <;> rfl
      rw [hset]
      cases hsetParam : f.setParam p with
      | error fault => exact .inr ⟨fault, rfl, f, p, List.mem_cons_self, hparam, hsetParam⟩
      | ok t =>
        have hmanual : ∀ k, Numbering.manual ≠ .automatic k := fun _ => nofun
        rcases ih hmanual hrest with ⟨⟨r, hr⟩, happlies⟩ | ⟨fault, hfault, hfails⟩
        · refine .inl ⟨⟨(t ++ r.1, r.2), by rw [hr]; rfl⟩, ?_⟩
          intro g hg
          rcases List.mem_cons.mp hg with heq | hmem
          · cases heq
            exact ⟨p, t, hparam, hsetParam⟩
          · exact happlies g hmem
        · exact .inr ⟨fault, by rw [hfault]; rfl, hlater hfails⟩

theorem mem_fields {t : Template} {f : TemplateField} : f ∈ t.fields ↔ .field f ∈ t.pieces := by
  unfold Template.fields
  rw [List.mem_filterMap]
  constructor
  · intro h
    obtain ⟨piece, hpiece, heq⟩ := h
    cases piece with
    | literal => cases heq
    | field g =>
      cases heq
      exact hpiece
  · intro h
    exact ⟨.field f, h, rfl⟩

/-- A template that fits and is flat is set exactly if each of its fields applies; if not, one of them
fails for the same reason. -/
theorem set_cases {template : Text} (hfits : (Template.read template).Fits params.length)
    (hflat : (Template.read template).IsFlat) :
    ((∃ t, set template params = .ok t) ∧
        ∀ f ∈ (Template.read template).fields, f.Applies params) ∨
      ∃ fault, set template params = .error fault ∧
        Fails params (Template.read template).pieces fault := by
  have hpieces : ∀ f, .field f ∈ (Template.read template).pieces →
      f.IsNumbered params.length ∧ '{' ∉ f.layout := by
    intro f hf
    have hmem := mem_fields.mpr hf
    exact ⟨hfits.numbered f hmem, hflat f hmem⟩
  have hset : set template params =
      (setPieces (setAt params 1) params .undecided (Template.read template).pieces).map (·.1) := by
    rw [set, setAt, hfits.fault_eq]
    cases setPieces (setAt params 1) params .undecided (Template.read template).pieces <;> rfl
  have hundecided : ∀ k, Numbering.undecided ≠ .automatic k := fun _ => nofun
  rw [hset]
  rcases @setPieces_cases params (setAt params 1) _ _ hundecided hpieces with
    ⟨⟨r, hr⟩, happlies⟩ | ⟨fault, hfault, hfails⟩
  · exact .inl ⟨⟨r.1, by rw [hr]; rfl⟩, fun f hf => happlies f (mem_fields.mp hf)⟩
  · exact .inr ⟨fault, by rw [hfault]; rfl, hfails⟩

/-- A template that fits and is flat is set exactly if each of its fields applies. -/
theorem set_eq_ok_iff {template : Text} (hfits : (Template.read template).Fits params.length)
    (hflat : (Template.read template).IsFlat) :
    (∃ t, set template params = .ok t) ↔
      ∀ f ∈ (Template.read template).fields, f.Applies params := by
  rcases set_cases hfits hflat with ⟨hset, happlies⟩ | ⟨fault, hfault, f, p, hf, hparam, hfails⟩
  · exact ⟨fun _ => happlies, fun _ => hset⟩
  · constructor
    · intro hset
      obtain ⟨t, ht⟩ := hset
      rw [hfault] at ht
      cases ht
    · intro happlies
      obtain ⟨q, t, hq, ht⟩ := happlies f (mem_fields.mpr hf)
      rw [hparam, Option.some.injEq] at hq
      rw [← hq, hfails] at ht
      cases ht

end Format

/-! ## Why a field fails -/

/-- Every fault of the result has the property. -/
def FaultsIn {α : Type} (P : FormatFault → Prop) (x : Except FormatFault α) : Prop :=
  ∀ fault, x = .error fault → P fault

/-- The template is refused for a reason, or it asks for a text that no memory holds. -/
def FormatFault.IsRefusal (fault : FormatFault) : Prop :=
  (∃ reason, fault = .unusable reason) ∨ fault = .noRoom

/-- The template is refused, or it asks for a form that a number is too large for. -/
def FormatFault.IsRefusalOfNumber (fault : FormatFault) : Prop :=
  fault.IsRefusal ∨ fault = .outOfRange

section Faults

variable {α β : Type} {P : FormatFault → Prop}

theorem faultsIn_ok (a : α) : FaultsIn P (.ok a) := nofun

theorem faultsIn_unusable (reason : Text) :
    FaultsIn FormatFault.IsRefusal (.error (.unusable reason) : Except FormatFault α) := by
  intro fault h
  cases h
  exact .inl ⟨reason, rfl⟩

theorem faultsIn_noRoom :
    FaultsIn FormatFault.IsRefusal (.error .noRoom : Except FormatFault α) := by
  intro fault h
  cases h
  exact .inr rfl

theorem faultsIn_outOfRange :
    FaultsIn FormatFault.IsRefusalOfNumber (.error .outOfRange : Except FormatFault α) := by
  intro fault h
  cases h
  exact .inr rfl

/-- A fault that is handed on is of the same kind. -/
theorem FaultsIn.error {x : Except FormatFault α} {fault : FormatFault} (h : FaultsIn P x)
    (hfault : x = .error fault) : FaultsIn P (.error fault : Except FormatFault β) := by
  intro other hother
  cases hother
  exact h fault hfault

theorem FaultsIn.ofNumber {x : Except FormatFault α} (h : FaultsIn FormatFault.IsRefusal x) :
    FaultsIn FormatFault.IsRefusalOfNumber x :=
  fun fault hfault => .inl (h fault hfault)

namespace Layout

theorem faultsIn_readNumber (t : Text) : FaultsIn FormatFault.IsRefusal (readNumber t) := by
  unfold readNumber
  dsimp only
  split
  · exact faultsIn_ok _
  · split
    · exact faultsIn_unusable _
    · exact faultsIn_ok _

theorem faultsIn_readSeparator (t : Text) : FaultsIn FormatFault.IsRefusal (readSeparator t) := by
  unfold readSeparator
  split <;> first | exact faultsIn_ok _ | exact faultsIn_unusable _

theorem faultsIn_readPrecision (t : Text) : FaultsIn FormatFault.IsRefusal (readPrecision t) := by
  unfold readPrecision
  split
  · split
    · rename_i fault hfault
      exact (faultsIn_readNumber _).error hfault
    · exact faultsIn_unusable _
    · exact faultsIn_ok _
  · exact faultsIn_ok _

/-- A layout that cannot be read is refused. -/
theorem faultsIn_read (what : Text) (type : Char) (alignment : Alignment) (t : Text) :
    FaultsIn FormatFault.IsRefusal (read what type alignment t) := by
  unfold read
  dsimp only
  split
  · rename_i fault hfault
    exact (faultsIn_readNumber _).error hfault
  split
  · rename_i fault hfault
    exact (faultsIn_readSeparator _).error hfault
  split
  · rename_i fault hfault
    exact (faultsIn_readPrecision _).error hfault
  split
  · exact faultsIn_unusable _
  split
  · split
    · exact faultsIn_ok _
    · exact faultsIn_unusable _
  · exact faultsIn_ok _

theorem faultsIn_pad (l : Layout) (front body : Text) :
    FaultsIn FormatFault.IsRefusal (pad l front body) := by
  unfold pad
  dsimp only
  split
  · exact faultsIn_noRoom
  · exact faultsIn_ok _

/-- A text that cannot be laid out is refused, or too wide. -/
theorem faultsIn_setText (t layout : Text) : FaultsIn FormatFault.IsRefusal (setText t layout) := by
  unfold setText
  split
  · exact faultsIn_ok _
  split
  · rename_i fault hfault
    exact (faultsIn_read _ _ _ _).error hfault
  repeat' split
  all_goals first | exact faultsIn_unusable _ | exact faultsIn_pad _ _ _

theorem faultsIn_setDigits (l : Layout) (front digits tail : Text) (groupSize : Nat) :
    FaultsIn FormatFault.IsRefusal (setDigits l front digits tail groupSize) := by
  unfold setDigits
  generalize (if (l.fill = '0' && l.alignment == .inside) = true
    then l.width.getD 0 - (front.length + tail.length) else 0) = least
  dsimp only
  split
  · exact faultsIn_noRoom
  · exact faultsIn_pad _ _ _

theorem faultsIn_setCharacter (n : Int) (l : Layout) :
    FaultsIn FormatFault.IsRefusalOfNumber (setCharacter n l) := by
  unfold setCharacter
  split
  · exact (faultsIn_unusable _).ofNumber
  split
  · exact (faultsIn_unusable _).ofNumber
  split
  · exact faultsIn_outOfRange
  · exact (faultsIn_pad _ _ _).ofNumber

theorem faultsIn_setPointed (n : Int) (l : Layout) :
    FaultsIn FormatFault.IsRefusalOfNumber (setPointed n l) := by
  unfold setPointed
  dsimp only
  split
  · exact faultsIn_outOfRange
  split
  · exact (faultsIn_unusable _).ofNumber
  split
  · exact (faultsIn_setDigits _ _ _ _ _).ofNumber
  · exact (faultsIn_setDigits _ _ _ _ _).ofNumber

/-- A number that cannot be laid out is refused, or a number or a text is too large. -/
theorem faultsIn_setNumber (n : Int) (layout : Text) :
    FaultsIn FormatFault.IsRefusalOfNumber (setNumber n layout) := by
  unfold setNumber
  split
  · exact faultsIn_ok _
  split
  · rename_i fault hfault
    exact ((faultsIn_read _ _ _ _).error hfault).ofNumber
  split
  · exact faultsIn_setPointed _ _
  split
  · exact (faultsIn_unusable _).ofNumber
  split
  · exact (faultsIn_unusable _).ofNumber
  split
  · exact (faultsIn_unusable _).ofNumber
  split
  · exact faultsIn_setCharacter _ _
  · exact (faultsIn_setDigits _ _ _ _ _).ofNumber

end Layout

/-! ## Why a parameter cannot be set -/

/-- A text is converted to a text. -/
theorem convert_text (t : Text) (conversion : Option Char) :
    (∃ t', Format.convert (.text t) conversion = .ok (.text t')) ∨
      ∃ reason, Format.convert (.text t) conversion = .error (.unusable reason) := by
  unfold Format.convert
  split
  · exact .inl ⟨t, rfl⟩
  · exact .inl ⟨_, rfl⟩
  · exact .inl ⟨_, rfl⟩
  · exact .inl ⟨_, rfl⟩
  · exact .inr ⟨_, rfl⟩

/-- A number is converted to a text, or stays one. -/
theorem convert_number (n : Int) (conversion : Option Char) :
    Format.convert (.number n) conversion = .ok (.number n) ∨
      (∃ t, Format.convert (.number n) conversion = .ok (.text t)) ∨
      ∃ reason, Format.convert (.number n) conversion = .error (.unusable reason) := by
  unfold Format.convert
  split
  · exact .inl rfl
  · exact .inr (.inl ⟨_, rfl⟩)
  · exact .inr (.inl ⟨_, rfl⟩)
  · exact .inr (.inl ⟨_, rfl⟩)
  · exact .inr (.inr ⟨_, rfl⟩)

namespace TemplateField

variable (f : TemplateField)

/-- A text that cannot be set is refused, or too wide. -/
theorem faultsIn_setParam_text (t : Text) : FaultsIn FormatFault.IsRefusal (f.setParam (.text t)) := by
  rw [setParam, Facet.ofParam]
  rcases convert_text t f.conversion with ⟨t', h⟩ | ⟨reason, h⟩
  · rw [h]
    exact Layout.faultsIn_setText t' f.layout
  · rw [h]
    exact faultsIn_unusable reason

/-- A parameter that cannot be set is refused, or it is too large for what is asked of it. -/
theorem faultsIn_setParam (p : Param) : FaultsIn FormatFault.IsRefusalOfNumber (f.setParam p) := by
  cases p with
  | text t => exact (f.faultsIn_setParam_text t).ofNumber
  | number n =>
    rw [setParam, Facet.ofParam]
    rcases convert_number n f.conversion with h | ⟨t, h⟩ | ⟨reason, h⟩
    · rw [h]
      exact Layout.faultsIn_setNumber n f.layout
    · rw [h]
      exact (Layout.faultsIn_setText t f.layout).ofNumber
    · rw [h]
      exact (faultsIn_unusable reason).ofNumber

end TemplateField

end Faults

end ErDiagram

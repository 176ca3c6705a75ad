import ErDiagram.Proofs.Notation.Capitals
import ErDiagram.Proofs.Notation.Pieces
import ErDiagram.Proofs.Reading.OptionList

set_option autoImplicit false

/-!
# Option lists and the options listed in them

The text of an option list is options between semicolons, and the text of an option is a name and a
value around a colon.  The list is read exactly if each option can be read and no two have the same name
in capitals.  An option can be read if its name shows no character of the notation, and its value shows
none or counts as quoted.
-/

namespace ErDiagram

open Quoting (CutFrom ShowsAt after findFrom piecesFrom)

/-- An option as it stands in an option list: the text in front of its colon and the text behind it. -/
structure ListedOption where
  name : Text
  value : Text
  deriving DecidableEq, Repr, Inhabited

namespace ListedOption

/-- The text of the option. -/
def text (o : ListedOption) : Text := o.name ++ optionAssignment :: o.value

/-- What is read: the name in capitals, and the raw value. -/
def entry (o : ListedOption) : Text × Text :=
  (Text.upper (Text.strip o.name), Quoting.unquote (Text.strip o.value))

/-- The value counts as quoted: its first and its last character are double quotes. -/
def hasQuotedValue (o : ListedOption) : Bool := Quoting.isQuoted (Text.strip o.value)

/-- The option can be read. -/
structure Readable (o : ListedOption) : Prop where
  name_ne_nil : o.entry.1 ≠ []
  name_paired : after false o.name = false
  name_shows : ∀ c ∈ optionInvalidChars, ∀ n, ¬ ShowsAt o.name n c
  value_assignment : ∀ n, ¬ ShowsAt o.value n optionAssignment
  value_shows : o.hasQuotedValue = false → ∀ c ∈ optionInvalidChars, ∀ n, ¬ ShowsAt o.value n c

end ListedOption

/-- The text is an option list of these options.  A blank text lists none. -/
inductive IsListed : Text → List ListedOption → Prop where
  | blank {t : Text} (h : Text.strip t = []) : IsListed t []
  | options {options : List ListedOption}
      (h : CutFrom optionSeparator false (options.map ListedOption.text)) :
      IsListed (Text.join [optionSeparator] (options.map ListedOption.text)) options

variable {t pair name value : Text} {raw : List (Text × Text)} {options : List ListedOption}
variable {o : ListedOption} {entry : Text × Text}

/-! ## One option -/

theorem isMark_of_mem_optionInvalidChars {c : Char} (hc : c ∈ optionInvalidChars) :
    Text.IsMark c ∧ Text.isBlank c = false := by
  have hall : optionInvalidChars.all
      (fun c => decide (Text.IsMark c ∧ Text.isBlank c = false)) = true := by decide
  exact of_decide_eq_true (List.all_eq_true.mp hall c hc)

/-- A search for a character of the notation fails in a stripped text exactly if it fails in the text. -/
theorem findFrom_strip_of_mem {c : Char} (hc : c ∈ optionInvalidChars) (t : Text) :
    findFrom (· == c) false (Text.strip t) = none ↔ findFrom (· == c) false t = none := by
  refine Quoting.findFrom_strip (fun d hd => beq_false_of_ne ?_) t
  exact Quoting.ne_of_isBlank hd (isMark_of_mem_optionInvalidChars hc).2

theorem firstChar?_strip_eq_none_iff {t : Text} :
    Quoting.firstChar? (Text.strip t) optionInvalidChars = none ↔
      ∀ c ∈ optionInvalidChars, ∀ n, ¬ ShowsAt t n c := by
  rw [Quoting.firstChar?_eq_none_iff]
  refine forall₂_congr fun c hc => ?_
  rw [findFrom_strip_of_mem hc, Quoting.not_showsAt_iff]

theorem firstChar?_upper_strip_eq_none_iff {t : Text} :
    Quoting.firstChar? (Text.upper (Text.strip t)) optionInvalidChars = none ↔
      ∀ c ∈ optionInvalidChars, ∀ n, ¬ ShowsAt t n c := by
  rw [← firstChar?_strip_eq_none_iff, Quoting.firstChar?_eq_none_iff, Quoting.firstChar?_eq_none_iff]
  refine forall₂_congr fun c hc => ?_
  exact Quoting.findFrom_upper (isMark_of_mem_optionInvalidChars hc).1 _ false

/-- The text of an option, cut at its unquoted colons, is its name and its value. -/
theorem ListedOption.cutFrom_iff : CutFrom optionAssignment false [o.name, o.value] ↔
    after false o.name = false ∧ (∀ n, ¬ ShowsAt o.name n optionAssignment) ∧
      ∀ n, ¬ ShowsAt o.value n optionAssignment := by
  rw [← Quoting.not_showsAt_iff, ← Quoting.not_showsAt_iff]
  constructor
  · rintro (_ | ⟨hname, hafter, hvalue⟩)
    cases hvalue with
    | last hvalue => exact ⟨hafter, hname, hvalue⟩
    | cons _ _ hrest => exact absurd rfl hrest.ne_nil
  · rintro ⟨hafter, hname, hvalue⟩
    exact .cons hname hafter (.last hvalue)

theorem ListedOption.join_eq (o : ListedOption) :
    Text.join [optionAssignment] [o.name, o.value] = o.text := by
  rw [Text.join_cons_cons, Text.join_singleton]
  rfl

theorem optionAssignment_mem : optionAssignment ∈ optionInvalidChars := by decide

theorem ListedOption.strip_text_ne_nil (o : ListedOption) : Text.strip o.text ≠ [] :=
  Text.stripOf_ne_nil_iff.mpr ⟨optionAssignment, by simp [text], by decide⟩

/-- A text that is read as an option is the text of an option that can be read. -/
theorem exists_readable_of_readOptionPair (h : readOptionPair (Text.strip pair) = .ok entry) :
    ∃ o : ListedOption, o.text = pair ∧ o.Readable ∧ o.entry = entry := by
  obtain ⟨name, value⟩ := entry
  obtain ⟨nameText, valueText, hstripped, rfl, hne, hclean, hread⟩ := readOptionPair_eq_ok.mp h
  rw [Quoting.pieces_strip] at hstripped
  have hpair : Text.strip pair ≠ [] := by
    intro hblank
    rw [Quoting.pieces_of_blank hblank] at hstripped
    cases hstripped
  rw [Quoting.pieces_eq (by decide) (by decide) hpair] at hstripped
  obtain ⟨front, behind, hpieces, rfl, hback⟩ := List.map_eq_cons_iff.mp hstripped
  obtain ⟨back, rfl, rfl⟩ := List.map_eq_singleton_iff.mp hback
  have hcut : CutFrom optionAssignment false [front, back] :=
    hpieces ▸ Quoting.cutFrom_piecesFrom (by decide) pair false
  have hjoin : Text.join [optionAssignment] [front, back] = pair :=
    hpieces ▸ Quoting.join_piecesFrom optionAssignment pair false
  obtain ⟨hafter, -, hassignment⟩ := (ListedOption.cutFrom_iff (o := ⟨front, back⟩)).mp hcut
  obtain ⟨rfl, hvalue⟩ := readRawValue_eq_ok.mp hread
  refine ⟨⟨front, back⟩, ?_, ⟨hne, hafter, ?_, hassignment, fun hquoted => ?_⟩, rfl⟩
  · rw [← ListedOption.join_eq, hjoin]
  · exact firstChar?_upper_strip_eq_none_iff.mp hclean
  · exact firstChar?_strip_eq_none_iff.mp (hvalue hquoted)

theorem ListedOption.Readable.readOptionPair_strip (h : o.Readable) :
    readOptionPair (Text.strip o.text) = .ok o.entry := by
  have hcut : CutFrom optionAssignment false [o.name, o.value] :=
    ListedOption.cutFrom_iff.mpr ⟨h.name_paired, h.name_shows _ optionAssignment_mem,
      h.value_assignment⟩
  have hpieces := hcut.piecesFrom_join (by decide)
  rw [ListedOption.join_eq] at hpieces
  refine readOptionPair_eq_ok.mpr
    ⟨Text.strip o.name, Text.strip o.value, ?_, rfl, h.name_ne_nil, ?_, ?_⟩
  · rw [Quoting.pieces_strip, Quoting.pieces_eq (by decide) (by decide) o.strip_text_ne_nil, hpieces]
    rfl
  · exact firstChar?_upper_strip_eq_none_iff.mpr h.name_shows
  · refine readRawValue_eq_ok.mpr ⟨rfl, fun hquoted => ?_⟩
    exact firstChar?_strip_eq_none_iff.mpr (h.value_shows hquoted)

/-! ## All options -/

/-- Texts that are read as options are the texts of options that can be read. -/
theorem exists_listedOptions {pieces : List Text}
    (h : List.Forall₂ (fun pair entry => Text.strip pair ≠ [] ∧
      readOptionPair (Text.strip pair) = .ok entry) pieces raw) :
    ∃ options : List ListedOption, options.map ListedOption.text = pieces ∧
      (∀ o ∈ options, o.Readable) ∧ options.map ListedOption.entry = raw := by
  induction h with
  | nil => exact ⟨[], rfl, nofun, rfl⟩
  | cons hpair _ ih =>
    obtain ⟨o, rfl, ho, rfl⟩ := exists_readable_of_readOptionPair hpair.2
    obtain ⟨options, rfl, hread, rfl⟩ := ih
    exact ⟨o :: options, rfl, List.forall_mem_cons.mpr ⟨ho, hread⟩, rfl⟩

/-- An option list is read exactly if it lists options that can be read, with distinct names. -/
theorem readOptionList_eq_ok_iff : readOptionList t = .ok raw ↔
    ∃ options, IsListed t options ∧ (∀ o ∈ options, o.Readable) ∧
      raw = options.map ListedOption.entry ∧ (raw.map (·.1)).Nodup := by
  rw [readOptionList_eq_ok]
  constructor
  · rintro ⟨hpairs, hnodup⟩
    by_cases hblank : Text.strip t = []
    · rw [Quoting.pieces_of_blank hblank, List.forall₂_nil_left_iff] at hpairs
      exact ⟨[], .blank hblank, nofun, hpairs, hnodup⟩
    · rw [Quoting.pieces_eq (by decide) (by decide) hblank, List.forall₂_map_left_iff] at hpairs
      obtain ⟨options, htexts, hread, hentries⟩ := exists_listedOptions hpairs
      have hcut : CutFrom optionSeparator false (piecesFrom optionSeparator false t) :=
        Quoting.cutFrom_piecesFrom (by decide) t false
      rw [← htexts] at hcut
      have hlisted := IsListed.options hcut
      rw [htexts, Quoting.join_piecesFrom] at hlisted
      exact ⟨options, hlisted, hread, hentries.symm, hnodup⟩
  · rintro ⟨options, hlisted, hread, rfl, hnodup⟩
    refine ⟨?_, hnodup⟩
    cases hlisted with
    | blank hblank =>
      rw [Quoting.pieces_of_blank hblank]
      exact .nil
    | options hcut =>
      have hblank : Text.strip (Text.join [optionSeparator] (options.map ListedOption.text)) ≠ [] := by
        have hne : options ≠ [] := by
          rintro rfl
          exact hcut.ne_nil rfl
        obtain ⟨o, ho⟩ := List.exists_mem_of_ne_nil options hne
        exact Text.strip_join_ne_nil (List.mem_map_of_mem ho) o.strip_text_ne_nil
      rw [Quoting.pieces_eq (by decide) (by decide) hblank, hcut.piecesFrom_join (by decide),
        List.map_map, List.forall₂_map_left_iff, List.forall₂_map_right_iff, List.forall₂_same]
      intro o ho
      exact ⟨o.strip_text_ne_nil, (hread o ho).readOptionPair_strip⟩

end ErDiagram

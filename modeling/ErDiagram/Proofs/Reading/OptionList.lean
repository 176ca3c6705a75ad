import ErDiagram.Proofs.Diagram.OptionMap
import ErDiagram.Proofs.Collection
import ErDiagram.Proofs.Reading.Result
import ErDiagram.Reading.Document

set_option autoImplicit false

/-!
# Option lists give well-typed option maps

An option list is read if each of its pieces is read as a name and a raw value and no name comes twice.
On a line of a document nothing but the raw list and the values of the allowed names can fail, and
the map that comes out has the names of the map that went in, with values of the declared types.
-/

namespace ErDiagram

/-! ## Raw values -/

section RawValues

variable {t pair name value : Text} {raw : List (Text × Text)}

theorem readRawValue_eq_ok :
    readRawValue t = .ok value ↔ value = Quoting.unquote t ∧
      (Quoting.isQuoted t = false → Quoting.firstChar? t optionInvalidChars = none) := by
  unfold readRawValue
  cases hquoted : Quoting.isQuoted t with
  | true => simp [eq_comm]
  | false =>
    have hsame : Quoting.unquote t = t := by simp [Quoting.unquote, hquoted]
    cases Quoting.firstChar? t optionInvalidChars with
    | some c => simp
    | none => simp [hsame, eq_comm]

theorem readOptionPair_eq_ok :
    readOptionPair pair = .ok (name, value) ↔ ∃ nameText valueText,
      Quoting.pieces pair optionAssignment = [nameText, valueText] ∧ name = Text.upper nameText ∧
        name ≠ [] ∧ Quoting.firstChar? name optionInvalidChars = none ∧
          readRawValue valueText = .ok value := by
  constructor
  · intro h
    unfold readOptionPair at h
    split at h
    · rename_i nameText valueText hpieces
      dsimp only at h
      split at h
      · cases h
      · rename_i hne
        split at h
        · cases h
        · rename_i hnone
          cases hread : readRawValue valueText with
          | error c =>
            rw [hread] at h
            cases h
          | ok read =>
            rw [hread] at h
            cases h
            exact ⟨nameText, valueText, hpieces, rfl, by simpa using hne, hnone, hread⟩
    · cases h
    · cases h
  · rintro ⟨nameText, valueText, hpieces, rfl, hne, hnone, hread⟩
    have hsome : (Text.upper nameText).isEmpty = false := List.isEmpty_eq_false_iff.mpr hne
    simp [readOptionPair, hpieces, hsome, hnone, hread, Except.map]

/-- The next option is read behind others if it is not blank, can be read, and has a new name. -/
theorem readOptionPairs_cons_eq_ok {before all : List (Text × Text)} {index : Nat} {rest : List Text} :
    readOptionPairs before index (pair :: rest) = .ok all ↔ ∃ entry : Text × Text, pair ≠ [] ∧
      readOptionPair pair = .ok entry ∧ entry.1 ∉ before.map (·.1) ∧
        readOptionPairs (before ++ [entry]) (index + 1) rest = .ok all := by
  have hnew : ∀ name, name ∉ before.map (·.1) ↔ before.lookup name = none := fun name =>
    Table.lookup_eq_none_iff.symm
  simp only [hnew]
  constructor
  · intro h
    rw [readOptionPairs] at h
    split at h
    · cases h
    · rename_i hne
      split at h
      · cases h
      · rename_i name value hread
        split at h
        · cases h
        · rename_i hlookup
          have hnone : before.lookup name = none := Option.not_isSome_iff_eq_none.mp hlookup
          exact ⟨(name, value), by simpa using hne, hread, hnone, h⟩
  · rintro ⟨⟨name, value⟩, hne, hread, hlookup, h⟩
    have hsome : pair.isEmpty = false := List.isEmpty_eq_false_iff.mpr hne
    simp [readOptionPairs, hsome, hread, hlookup, h]

/-- Options are read one after the other, as long as none is blank and no name comes twice. -/
theorem readOptionPairs_eq_ok {pairs : List Text} :
    ∀ {before all : List (Text × Text)} {index : Nat}, (before.map (·.1)).Nodup →
      (readOptionPairs before index pairs = .ok all ↔ ∃ added, all = before ++ added ∧
        List.Forall₂ (fun pair entry => pair ≠ [] ∧ readOptionPair pair = .ok entry) pairs added ∧
          (all.map (·.1)).Nodup) := by
  induction pairs with
  | nil =>
    intro before all index hnodup
    simp only [readOptionPairs, Except.ok.injEq, List.forall₂_nil_left_iff]
    constructor
    · rintro rfl
      exact ⟨[], by simp, rfl, hnodup⟩
    · rintro ⟨added, rfl, rfl, -⟩
      simp
  | cons pair rest ih =>
    intro before all index hnodup
    -- a name that is not among those before keeps the names distinct
    have hconcat : ∀ entry : Text × Text, entry.1 ∉ before.map (·.1) →
        ((before ++ [entry]).map (·.1)).Nodup := by
      intro entry hnew
      rw [List.map_append, List.map_singleton, ← List.concat_eq_append]
      exact (List.nodup_concat _ _).mpr ⟨hnew, hnodup⟩
    rw [readOptionPairs_cons_eq_ok]
    constructor
    · rintro ⟨entry, hne, hread, hnew, hrest⟩
      obtain ⟨added, rfl, hadded, hall⟩ := (ih (hconcat entry hnew)).mp hrest
      exact ⟨entry :: added, by simp, .cons ⟨hne, hread⟩ hadded, hall⟩
    · rintro ⟨_, rfl, _ | @⟨_, entry, _, added, ⟨hne, hread⟩, hadded⟩, hall⟩
      have hnew : entry.1 ∉ before.map (·.1) := by
        rw [List.map_append, List.nodup_append] at hall
        exact fun hmem => hall.2.2 _ hmem _ (by simp) rfl
      refine ⟨entry, hne, hread, hnew, (ih (hconcat entry hnew)).mpr ⟨added, by simp, hadded, hall⟩⟩

theorem readOptionList_eq_ok : readOptionList t = .ok raw ↔
    List.Forall₂ (fun pair entry => pair ≠ [] ∧ readOptionPair pair = .ok entry)
        (Quoting.pieces t optionSeparator) raw ∧ (raw.map (·.1)).Nodup := by
  have hpairs := @readOptionPairs_eq_ok (Quoting.pieces t optionSeparator) [] raw 0 List.nodup_nil
  rw [readOptionList, hpairs]
  simp

end RawValues

/-! ## Values -/

theorem recordIgnored_result (line : Line) (keys : List Text) :
    (recordIgnored (some line) keys).result = .ok () := by
  cases keys <;> rfl

theorem layValues_eq_ok {base m : OptionMap} {values : List (OptionName × OptionValue)} :
    (layValues base values).result = .ok m ↔
      base.updated (values.map fun v => (v.1, Offer.value v.2)) = .ok m := by
  unfold layValues
  split
  · rename_i m' hm'
    simp [hm']
  · rename_i fault hfault
    simp [hfault]

/-- Raw values are applied on a line exactly if the values of the allowed names can be read and laid
over the map. -/
theorem applyOptions_eq_ok {raw : List (Text × Text)} {allowed : List OptionName}
    {base m : OptionMap} {line : Line} :
    (applyOptions raw allowed base (some line)).result = .ok m ↔
      ∃ values, readValues raw (distinctNames allowed) = .ok values ∧
        base.updated (values.map fun v => (v.1, Offer.value v.2)) = .ok m := by
  simp only [applyOptions, Reading.bind_eq_ok, recordIgnored_result, Reading.on_eq_ok,
    layValues_eq_ok, true_and, exists_const]

theorem readOptions_eq_ok {t : Text} {allowed : List OptionName} {line : Line} {m : OptionMap} :
    (readOptions t allowed (some line)).result = .ok m ↔
      ∃ raw, readOptionList t = .ok raw ∧
        (applyOptions raw allowed (OptionMap.ofNames allowed) (some line)).result = .ok m := by
  simp only [readOptions, Reading.bind_eq_ok, Reading.on_eq_ok]

theorem readGlobalOptions_eq_ok {base m : OptionMap} {line : Line} :
    (readGlobalOptions base line).result = .ok m ↔
      ∃ raw, readOptionList (stripBrackets line.body [.curly]) = .ok raw ∧
        (applyOptions raw OptionName.ofDiagram base (some line)).result = .ok m := by
  simp only [readGlobalOptions, Reading.bind_eq_ok, Reading.on_eq_ok]

/-! ## Types -/

/-- Applying raw values keeps the names of a map and gives values of the declared types. -/
theorem typedFor_of_applyOptions {raw : List (Text × Text)} {allowed names : List OptionName}
    {base m : OptionMap} {line : Line} (hnodup : names.Nodup) (hbase : base.TypedFor names)
    (h : (applyOptions raw allowed base (some line)).result = .ok m) : m.TypedFor names := by
  obtain ⟨values, -, hupdated⟩ := applyOptions_eq_ok.mp h
  exact hbase.updated hnodup hupdated

/-- An option part that is read, or left out, gives the allowed names values of their types. -/
theorem typedFor_of_readOptionPart {part : Text} {allowed : List OptionName} {line : Line}
    {m : OptionMap} (hnodup : allowed.Nodup)
    (h : (readOptionPart part allowed line).result = .ok m) : m.TypedFor allowed := by
  rcases readOptionPart_eq_ok.mp h with ⟨-, rfl⟩ | ⟨-, -, hread⟩
  · exact OptionMap.typedFor_ofNames hnodup
  · obtain ⟨raw, -, happly⟩ := readOptions_eq_ok.mp hread
    exact typedFor_of_applyOptions hnodup (OptionMap.typedFor_ofNames hnodup) happly

/-- A line of global options keeps the names of a map and gives values of the declared types. -/
theorem typedFor_of_readGlobalOptions {base m : OptionMap} {line : Line}
    (hbase : base.TypedFor OptionName.ofDiagram)
    (h : (readGlobalOptions base line).result = .ok m) : m.TypedFor OptionName.ofDiagram := by
  obtain ⟨raw, -, happly⟩ := readGlobalOptions_eq_ok.mp h
  exact typedFor_of_applyOptions OptionMap.nodup_ofDiagram hbase happly

end ErDiagram

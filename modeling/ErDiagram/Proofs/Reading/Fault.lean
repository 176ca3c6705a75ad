import ErDiagram.Proofs.Reading.Block
import ErDiagram.Proofs.Reading.OptionList

set_option autoImplicit false

/-!
# What a reading blames

A reader that fails blames a line that it was given, and never an option map: the values that it lays
over a map are of the declared types.  Among the causes, some contradict the kind of a line: text in
front of the first part, an entity part without its brackets, and a wrong number of relationship
lines.  Only the first part of a reader of entity or relationship lines can have such a cause.
-/

namespace ErDiagram

/-- The cause contradicts the kind of the line that it is about. -/
def Cause.isMisfit : Cause → Bool
  | .textBefore _ _ _ => true
  | .invalidBrackets part _ =>
    part == .entityName || part == .firstEntityName || part == .secondEntityName
  | .relationshipLineCount => true
  | _ => false

/-- The fault is a cause on one of the lines, and contradicts no kind. -/
def ReadFault.IsOn (lines : List Line) (fault : ReadFault) : Prop :=
  ∃ cause, ∃ line ∈ lines, fault = .cause cause (some line) ∧ cause.isMisfit = false

namespace Reading

variable {α β : Type} {lines : List Line} {line : Line}

/-- Every fault is on one of the lines, and contradicts no kind. -/
def Blames (lines : List Line) (r : Reading α) : Prop :=
  ∀ fault, r.result = .error fault → fault.IsOn lines

theorem blames_pure (lines : List Line) (a : α) : Blames lines (pure a : Reading α) := by
  intro fault h
  cases h

theorem Blames.bind {r : Reading α} {next : α → Reading β} (h : Blames lines r)
    (hnext : ∀ a, r.result = .ok a → Blames lines (next a)) : Blames lines (r >>= next) := by
  intro fault hfault
  rw [bind_result] at hfault
  cases hr : r.result with
  | error first =>
    rw [hr, Except.error.injEq] at hfault
    exact hfault ▸ h first hr
  | ok a =>
    rw [hr] at hfault
    exact hnext a hr fault hfault

theorem blames_on {x : Except Cause α} (hline : line ∈ lines)
    (h : ∀ cause, x = .error cause → cause.isMisfit = false) :
    Blames lines (on (some line) x) := by
  intro fault hfault
  rw [on_result] at hfault
  cases hx : x with
  | error cause =>
    rw [hx, Except.error.injEq] at hfault
    exact ⟨cause, line, hline, hfault.symm, h cause hx⟩
  | ok a =>
    rw [hx] at hfault
    cases hfault

theorem blames_refuse {cause : Option Cause} (hline : line ∈ lines)
    (h : ∀ c, cause = some c → c.isMisfit = false) : Blames lines (refuse (some line) cause) := by
  intro fault hfault
  cases cause with
  | none => cases hfault
  | some c =>
    obtain rfl := Except.error.inj hfault
    exact ⟨c, line, hline, rfl, h c rfl⟩

end Reading

open Reading (Blames blames_pure blames_on blames_refuse)

/-! ## Option lists -/

theorem fits_of_readRawValue {t : Text} {cause : Cause} (h : readRawValue t = .error cause) :
    cause.isMisfit = false := by
  unfold readRawValue at h
  split at h
  · cases h
  · split at h
    · cases h
      rfl
    · cases h

theorem fits_of_readOptionPair {pair : Text} {cause : Cause} (h : readOptionPair pair = .error cause) :
    cause.isMisfit = false := by
  unfold readOptionPair at h
  split at h
  · rename_i nameText valueText hpieces
    simp only at h
    split at h
    · cases h
      rfl
    · split at h
      · cases h
        rfl
      · cases hvalue : readRawValue valueText with
        | ok value =>
          rw [hvalue] at h
          cases h
        | error c =>
          rw [hvalue] at h
          cases h
          exact fits_of_readRawValue hvalue
  · cases h
    rfl
  · cases h
    rfl

theorem fits_of_readOptionPairs {pairs : List Text} {cause : Cause} :
    ∀ {before : List (Text × Text)} {index : Nat},
      readOptionPairs before index pairs = .error cause → cause.isMisfit = false := by
  induction pairs with
  | nil =>
    intro before index h
    cases h
  | cons pair rest ih =>
    intro before index h
    rw [readOptionPairs] at h
    split at h
    · cases h
      rfl
    · split at h
      · rename_i c hpair
        cases h
        exact fits_of_readOptionPair hpair
      · split at h
        · cases h
          rfl
        · exact ih h

theorem fits_of_readOptionList {t : Text} {cause : Cause} (h : readOptionList t = .error cause) :
    cause.isMisfit = false :=
  fits_of_readOptionPairs h

/-- A raw value is read as a value of the type that the name declares. -/
theorem type_of_read {name : OptionName} {t : Text} {value : OptionValue}
    (h : name.read t = .ok (some value)) : value.type = name.type := by
  cases name with
  | title | linkFiles | mark | n1 | n2 =>
    cases h
    rfl
  | titleSize =>
    obtain ⟨number, -, hvalue⟩ := Except.map_eq_ok_iff.mp h
    obtain ⟨n, -, rfl⟩ := Option.map_eq_some_iff.mp hvalue
    rfl
  | color =>
    obtain ⟨c, -, hvalue⟩ := Except.map_eq_ok_iff.mp h
    cases hvalue
    rfl
  | verbReverse =>
    obtain ⟨b, -, hvalue⟩ := Except.map_eq_ok_iff.mp h
    cases hvalue
    rfl

/-- The values of some names are of their types, or one of them cannot be read. -/
theorem readValues_cases (raw : List (Text × Text)) (names : List OptionName) :
    (∃ values, readValues raw names = .ok values ∧
        ∀ e ∈ values, e.1 ∈ names ∧ e.2.type = e.1.type) ∨
      ∃ name t, readValues raw names = .error (.invalidOptionValue name t) := by
  induction names with
  | nil => exact .inl ⟨[], rfl, by simp⟩
  | cons name rest ih =>
    have hrest : (∃ values, readValues raw rest = .ok values ∧
        ∀ e ∈ values, e.1 ∈ name :: rest ∧ e.2.type = e.1.type) ∨
          ∃ name t, readValues raw rest = .error (.invalidOptionValue name t) := by
      refine ih.imp_left ?_
      rintro ⟨values, heq, hvalues⟩
      exact ⟨values, heq, fun e he => ⟨List.mem_cons_of_mem _ (hvalues e he).1, (hvalues e he).2⟩⟩
    cases hraw : raw.lookup name.key with
    | none => simpa only [readValues, hraw] using hrest
    | some t =>
      cases hread : name.read t with
      | error fault => exact .inr ⟨name, t, by simp only [readValues, hraw, hread]⟩
      | ok read =>
        cases read with
        | none => simpa only [readValues, hraw, hread] using hrest
        | some value =>
          simp only [readValues, hraw, hread]
          rcases hrest with ⟨values, heq, hvalues⟩ | ⟨other, s, heq⟩
          · rw [heq]
            exact .inl ⟨(name, value) :: values, rfl, List.forall_mem_cons.mpr
              ⟨⟨List.mem_cons_self, type_of_read hread⟩, hvalues⟩⟩
          · rw [heq]
            exact .inr ⟨other, s, rfl⟩

/-- Laying raw values over a map of declared types fails only where a value cannot be read. -/
theorem blames_applyOptions {raw : List (Text × Text)} {allowed : List OptionName}
    {base : OptionMap} {line : Line} {lines : List Line} (hnodup : allowed.Nodup)
    (hbase : base.TypedFor allowed) (hline : line ∈ lines) :
    Blames lines (applyOptions raw allowed base (some line)) := by
  have hdistinct : distinctNames allowed = allowed := OptionMap.names_ofNames hnodup
  refine Blames.bind ?_ fun _ _ => Blames.bind (blames_on hline ?_) ?_
  · intro fault hfault
    rw [recordIgnored_result] at hfault
    cases hfault
  · intro cause hcause
    rcases readValues_cases raw (distinctNames allowed) with ⟨values, heq, -⟩ | ⟨name, t, heq⟩
    · rw [heq] at hcause
      cases hcause
    · rw [heq] at hcause
      cases hcause
      rfl
  · intro values hvalues fault hfault
    rw [Reading.on_eq_ok] at hvalues
    have htyped : ∀ e ∈ values, e.1 ∈ allowed ∧ e.2.type = e.1.type := by
      rcases readValues_cases raw (distinctNames allowed) with ⟨values', heq, htyped⟩ | ⟨name, t, heq⟩
      · rw [heq] at hvalues
        obtain rfl := Except.ok.inj hvalues
        exact hdistinct ▸ htyped
      · rw [heq] at hvalues
        cases hvalues
    rw [layValues_eq_ok.mpr (hbase.updated_values hnodup htyped)] at hfault
    cases hfault

theorem blames_readOptions {t : Text} {allowed : List OptionName} {line : Line}
    {lines : List Line} (hnodup : allowed.Nodup) (hline : line ∈ lines) :
    Blames lines (readOptions t allowed (some line)) :=
  Blames.bind (blames_on hline fun _ => fits_of_readOptionList) fun _ _ =>
    blames_applyOptions hnodup (OptionMap.typedFor_ofNames hnodup) hline

theorem blames_readGlobalOptions {base : OptionMap} {line : Line} {lines : List Line}
    (hbase : base.TypedFor OptionName.ofDiagram) (hline : line ∈ lines) :
    Blames lines (readGlobalOptions base line) :=
  Blames.bind (blames_on hline fun _ => fits_of_readOptionList) fun _ _ =>
    blames_applyOptions OptionMap.nodup_ofDiagram hbase hline

/-! ## Parts -/

theorem blames_readOptionPart {part : Text} {allowed : List OptionName} {line : Line}
    {lines : List Line} (hnodup : allowed.Nodup) (hline : line ∈ lines) :
    Blames lines (readOptionPart part allowed line) := by
  unfold readOptionPart
  split
  · exact blames_pure lines _
  · split
    · intro fault hfault
      obtain rfl := Except.error.inj hfault
      exact ⟨_, line, hline, rfl, rfl⟩
    · exact blames_readOptions hnodup hline

theorem fits_of_refuseGap {gap : Text} {cause : Text → Cause} (hcause : ∀ t, (cause t).isMisfit = false)
    {c : Cause} (h : refuseGap gap cause = .error c) : c.isMisfit = false := by
  unfold refuseGap at h
  split at h
  · cases h
  · cases h
    exact hcause gap

/-- A part in entity brackets can only be wrong in its name. -/
theorem fits_of_readEntityPart {part : Text} {role : Part}
    (henclosed : isEnclosed part Bracket.entity = true) {cause : Cause}
    (h : readEntityPart part role = .error cause) : cause.isMisfit = false := by
  unfold readEntityPart at h
  rw [henclosed] at h
  simp only [Bool.not_true, Bool.false_eq_true, if_false] at h
  cases hname : readEntityName (stripBrackets part Bracket.entity) with
  | ok name =>
    rw [hname] at h
    cases h
  | error c =>
    rw [hname] at h
    cases h
    simp only [readEntityName] at hname
    split at hname
    · cases hname
      rfl
    · cases hname

theorem fits_of_readAttributeName {t : Text} {cause : Cause} (h : readAttributeName t = .error cause) :
    cause.isMisfit = false := by
  dsimp only [readAttributeName] at h
  generalize Quoting.unquote _ = name at h
  split at h
  · cases h
    rfl
  · cases h

theorem fits_of_readEnd {c : Char} {cause : Cause} (h : readEnd c = .error cause) :
    cause.isMisfit = false := by
  unfold readEnd at h
  split at h
  all_goals cases h
  rfl

theorem fits_of_readCardinality {t : Text} {cause : Cause} (h : readCardinality t = .error cause) :
    cause.isMisfit = false := by
  unfold readCardinality at h
  split at h
  · cases h
    rfl
  · split at h
    · rename_i c hfirst
      cases h
      exact fits_of_readEnd hfirst
    · split at h
      · rename_i c hsecond
        cases h
        exact fits_of_readEnd hsecond
      · split at h
        · cases h
          rfl
        · cases h
  · cases h
    rfl

theorem fits_of_readVerbPart {t : Text} {cause : Cause} (h : readVerbPart t = .error cause) :
    cause.isMisfit = false := by
  have hname : ∀ {direction : Direction} {s : Text} {c : Cause},
      namePhrase direction s = .error c → c.isMisfit = false := by
    intro direction s c hphrase
    simp only [namePhrase] at hphrase
    split at hphrase
    · cases hphrase
      rfl
    · cases hphrase
  unfold readVerbPart at h
  split at h
  · cases h
  · split at h
    · cases h
      rfl
    · simp only [readVerbPhrase] at h
      split at h
      · cases h
        rfl
      · exact hname h
      · exact hname h
      · exact hname h

theorem fits_of_dependencyCause {c1 c2 : Count} {d1 d2 : Dependency} {cause : Cause}
    (h : dependencyCause c1 c2 d1 d2 = some cause) : cause.isMisfit = false := by
  simp only [dependencyCause] at h
  generalize (d1 == Dependency.dependent) = dependent1 at h
  generalize (d2 == Dependency.dependent) = dependent2 at h
  revert h
  cases c1 <;> cases c2 <;> cases dependent1 <;> cases dependent2 <;> simp <;> rintro rfl <;> rfl

end ErDiagram

import ErDiagram.Proofs.Notation.Field
import ErDiagram.Proofs.Number.Numeral
import ErDiagram.Reading.Part

set_option autoImplicit false

/-!
# Writing options

An option is written as its spelling and its value around a colon.  A text is written between double
quotes, so that it may hold every character but the double quote; a number, a flag and a color are
words and need no quotes.  What is written is read back as it was.
-/

namespace ErDiagram

open Quoting (Hides IsMarks isWord enquote)

/-! ## Values -/

namespace OptionValue

/-- The value can be written: a text holds no double quote, and a number keeps to the limit. -/
def Writable : OptionValue → Prop
  | .text t => Quoting.quote ∉ t
  | .whole n => (Text.ofNat n.natAbs).length ≤ Numeral.digitLimit
  | .flag _ => True
  | .color _ => True

instance (v : OptionValue) : Decidable v.Writable :=
  match v with
  | .text t => inferInstanceAs (Decidable (Quoting.quote ∉ t))
  | .whole n => inferInstanceAs (Decidable ((Text.ofNat n.natAbs).length ≤ Numeral.digitLimit))
  | .flag _ => isTrue trivial
  | .color _ => isTrue trivial

/-- The value as raw text. -/
def raw : OptionValue → Text
  | .text t => t
  | .whole n => Text.ofInt n
  | .flag true => "true".toList
  | .flag false => "false".toList
  | .color c => c.name

/-- The value as it is written in a document. -/
def written (v : OptionValue) : Text :=
  match v with
  | .text t => enquote t
  | _ => v.raw

theorem isWord_ofInt (n : Int) : ∀ c ∈ Text.ofInt n, isWord c = true := by
  have hdigit : ∀ m, ∀ c ∈ Text.ofNat m, isWord c = true := by
    intro m c hc
    have := Numeral.isPlain_ofNat m c hc
    simp [isWord, Char.isAlphanum, this]
  cases n with
  | ofNat m => exact hdigit m
  | negSucc m =>
    intro c hc
    rcases List.mem_cons.mp hc with rfl | hrest
    · decide
    · exact hdigit (m + 1) c hrest

/-- A value that is no text is written as a word. -/
theorem isWord_raw {v : OptionValue} (h : v.type ≠ .text) : ∀ c ∈ v.raw, isWord c = true := by
  cases v with
  | text t => exact absurd rfl h
  | whole n => exact isWord_ofInt n
  | flag b => exact List.all_eq_true.mp (by cases b <;> rfl)
  | color c => exact List.all_eq_true.mp (by cases c <;> rfl)

theorem raw_ne_nil {v : OptionValue} (h : v.type ≠ .text) : v.raw ≠ [] := by
  cases v with
  | text t => exact absurd rfl h
  | whole n =>
    cases n with
    | ofNat m => exact Nat.toDigits_ne_nil
    | negSucc m => exact List.cons_ne_nil _ _
  | flag b => cases b <;> decide
  | color c => cases c <;> decide

theorem written_eq_raw {v : OptionValue} (h : v.type ≠ .text) : v.written = v.raw := by
  cases v with
  | text t => exact absurd rfl h
  | whole n => rfl
  | flag b => rfl
  | color c => rfl

theorem type_ne_text_or (v : OptionValue) : v.type ≠ .text ∨ ∃ t, v = .text t := by
  cases v with
  | text t => exact .inr ⟨t, rfl⟩
  | _ => exact .inl (by simp [type])

variable {p : Char → Bool} {v : OptionValue}

theorem hides_written (hp : IsMarks p) (hv : v.Writable) : Hides p v.written := by
  rcases v.type_ne_text_or with htype | ⟨t, rfl⟩
  · rw [written_eq_raw htype]
    exact Quoting.hides_word hp (isWord_raw htype)
  · exact Quoting.hides_enquote hp.quote hv

theorem trimmed_written (hp : IsMarks p) (v : OptionValue) : Text.Trimmed p v.written := by
  rcases v.type_ne_text_or with htype | ⟨t, rfl⟩
  · rw [written_eq_raw htype]
    exact Quoting.trimmed_word hp (isWord_raw htype)
  · exact Quoting.trimmed_enquote hp.quote t

theorem written_ne_nil (v : OptionValue) : v.written ≠ [] := by
  rcases v.type_ne_text_or with htype | ⟨t, rfl⟩
  · rw [written_eq_raw htype]
    exact raw_ne_nil htype
  · exact Quoting.enquote_ne_nil t

/-! ## Reading values back -/

/-- Each character that may not stand unquoted in an option is a mark. -/
theorem isMarks_of_mem {c : Char} (h : c ∈ optionInvalidChars) : IsMarks (· == c) := by
  have hall : (optionInvalidChars.all fun d => d != Quoting.quote && !isWord d) = true := by decide
  have hc := List.all_eq_true.mp hall c h
  simp only [Bool.and_eq_true, bne_iff_ne, Bool.not_eq_true'] at hc
  exact Quoting.isMarks_beq hc.1 hc.2

theorem readRawValue_written (v : OptionValue) : readRawValue v.written = .ok v.raw := by
  rcases v.type_ne_text_or with htype | ⟨t, rfl⟩
  · rw [written_eq_raw htype]
    have hhead : v.raw.startsWith Quoting.quote = false := by
      rw [Text.startsWith, beq_eq_false_iff_ne]
      intro hquote
      exact absurd (isWord_raw htype _ (List.mem_of_head? hquote)) (by decide)
    have hnot : Quoting.isQuoted v.raw = false := by
      rw [Quoting.isQuoted, hhead, Bool.and_false, Bool.false_and]
    have hnone : Quoting.firstChar? v.raw optionInvalidChars = none :=
      Quoting.firstChar?_of_hides fun c hc =>
        Quoting.hides_word (isMarks_of_mem hc) (isWord_raw htype)
    simp [readRawValue, hnot, hnone]
  · have hquoted : Quoting.isQuoted (written (.text t)) = true := Quoting.isQuoted_enquote t
    rw [readRawValue, if_pos hquoted]
    exact congrArg Except.ok (Quoting.unquote_enquote t)

/-- A raw value is read as the value that it was. -/
theorem read_raw {name : OptionName} (htype : v.type = name.type) (hv : v.Writable) :
    name.read v.raw = .ok (some v) := by
  unfold OptionName.read
  rw [← htype]
  cases v with
  | text t => rfl
  | whole n =>
    have hraw : raw (.whole n) = Text.ofInt n := rfl
    have hne : (Text.ofInt n).isEmpty = false :=
      List.isEmpty_eq_false_iff.mpr (@raw_ne_nil (.whole n) (by simp [type]))
    simp only [type, hraw, readWhole, hne, Numeral.read_ofInt hv]
    rfl
  | flag b => cases b <;> rfl
  | color c => cases c <;> rfl

end OptionValue

/-! ## Options -/

/-- An option with a value that can be written for it. -/
structure WrittenOption where
  name : OptionName
  value : OptionValue
  typed : value.type = name.type
  writable : value.Writable

namespace WrittenOption

/-- The option as it is written in a list. -/
def written (s : WrittenOption) : Text :=
  Text.join [optionAssignment, ' '] [s.name.spelling, s.value.written]

theorem isWord_spelling (name : OptionName) : ∀ c ∈ name.spelling, isWord c = true :=
  List.all_eq_true.mp (by cases name <;> rfl)

theorem spelling_ne_nil (name : OptionName) : name.spelling ≠ [] := by
  cases name <;> decide

theorem isWord_key (name : OptionName) : ∀ c ∈ name.key, isWord c = true :=
  List.all_eq_true.mp (by cases name <;> rfl)

theorem key_ne_nil (name : OptionName) : name.key ≠ [] := by
  cases name <;> decide

theorem key_injective {name other : OptionName} (h : name.key = other.key) : name = other := by
  cases name <;> cases other <;> first | rfl | exact absurd h (by decide)

variable {p : Char → Bool}

theorem hides_written (hp : IsMarks p) (hassignment : p optionAssignment = false)
    (hblank : p ' ' = false) (s : WrittenOption) : Hides p s.written := by
  refine (Quoting.hides_separator (by decide) hassignment hblank).join ?_
  simp only [List.forall_mem_cons]
  exact ⟨Quoting.hides_word hp (isWord_spelling s.name), OptionValue.hides_written hp s.writable,
    by simp⟩

theorem trimmed_written (hp : IsMarks p) (s : WrittenOption) :
    Text.Trimmed p s.written ∧ s.written ≠ [] := by
  have hparts : ∀ t ∈ [s.name.spelling, s.value.written], t ≠ [] ∧ Text.Trimmed p t := by
    simp only [List.forall_mem_cons]
    exact ⟨⟨spelling_ne_nil s.name, Quoting.trimmed_word hp (isWord_spelling s.name)⟩,
      ⟨s.value.written_ne_nil, s.value.trimmed_written hp⟩, by simp⟩
  obtain ⟨htrimmed, hne⟩ := Text.trimmed_join hparts
  exact ⟨htrimmed, hne (List.cons_ne_nil _ _)⟩

/-- A written option is read as its key and its raw value. -/
theorem readOptionPair_written (s : WrittenOption) :
    readOptionPair s.written = .ok (s.name.key, s.value.raw) := by
  have hassignment : IsMarks (· == optionAssignment) := Quoting.isMarks_beq (by decide) (by decide)
  have hpieces : Quoting.pieces s.written optionAssignment = [s.name.spelling, s.value.written] := by
    refine Quoting.pieces_join (by decide) (by decide) ?_
    simp only [List.forall_mem_cons]
    exact ⟨⟨spelling_ne_nil s.name,
        Quoting.trimmed_word Quoting.isMarks_isBlank (isWord_spelling s.name),
        Quoting.hides_word hassignment (isWord_spelling s.name)⟩,
      ⟨s.value.written_ne_nil, s.value.trimmed_written Quoting.isMarks_isBlank,
        OptionValue.hides_written hassignment s.writable⟩, by simp⟩
  have hkey : s.name.key.isEmpty = false := List.isEmpty_eq_false_iff.mpr (key_ne_nil s.name)
  have hvalid : Quoting.firstChar? s.name.key optionInvalidChars = none :=
    Quoting.firstChar?_of_hides fun c hc =>
      Quoting.hides_word (OptionValue.isMarks_of_mem hc) (isWord_key s.name)
  have hupper : Text.upper s.name.spelling = s.name.key := rfl
  simp only [readOptionPair, hpieces, hupper, hkey, hvalid, OptionValue.readRawValue_written]
  rfl

end WrittenOption

end ErDiagram

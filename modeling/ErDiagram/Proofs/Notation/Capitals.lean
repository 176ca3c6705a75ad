import ErDiagram.Proofs.Notation.Position
import ErDiagram.Text.Case

set_option autoImplicit false

/-!
# Capitals show the same marks

Upper case leaves a mark of ASCII as it is, and makes nothing but letters and characters outside ASCII
out of any other character that it changes.  So a search for a mark finds nothing in a text exactly if
it finds nothing in the text in capitals.
-/

namespace ErDiagram

open Quoting (isWord quote after afterChar findFrom)

namespace Text

/-- The character is a mark of ASCII: neither a letter nor a digit nor a dash. -/
structure IsMark (m : Char) : Prop where
  ascii : m.toNat < 128
  not_word : isWord m = false

instance (m : Char) : Decidable (IsMark m) :=
  decidable_of_iff (m.toNat < 128 ∧ isWord m = false) ⟨fun h => ⟨h.1, h.2⟩, fun h => ⟨h.1, h.2⟩⟩

theorem isMark_quote : IsMark quote := by decide

/-! ## One character -/

/-- In ASCII, upper case changes a character into a letter or not at all. -/
theorem toUpper_cases {c : Char} (h : c.toNat < 128) :
    c.toUpper = c ∨ isWord c = true ∧ isWord c.toUpper = true := by
  have hall : ∀ n : Fin 128, (Char.ofNat n).toUpper = Char.ofNat n ∨
      isWord (Char.ofNat n) = true ∧ isWord (Char.ofNat n).toUpper = true := by decide +kernel
  have hc := hall ⟨c.toNat, h⟩
  rwa [Char.ofNat_toNat] at hc

theorem toNat_ofNat {n : Nat} (h : n.isValidChar) : (Char.ofNat n).toNat = n := by
  rw [Char.ofNat, dif_pos h]
  rfl

/-- A capital letter of ASCII, or a character outside ASCII. -/
def IsCapitalCode (n : Nat) : Prop := n.isValidChar ∧ (128 ≤ n ∨ 65 ≤ n ∧ n ≤ 90)

instance (n : Nat) : Decidable (IsCapitalCode n) :=
  inferInstanceAs (Decidable (n.isValidChar ∧ (128 ≤ n ∨ 65 ≤ n ∧ n ≤ 90)))

/-- The codes that upper case maps to outside ASCII are capitals. -/
theorem isCapitalCode_special :
    ∀ entry ∈ CaseData.upperSpecial, ∀ n ∈ entry.2, IsCapitalCode n := by decide +kernel

theorem isCapitalCode_target {run : CaseData.Run} (hrun : run ∈ CaseData.upperRuns) {n : Nat}
    (hcovers : run.covers n = true) : IsCapitalCode (run.target n) := by
  -- the codes of a run lie between the targets of its ends
  have hends : ∀ run ∈ CaseData.upperRuns,
      (128 ≤ run.first + run.shift ∨ 65 ≤ run.first + run.shift ∧ run.last + run.shift ≤ 90) ∧
        (run.last + run.shift < 0xD800 ∨
          0xDFFF < run.first + run.shift ∧ run.last + run.shift < 0x110000) := by decide +kernel
  obtain ⟨hcode, hvalid⟩ := hends run hrun
  simp only [CaseData.Run.covers, Bool.and_eq_true, decide_eq_true_eq] at hcovers
  obtain ⟨⟨hfirst, hlast⟩, -⟩ := hcovers
  rw [IsCapitalCode, Nat.isValidChar, CaseData.Run.target, Int.ofNat_eq_natCast]
  omega

theorem not_isMark_ofNat {n : Nat} (h : IsCapitalCode n) : ¬ IsMark (Char.ofNat n) := by
  rintro ⟨hascii, hword⟩
  obtain ⟨hvalid, hcode⟩ := h
  have hcapitals : ∀ k : Fin 26, isWord (Char.ofNat (65 + k)) = true := by decide
  rw [toNat_ofNat hvalid] at hascii
  have hn := hcapitals ⟨n - 65, by omega⟩
  rw [show 65 + (n - 65) = n by omega, hword] at hn
  cases hn

/-- Upper case leaves a character as it is, or makes it something without marks, and then the character
is no mark itself. -/
theorem upperChar_cases (c : Char) :
    upperChar c = [c] ∨ ¬ IsMark c ∧ ∀ d ∈ upperChar c, ¬ IsMark d := by
  rw [upperChar]
  split
  · rename_i hascii
    rcases toUpper_cases hascii with hsame | ⟨hword, hupper⟩
    · rw [hsame]
      exact .inl rfl
    · refine .inr ⟨fun hmark => ?_, fun d hd => ?_⟩
      · rw [hmark.not_word] at hword
        cases hword
      · rw [List.mem_singleton.mp hd]
        intro hmark
        rw [hmark.not_word] at hupper
        cases hupper
  · rename_i hascii
    have houtside : ¬ IsMark c := fun hmark => hascii hmark.ascii
    rw [mapByData]
    split
    · rename_i n codes hfind
      have hcodes := isCapitalCode_special _ (List.mem_of_find?_eq_some hfind)
      refine .inr ⟨houtside, fun d hd => ?_⟩
      obtain ⟨code, hcode, rfl⟩ := List.mem_map.mp hd
      exact not_isMark_ofNat (hcodes code hcode)
    · split
      · rename_i run hfind
        refine .inr ⟨houtside, fun d hd => ?_⟩
        rw [List.mem_singleton.mp hd]
        exact not_isMark_ofNat
          (isCapitalCode_target (List.mem_of_find?_eq_some hfind) (by simpa using List.find?_some hfind))
      · exact .inl rfl

end Text

/-! ## Searching -/

namespace Quoting

/-- A mark is found in capitals exactly if it is found in the text. -/
theorem findFrom_upper {m : Char} (hm : Text.IsMark m) (t : Text) : ∀ quoted,
    findFrom (· == m) quoted (Text.upper t) = none ↔ findFrom (· == m) quoted t = none := by
  induction t with
  | nil => exact fun _ => Iff.rfl
  | cons c cs ih =>
    intro quoted
    have hcons : Text.upper (c :: cs) = Text.upperChar c ++ Text.upper cs := rfl
    rw [hcons]
    rcases Text.upperChar_cases c with hsame | ⟨hc, hmarks⟩
    · rw [hsame, List.singleton_append, findFrom, findFrom]
      split
      · exact Iff.rfl
      · rw [Option.map_eq_none_iff, Option.map_eq_none_iff]
        exact ih _
    · have hother : ∀ d, ¬ Text.IsMark d → d ≠ quote ∧ (d == m) = false := by
        intro d hd
        refine ⟨?_, beq_false_of_ne ?_⟩
        · rintro rfl
          exact hd Text.isMark_quote
        · rintro rfl
          exact hd hm
      have hpassed : findFrom (· == m) quoted (Text.upperChar c) = none := by
        refine (findFrom_eq_none_iff _ _ quoted).mpr fun n d hd _ => ?_
        exact (hother d (hmarks d (List.mem_of_getElem? hd))).2
      have hquotes : quote ∉ Text.upperChar c := fun hmem => (hother _ (hmarks _ hmem)).1 rfl
      rw [findFrom_append, hpassed, after_of_not_mem hquotes, Option.none_or,
        Option.map_eq_none_iff, ih, findFrom, (hother c hc).2, afterChar, if_neg (hother c hc).1]
      simp

end Quoting

end ErDiagram

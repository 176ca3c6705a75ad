import ErDiagram.Proofs.Dot.Scan

set_option autoImplicit false

/-!
# What escaping does to a quoted value

A value is put together from pieces, and each of them decides for itself whether it lets the value
close where it is meant to.  The passes of a quoted text escape every double quote and every
backslash, so such a text always does.  The passes of a label escape the backslash and leave the
double quote as it is, so a label does exactly if its text holds no double quote.
-/

namespace ErDiagram.Dot

variable {s t rest : Text} {P Q : Prop}

/-! ## Pieces of a value -/

/-- Whatever follows the piece, the two of them close exactly if the condition holds and what follows
closes. -/
def ClosesIf (piece : Text) (P : Prop) : Prop :=
  ∀ rest, closes (piece ++ rest) = true ↔ P ∧ closes rest = true

theorem ClosesIf.closes_iff (h : ClosesIf s P) : closes s = true ↔ P := by
  simpa using h []

theorem ClosesIf.congr (h : ClosesIf s P) (hiff : P ↔ Q) : ClosesIf s Q :=
  fun rest => (h rest).trans (and_congr_left' hiff)

theorem closesIf_nil : ClosesIf [] True := fun _ => by simp

theorem ClosesIf.append (hs : ClosesIf s P) (ht : ClosesIf t Q) : ClosesIf (s ++ t) (P ∧ Q) := by
  intro rest
  rw [List.append_assoc, hs, ht, and_assoc]

/-- The character means nothing special in a quoted value. -/
def isPlain (c : Char) : Bool := c != Quoting.quote && c != escapeMark

/-- A piece without a double quote and a backslash leaves it to the rest. -/
theorem closesIf_plain (h : s.all isPlain = true) : ClosesIf s True := by
  induction s with
  | nil => exact closesIf_nil
  | cons c cs ih =>
    rw [List.all_cons, Bool.and_eq_true, isPlain, Bool.and_eq_true] at h
    obtain ⟨⟨hquote, hescape⟩, hcs⟩ := h
    intro rest
    rw [List.cons_append, closes_cons, hquote, beq_false_of_ne (bne_iff_ne.mp hescape),
      Bool.true_and]
    exact ih hcs rest

/-- Pieces between plain separators close exactly if each of them does. -/
theorem ClosesIf.join {α : Type} {separator : Text} (hseparator : ClosesIf separator True)
    {write : α → Text} {P : α → Prop} {list : List α} (h : ∀ a ∈ list, ClosesIf (write a) (P a)) :
    ClosesIf (Text.join separator (list.map write)) (∀ a ∈ list, P a) := by
  induction list with
  | nil => exact closesIf_nil.congr (by simp)
  | cons a others ih =>
    obtain ⟨ha, hothers⟩ := List.forall_mem_cons.mp h
    cases others with
    | nil =>
      rw [List.map_singleton, Text.join_singleton]
      exact ha.congr (by simp)
    | cons b others =>
      rw [List.map_cons, List.map_cons, Text.join_cons_cons, ← List.map_cons]
      refine (ha.append (hseparator.append (ih hothers))).congr ?_
      rw [List.forall_mem_cons (a := a), true_and]

/-! ## Passes -/

variable {passes : List (Char × Text)}

theorem runPasses_append (passes : List (Char × Text)) :
    ∀ s t, runPasses passes (s ++ t) = runPasses passes s ++ runPasses passes t := by
  induction passes with
  | nil => exact fun _ _ => rfl
  | cons pass others ih =>
    intro s t
    simp only [runPasses, List.foldl_cons] at ih ⊢
    rw [Text.replaceChar, List.flatMap_append, ih]
    rfl

@[simp] theorem runPasses_nil (passes : List (Char × Text)) : runPasses passes [] = [] := by
  induction passes with
  | nil => rfl
  | cons pass others ih => exact ih

/-- A character that no pass escapes stays as it is. -/
theorem runPasses_singleton {c : Char} (h : c ∉ passes.map (·.1)) : runPasses passes [c] = [c] := by
  induction passes with
  | nil => rfl
  | cons pass others ih =>
    rw [List.map_cons, List.mem_cons, not_or] at h
    have hkept : Text.replaceChar pass.1 pass.2 [c] = [c] := by
      simp [Text.replaceChar, h.1]
    exact (congrArg (runPasses others) hkept).trans (ih h.2)

/-- No pass writes a character that neither the text nor any of the replacements holds. -/
theorem not_mem_runPasses {c : Char} (hpasses : ∀ pass ∈ passes, c ∉ pass.2) (ht : c ∉ t) :
    c ∉ runPasses passes t := by
  induction passes generalizing t with
  | nil => exact ht
  | cons pass others ih =>
    obtain ⟨hpass, hothers⟩ := List.forall_mem_cons.mp hpasses
    refine ih hothers ?_
    intro hc
    obtain ⟨d, hd, hmem⟩ := List.mem_flatMap.mp hc
    split at hmem
    · exact hpass hmem
    · exact ht (List.mem_singleton.mp hmem ▸ hd)

/-- What holds of each character by itself holds of the passes over a text. -/
theorem closesIf_runPasses {good : Char → Prop}
    (h : ∀ c, ClosesIf (runPasses passes [c]) (good c)) (t : Text) :
    ClosesIf (runPasses passes t) (∀ c ∈ t, good c) := by
  induction t with
  | nil =>
    rw [runPasses_nil]
    exact closesIf_nil.congr (by simp)
  | cons c cs ih =>
    have hcons : runPasses passes (c :: cs) = runPasses passes [c] ++ runPasses passes cs :=
      runPasses_append passes [c] cs
    rw [hcons]
    refine ((h c).append ih).congr ?_
    rw [List.forall_mem_cons]

theorem closesIf_escapeLabel_singleton (c : Char) :
    ClosesIf (escapeLabel [c]) (c ≠ Quoting.quote) := by
  by_cases hkey : c ∈ labelPasses.map (·.1)
  · -- what a pass writes for its character is escaped throughout
    have hquote : Quoting.quote ∉ labelPasses.map (·.1) := by decide
    have hne : c ≠ Quoting.quote := fun heq => hquote (heq ▸ hkey)
    intro rest
    rw [and_iff_right hne]
    simp only [labelPasses, List.map_cons, List.map_nil, List.mem_cons, List.not_mem_nil,
      or_false] at hkey
    rcases hkey with rfl | rfl | rfl | rfl | rfl | rfl | rfl | rfl | rfl | rfl | rfl | rfl <;> rfl
  · have hescape : c ≠ escapeMark := by
      rintro rfl
      exact hkey (by decide)
    intro rest
    rw [escapeLabel, runPasses_singleton hkey, List.singleton_append, closes_cons,
      beq_false_of_ne hescape, Bool.and_eq_true, bne_iff_ne]
    rfl

/-- A label closes exactly if its text holds no double quote. -/
theorem closesIf_escapeLabel (t : Text) : ClosesIf (escapeLabel t) (Quoting.quote ∉ t) := by
  refine (closesIf_runPasses closesIf_escapeLabel_singleton t).congr ?_
  constructor
  · exact fun h hmem => h Quoting.quote hmem rfl
  · rintro h c hc rfl
    exact h hc

theorem closesIf_quotePasses_singleton (c : Char) : ClosesIf (runPasses quotePasses [c]) True := by
  by_cases hkey : c ∈ quotePasses.map (·.1)
  · intro rest
    rw [true_and]
    simp only [quotePasses, List.map_cons, List.map_nil, List.mem_cons, List.not_mem_nil,
      or_false] at hkey
    rcases hkey with rfl | rfl <;> rfl
  · rw [runPasses_singleton hkey]
    have hquote : c ≠ Quoting.quote := by
      rintro rfl
      exact hkey (by decide)
    have hescape : c ≠ escapeMark := by
      rintro rfl
      exact hkey (by decide)
    exact closesIf_plain (by simp [isPlain, hquote, hescape])

/-- A text that is escaped between double quotes always closes. -/
theorem closes_quotePasses (t : Text) : closes (runPasses quotePasses t) = true :=
  (closesIf_runPasses closesIf_quotePasses_singleton t).closes_iff.mpr fun _ _ => trivial

end ErDiagram.Dot

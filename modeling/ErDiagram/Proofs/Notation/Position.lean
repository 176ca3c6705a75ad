import ErDiagram.Proofs.Notation.Quoting

set_option autoImplicit false

/-!
# Unquoted positions

Searches and cuts carry a flag along that says whether they are between double quotes.  What the flag
stands for is a count: a position is unquoted if an even number of double quotes stands in front of it.
A text shows a character where it holds the character at an unquoted position, and a search that fails
is a text that shows nothing of the class.
-/

namespace ErDiagram

open Quoting (after findFrom)

/-! ## Counting double quotes -/

theorem isBalanced_iff {t : Text} : Quoting.isBalanced t = true ↔ after false t = false := by
  rw [Quoting.isBalanced, Bool.not_eq_true']

/-- A position is quoted if the number of double quotes in front of it is odd. -/
theorem after_eq (t : Text) : ∀ quoted,
    after quoted t = (quoted ^^ decide (t.count Quoting.quote % 2 = 1)) := by
  induction t with
  | nil =>
    intro quoted
    simp
  | cons c cs ih =>
    intro quoted
    change after (Quoting.afterChar quoted c) cs = _
    rw [ih, List.count_cons, Quoting.afterChar]
    by_cases hquote : c = Quoting.quote
    · have hparity : decide ((cs.count Quoting.quote + 1) % 2 = 1) =
          !decide (cs.count Quoting.quote % 2 = 1) := by
        rw [← decide_not]
        exact decide_eq_decide.mpr (by omega)
      simp [hquote, hparity]
    · simp [hquote]

theorem after_eq_false_iff {t : Text} : after false t = false ↔ t.count Quoting.quote % 2 = 0 := by
  rw [after_eq, Bool.false_xor, decide_eq_false_iff_not]
  omega

theorem after_of_even {t : Text} (h : t.count Quoting.quote % 2 = 0) : after false t = false :=
  after_eq_false_iff.mpr h

namespace Quoting

/-! ## What a text shows -/

/-- An even number of double quotes stands in front of the position. -/
def IsUnquoted (t : Text) (n : Nat) : Prop := (t.take n).count quote % 2 = 0

instance (t : Text) (n : Nat) : Decidable (IsUnquoted t n) :=
  inferInstanceAs (Decidable ((t.take n).count quote % 2 = 0))

/-- The text holds the character at the position, which is unquoted. -/
def ShowsAt (t : Text) (n : Nat) (c : Char) : Prop := t[n]? = some c ∧ IsUnquoted t n

instance (t : Text) (n : Nat) (c : Char) : Decidable (ShowsAt t n c) :=
  inferInstanceAs (Decidable (t[n]? = some c ∧ IsUnquoted t n))

variable {p : Char → Bool} {s t : Text} {n : Nat} {c : Char}

theorem isUnquoted_iff : IsUnquoted t n ↔ after false (t.take n) = false :=
  after_eq_false_iff.symm

theorem showsAt_zero_cons (c : Char) (t : Text) : ShowsAt (c :: t) 0 c := ⟨rfl, rfl⟩

/-- A search fails exactly if it would stop at no position that it passes unquoted. -/
theorem findFrom_eq_none_iff (p : Char → Bool) (t : Text) : ∀ quoted,
    findFrom p quoted t = none ↔
      ∀ n c, t[n]? = some c → after quoted (t.take n) = false → p c = false := by
  induction t with
  | nil =>
    intro quoted
    simp [findFrom]
  | cons d ds ih =>
    intro quoted
    have hbehind : (∀ n c, (d :: ds)[n]? = some c → after quoted ((d :: ds).take n) = false →
          p c = false) ↔
        (quoted = false → p d = false) ∧
          ∀ n c, ds[n]? = some c → after (afterChar quoted d) (ds.take n) = false → p c = false := by
      constructor
      · intro h
        exact ⟨fun hquoted => h 0 d rfl hquoted, fun n c hc => h (n + 1) c hc⟩
      · rintro ⟨hfirst, hrest⟩ (_ | n) c hc hafter
        · cases hc
          exact hfirst hafter
        · exact hrest n c hc hafter
    rw [hbehind, ← ih, findFrom]
    cases quoted <;> cases p d <;> simp

/-- A class of which a text has no character at all is found at no position. -/
theorem findFrom_eq_none_of_forall (h : ∀ c ∈ t, p c = false) (quoted : Bool) :
    findFrom p quoted t = none :=
  (findFrom_eq_none_iff p t quoted).mpr fun _ c hc _ => h c (List.mem_of_getElem? hc)

/-- From the beginning of a text, a search fails exactly if the text shows nothing of the class. -/
theorem not_shows_iff : findFrom p false t = none ↔ ∀ n c, ShowsAt t n c → p c = false := by
  simp only [findFrom_eq_none_iff, ShowsAt, isUnquoted_iff, and_imp]

/-- A text shows a character nowhere exactly if the search for the character fails. -/
theorem not_showsAt_iff : findFrom (· == c) false t = none ↔ ∀ n, ¬ ShowsAt t n c := by
  rw [not_shows_iff]
  constructor
  · intro h n hshows
    simpa using h n c hshows
  · intro h n d hshows
    refine beq_false_of_ne ?_
    rintro rfl
    exact h n hshows

/-- Behind a text with balanced double quotes, a position is quoted as it is in the rest alone. -/
theorem isUnquoted_append (h : after false s = false) (n : Nat) :
    IsUnquoted (s ++ t) (s.length + n) ↔ IsUnquoted t n := by
  rw [isUnquoted_iff, isUnquoted_iff, List.take_length_add_append, after_append, h]

/-- What stands behind a position has no part in whether it is quoted. -/
theorem isUnquoted_append_of_le (hn : n ≤ s.length) (t : Text) :
    IsUnquoted (s ++ t) n ↔ IsUnquoted s n := by
  rw [IsUnquoted, IsUnquoted, List.take_append_of_le_length hn]

/-- In front of its end, a text shows the same whatever follows it. -/
theorem showsAt_append_left (hn : n < s.length) (t : Text) (c : Char) :
    ShowsAt (s ++ t) n c ↔ ShowsAt s n c := by
  rw [ShowsAt, ShowsAt, List.getElem?_append_left hn, isUnquoted_append_of_le hn.le]

/-- Behind a text with balanced double quotes, the rest shows what it shows alone. -/
theorem showsAt_append_right (h : after false s = false) (t : Text) (n : Nat) (c : Char) :
    ShowsAt (s ++ t) (s.length + n) c ↔ ShowsAt t n c := by
  rw [ShowsAt, ShowsAt, List.getElem?_append_right (Nat.le_add_right _ _), Nat.add_sub_cancel_left,
    isUnquoted_append h]

end Quoting

end ErDiagram

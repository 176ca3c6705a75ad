import ErDiagram.Text.Basic
import Mathlib.Data.List.Basic
import Mathlib.Data.List.TakeWhile

set_option autoImplicit false

/-!
# Stripping takes off the padding

A text that neither begins nor ends with a character of a class is what stripping leaves of it,
whatever characters of the class stand around it.
-/

namespace ErDiagram.Text

/-! ## Ends of texts -/

theorem startsWith_append {s : Text} (hs : s ≠ []) (t : Text) (c : Char) :
    (s ++ t).startsWith c = s.startsWith c := by
  rw [startsWith, List.head?_append_of_ne_nil _ hs, startsWith]

theorem endsWith_append {t : Text} (ht : t ≠ []) (s : Text) (c : Char) :
    (s ++ t).endsWith c = t.endsWith c := by
  rw [endsWith, List.getLast?_append_of_ne_nil _ ht, endsWith]

@[simp] theorem startsWith_cons (c : Char) (t : Text) (d : Char) :
    startsWith (c :: t) d = (c == d) := by
  simp [startsWith]

@[simp] theorem endsWith_concat (t : Text) (c d : Char) : endsWith (t ++ [c]) d = (c == d) := by
  simp [endsWith]

/-- The text neither begins nor ends with a character of the class. -/
structure Trimmed (p : Char → Bool) (t : Text) : Prop where
  head : ∀ c, t.head? = some c → p c = false
  last : ∀ c, t.getLast? = some c → p c = false

variable {p : Char → Bool} {s t pad : Text}

theorem trimmed_nil : Trimmed p [] :=
  ⟨by simp, by simp⟩

/-- Of two texts that are not empty, the first decides on the beginning and the second on the end. -/
theorem trimmed_append (hs : s ≠ []) (ht : t ≠ []) (hhead : ∀ c, s.head? = some c → p c = false)
    (hlast : ∀ c, t.getLast? = some c → p c = false) : Trimmed p (s ++ t) := by
  constructor
  · intro c hc
    rw [List.head?_append_of_ne_nil _ hs] at hc
    exact hhead c hc
  · intro c hc
    rw [List.getLast?_append_of_ne_nil _ ht] at hc
    exact hlast c hc

theorem stripLeftOf_eq_self (h : ∀ c, t.head? = some c → p c = false) : stripLeftOf p t = t := by
  cases t with
  | nil => rfl
  | cons c cs =>
    rw [stripLeftOf, List.dropWhile_cons, h c rfl]
    rfl

theorem stripRightOf_eq_self (h : ∀ c, t.getLast? = some c → p c = false) :
    stripRightOf p t = t := by
  have hreverse : stripLeftOf p t.reverse = t.reverse :=
    stripLeftOf_eq_self (by simpa using h)
  rw [stripRightOf]
  exact (congrArg List.reverse hreverse).trans t.reverse_reverse

theorem stripOf_eq_self (h : Trimmed p t) : stripOf p t = t := by
  rw [stripOf, stripLeftOf_eq_self h.head, stripRightOf_eq_self h.last]

@[simp] theorem strip_nil : strip [] = [] := rfl

theorem stripLeftOf_append (h : ∀ c ∈ pad, p c = true) :
    stripLeftOf p (pad ++ t) = stripLeftOf p t := by
  rw [stripLeftOf, List.dropWhile_append_of_pos h, stripLeftOf]

theorem stripRightOf_append (h : ∀ c ∈ pad, p c = true) :
    stripRightOf p (t ++ pad) = stripRightOf p t := by
  have hreverse : ∀ c ∈ pad.reverse, p c = true := by simpa using h
  rw [stripRightOf, List.reverse_append, List.dropWhile_append_of_pos hreverse, stripRightOf]

/-- Padding in front of a text is taken off. -/
theorem stripOf_pad_left (h : ∀ c ∈ pad, p c = true) : stripOf p (pad ++ t) = stripOf p t := by
  rw [stripOf, stripLeftOf_append h, stripOf]

/-- Padding behind a trimmed text is taken off. -/
theorem stripOf_pad_right (h : ∀ c ∈ pad, p c = true) (ht : Trimmed p t) :
    stripOf p (t ++ pad) = t := by
  cases t with
  | nil =>
    rw [List.nil_append, ← List.append_nil pad, stripOf_pad_left h]
    rfl
  | cons c cs =>
    have hhead : stripLeftOf p (c :: cs ++ pad) = c :: cs ++ pad :=
      stripLeftOf_eq_self fun d hd => ht.head d (by simpa using hd)
    rw [stripOf, hhead, stripRightOf_append h, stripRightOf_eq_self ht.last]

/-- Padding behind a text is taken off with the padding of the text. -/
theorem stripOf_append (h : ∀ c ∈ pad, p c = true) : stripOf p (t ++ pad) = stripOf p t := by
  have hpad : pad.dropWhile p = [] := List.dropWhile_eq_nil_iff.mpr h
  rw [stripOf, stripLeftOf, List.dropWhile_append, hpad, stripOf, stripLeftOf]
  split
  · rename_i hempty
    rw [List.isEmpty_iff] at hempty
    rw [hempty]
  · exact stripRightOf_append h

/-- A text is what stripping its end leaves, and padding. -/
theorem exists_stripRightOf_append (p : Char → Bool) (t : Text) :
    ∃ pad, t = stripRightOf p t ++ pad ∧ ∀ c ∈ pad, p c = true := by
  refine ⟨(t.reverse.takeWhile p).reverse, ?_, ?_⟩
  · rw [stripRightOf, ← List.reverse_append, List.takeWhile_append_dropWhile, List.reverse_reverse]
  · intro c hc
    rw [List.mem_reverse] at hc
    exact List.mem_takeWhile_imp hc

/-- A text is what stripping leaves between padding on both sides. -/
theorem exists_stripOf_append (p : Char → Bool) (t : Text) :
    ∃ front back, t = front ++ (stripOf p t ++ back) ∧ (∀ c ∈ front, p c = true) ∧
      ∀ c ∈ back, p c = true := by
  obtain ⟨back, hback, hblank⟩ := exists_stripRightOf_append p (stripLeftOf p t)
  refine ⟨t.takeWhile p, back, ?_, fun c hc => List.mem_takeWhile_imp hc, hblank⟩
  have hsplit : t.takeWhile p ++ stripLeftOf p t = t := List.takeWhile_append_dropWhile
  rw [stripOf, ← hback, hsplit]

theorem trimmed_stripOf (p : Char → Bool) (t : Text) : Trimmed p (stripOf p t) := by
  have hright : ∀ s : Text, ∀ c, (stripRightOf p s).getLast? = some c → p c = false := by
    intro s c hc
    rw [stripRightOf, List.getLast?_reverse] at hc
    simpa [hc] using List.head?_dropWhile_not p s.reverse
  refine ⟨?_, hright _⟩
  intro c hc
  obtain ⟨pad, hpad, -⟩ := exists_stripRightOf_append p (stripLeftOf p t)
  have hhead : (stripLeftOf p t).head? = some c := by
    rw [hpad, List.head?_append, show (stripRightOf p (stripLeftOf p t)).head? = some c from hc]
    rfl
  have := List.head?_dropWhile_not p t
  rw [show t.dropWhile p = stripLeftOf p t from rfl, hhead] at this
  simpa using this

@[simp] theorem strip_strip (t : Text) : strip (strip t) = strip t :=
  stripOf_eq_self (trimmed_stripOf isBlank t)

theorem stripOf_eq_nil_iff : stripOf p t = [] ↔ ∀ c ∈ t, p c = true := by
  constructor
  · intro h
    obtain ⟨pad, hpad, hblank⟩ := exists_stripRightOf_append p (stripLeftOf p t)
    rw [show stripRightOf p (stripLeftOf p t) = [] from h, List.nil_append] at hpad
    have hhead := List.head?_dropWhile_not p t
    rw [show t.dropWhile p = stripLeftOf p t from rfl] at hhead
    cases hleft : stripLeftOf p t with
    | nil => exact List.dropWhile_eq_nil_iff.mp hleft
    | cons c cs =>
      have hc : p c = true := hblank c (hpad ▸ hleft ▸ List.mem_cons_self)
      simp [hleft, hc] at hhead
  · intro h
    have hall := @stripOf_append p [] t h
    rwa [List.nil_append] at hall

theorem stripOf_ne_nil_iff : stripOf p t ≠ [] ↔ ∃ c ∈ t, p c = false := by
  simp only [ne_eq, stripOf_eq_nil_iff, not_forall, Bool.not_eq_true, exists_prop]

/-- From a character outside the class on, stripping takes off nothing in front of it but what stands
in front of the text. -/
theorem exists_stripOf_append_cons {c : Char} (hc : p c = false) (t s : Text) :
    ∃ rest, stripOf p (t ++ c :: s) = stripLeftOf p t ++ c :: rest := by
  have hleft : stripLeftOf p (t ++ c :: s) = stripLeftOf p t ++ c :: s := by
    rw [stripLeftOf, List.dropWhile_append, List.dropWhile_cons, hc]
    split
    · rename_i hempty
      rw [stripLeftOf, List.isEmpty_iff.mp hempty]
      rfl
    · rfl
  obtain ⟨pad, hpad, hclass⟩ := exists_stripRightOf_append p (stripLeftOf p t ++ c :: s)
  have hnot : c ∉ pad := fun hmem => by simp [hclass c hmem] at hc
  rw [stripOf, hleft]
  rcases List.append_eq_append_iff.mp hpad with ⟨kept, hkept, hrest⟩ | ⟨lost, -, hlost⟩
  · cases kept with
    | nil =>
      rw [List.nil_append] at hrest
      exact absurd (hrest ▸ List.mem_cons_self) hnot
    | cons d rest =>
      obtain ⟨rfl, -⟩ := List.cons.inj hrest
      exact ⟨rest, hkept⟩
  · rw [hlost] at hnot
    exact absurd (List.mem_append_right lost List.mem_cons_self) hnot

/-! ## Joining -/

variable {separator : Text}

@[simp] theorem join_singleton (separator t : Text) : join separator [t] = t :=
  List.intercalate_singleton

theorem join_cons_cons (separator s t : Text) (rest : List Text) :
    join separator (s :: t :: rest) = s ++ (separator ++ join separator (t :: rest)) := by
  rw [join, List.intercalate_cons_cons, List.append_assoc, join]

theorem subset_join {pieces : List Text} (h : t ∈ pieces) : t ⊆ join separator pieces := by
  induction pieces with
  | nil => cases h
  | cons piece rest ih =>
    cases rest with
    | nil =>
      rw [join_singleton, List.mem_singleton.mp h]
      exact List.Subset.refl _
    | cons next rest =>
      rw [join_cons_cons]
      rcases List.mem_cons.mp h with rfl | hrest
      · exact List.subset_append_left _ _
      · refine List.Subset.trans (ih hrest) (List.Subset.trans ?_ (List.subset_append_right _ _))
        exact List.subset_append_right _ _

/-- Joined texts are blank only if each of them is. -/
theorem strip_join_ne_nil {pieces : List Text} (h : t ∈ pieces) (hne : strip t ≠ []) :
    strip (join separator pieces) ≠ [] := by
  obtain ⟨c, hc, hblank⟩ := stripOf_ne_nil_iff.mp hne
  exact stripOf_ne_nil_iff.mpr ⟨c, subset_join h hc, hblank⟩

/-- Joined texts begin with the first and end with the last of them. -/
theorem trimmed_join {pieces : List Text} (h : ∀ t ∈ pieces, t ≠ [] ∧ Trimmed p t) :
    Trimmed p (join separator pieces) ∧ (pieces ≠ [] → join separator pieces ≠ []) := by
  induction pieces with
  | nil => exact ⟨trimmed_nil, fun hne => absurd rfl hne⟩
  | cons piece rest ih =>
    obtain ⟨hne, htrimmed⟩ := h piece List.mem_cons_self
    cases rest with
    | nil =>
      rw [join_singleton]
      exact ⟨htrimmed, fun _ => hne⟩
    | cons next rest =>
      obtain ⟨hrest, hrestNe⟩ := ih fun t ht => h t (List.mem_cons_of_mem _ ht)
      have hjoinNe := hrestNe (List.cons_ne_nil next rest)
      rw [join_cons_cons]
      refine ⟨trimmed_append hne (by simp [hjoinNe]) htrimmed.head ?_, fun _ => by simp [hne]⟩
      intro c hc
      rw [List.getLast?_append_of_ne_nil _ hjoinNe] at hc
      exact hrest.last c hc

end ErDiagram.Text

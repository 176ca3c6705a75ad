import ErDiagram.Proofs.Notation.Field

set_option autoImplicit false

/-!
# The fields of any text

A text falls into a row of fields: free texts that show no opening bracket, groups that are closed by
the first closing bracket they show, and, only at the end, a group that shows none.  Two free texts
never meet.  The cut of a text is such a row and puts the text together again, and a row is the cut of
the text that it puts together.
-/

namespace ErDiagram

/-! ## The first unquoted character of a class -/

namespace Quoting

/-- A text shows no character of a class, or it shows a first one, at an unquoted position. -/
theorem findFrom_cases (p : Char → Bool) (t : Text) :
    ∀ quoted, findFrom p quoted t = none ∨
      ∃ s c rest, t = s ++ c :: rest ∧ findFrom p quoted s = none ∧ after quoted s = false ∧
        p c = true := by
  induction t with
  | nil =>
    intro quoted
    exact .inl rfl
  | cons c cs ih =>
    intro quoted
    by_cases hfound : (!quoted && p c) = true
    · rw [Bool.and_eq_true, Bool.not_eq_true'] at hfound
      exact .inr ⟨[], c, cs, rfl, rfl, hfound.1, hfound.2⟩
    · have hskip : ∀ s, findFrom p (afterChar quoted c) s = none →
          findFrom p quoted (c :: s) = none := by
        intro s hs
        rw [findFrom, if_neg hfound, hs]
        rfl
      rcases ih (afterChar quoted c) with hnone | ⟨s, d, rest, rfl, hs, hafter, hd⟩
      · exact .inl (hskip cs hnone)
      · exact .inr ⟨c :: s, d, rest, rfl, hskip s hs, hafter, hd⟩

/-- The same from the beginning: what stands in front of the first character shown hides the class. -/
theorem hides_cases (p : Char → Bool) (t : Text) :
    findFrom p false t = none ∨ ∃ s c rest, t = s ++ c :: rest ∧ Hides p s ∧ p c = true := by
  rcases findFrom_cases p t false with hnone | ⟨s, c, rest, ht, hs, hafter, hc⟩
  · exact .inl hnone
  · exact .inr ⟨s, c, rest, ht, ⟨hs, hafter⟩, hc⟩

/-- The first character of a text that shows none of a class is not of the class. -/
theorem not_of_findFrom_cons {p : Char → Bool} {c : Char} {t : Text}
    (h : findFrom p false (c :: t) = none) : p c = false := by
  rw [findFrom] at h
  split at h
  · cases h
  · rename_i hclass
    simpa using hclass

end Quoting

namespace Field

open Quoting (Hides after findFrom)

variable {kinds : List Bracket} {kind : Bracket} {c : Char} {free inner t : Text}

/-! ## Opening brackets -/

theorem left_injective {k l : Bracket} (h : k.left = l.left) : k = l := by
  cases k <;> cases l <;> first | rfl | exact absurd h (by decide)

/-- A character opens a group exactly if it is the opening bracket of one of the kinds. -/
theorem opened?_eq_some_iff : opened? kinds c = some kind ↔ kind ∈ kinds ∧ c = kind.left := by
  constructor
  · intro h
    have hleft : kind.left = c := by simpa using List.find?_some h
    exact ⟨List.mem_of_find?_eq_some h, hleft.symm⟩
  · rintro ⟨hmem, rfl⟩
    cases hopened : opened? kinds kind.left with
    | none =>
      rw [opened?, List.find?_eq_none] at hopened
      exact absurd (hopened kind hmem) (by simp)
    | some other =>
      have hleft : other.left = kind.left := by simpa using List.find?_some hopened
      rw [left_injective hleft]

theorem opens_eq_true_iff : opens kinds c = true ↔ ∃ kind ∈ kinds, c = kind.left := by
  rw [opens, Option.isSome_iff_exists]
  simp only [opened?_eq_some_iff]

theorem opens_left (h : kind ∈ kinds) : opens kinds kind.left = true :=
  opens_eq_true_iff.mpr ⟨kind, h, rfl⟩

/-! ## Rows -/

/-- Fields in a row as a cut leaves them. -/
inductive Row (kinds : List Bracket) : List Text → Prop where
  | nil : Row kinds []
  /-- free text up to the end -/
  | free {t : Text} (hne : t ≠ []) (hfree : findFrom (opens kinds) false t = none) : Row kinds [t]
  /-- a group that is never closed takes the rest -/
  | unclosed {kind : Bracket} {t : Text} (hkind : kind ∈ kinds)
      (hopen : findFrom (· == kind.right) false t = none) : Row kinds [kind.left :: t]
  | group {kind : Bracket} {inner : Text} {rest : List Text} (hkind : kind ∈ kinds)
      (hinner : Hides (· == kind.right) inner) (hrest : Row kinds rest) :
      Row kinds (Field.group kind inner :: rest)
  /-- free text in front of a group -/
  | freeGroup {free t : Text} {kind : Bracket} {rest : List Text} (hne : free ≠ [])
      (hfree : Hides (opens kinds) free) (hkind : kind ∈ kinds)
      (hrest : Row kinds ((kind.left :: t) :: rest)) : Row kinds (free :: (kind.left :: t) :: rest)

/-! ## The cut of a text is a row -/

/-- Free text that shows no opening bracket up to the end is one field. -/
theorem cut_eq_singleton (hfree : findFrom (opens kinds) false free = none) (hne : free ≠ []) :
    cut free kinds = [free] := by
  have hall := cutFrom_free kinds free [] false [] hfree
  rw [List.append_nil, List.append_nil] at hall
  rw [cut, hall, cutFrom, close_of_ne_nil (by simpa using hne), List.reverse_reverse]

/-- A group that is never closed is one field. -/
theorem cut_unclosed (hkind : kind ∈ kinds) (hopen : findFrom (· == kind.right) false t = none) :
    cut (kind.left :: t) kinds = [kind.left :: t] := by
  have hcut := cutFrom_group kinds kind t [] false [kind.left] hopen
  rw [List.append_nil] at hcut
  rw [cut, cutFrom_free_open (opened?_eq_some_iff.mpr ⟨hkind, rfl⟩), hcut, cutFrom,
    close_of_ne_nil (List.append_ne_nil_of_right_ne_nil _ (List.cons_ne_nil _ _))]
  simp [close]

/-- Free text in front of an opening bracket is a field of its own. -/
theorem cut_free_append (hfree : Hides (opens kinds) free) (hne : free ≠ []) (hkind : kind ∈ kinds)
    (t : Text) : cut (free ++ kind.left :: t) kinds = free :: cut (kind.left :: t) kinds := by
  have hopened := opened?_eq_some_iff.mpr ⟨hkind, rfl⟩
  rw [cut, cutFrom_free kinds free _ false [] hfree.find_eq, hfree.after_eq, List.append_nil,
    cutFrom_free_open hopened, close_of_ne_nil (by simpa using hne), List.reverse_reverse, cut,
    cutFrom_free_open hopened]
  rfl

theorem flatten_cutFrom (t : Text) : ∀ (state : FieldState) (collected : Text),
    (cutFrom kinds state collected t).flatten = collected.reverse ++ t := by
  have hclose : ∀ collected : Text, (close collected).flatten = collected.reverse := by
    intro collected
    cases collected <;> simp [close]
  induction t with
  | nil =>
    intro state collected
    rw [cutFrom, hclose, List.append_nil]
  | cons c cs ih =>
    intro state collected
    cases state with
    | free quoted =>
      cases quoted with
      | true => simp [cutFrom, ih]
      | false => cases hopened : opened? kinds c <;> simp [cutFrom, hopened, hclose, ih]
    | group kind quoted =>
      rw [cutFrom]
      split <;> simp [hclose, ih]

/-- The fields of a text are the text again. -/
@[simp] theorem flatten_cut (t : Text) (kinds : List Bracket) : (cut t kinds).flatten = t :=
  flatten_cutFrom t _ _

/-- The fields of a text are a row.  The induction is on the length of the text, because a round of
the cut takes off a group with the free text in front of it. -/
theorem row_cut (t : Text) (kinds : List Bracket) : Row kinds (cut t kinds) := by
  induction hlength : t.length using Nat.strongRecOn generalizing t with
  | ind n ih =>
    subst hlength
    rcases Quoting.hides_cases (opens kinds) t with hnone | ⟨free, c, rest, rfl, hfree, hc⟩
    · by_cases hne : t = []
      · rw [hne]
        exact .nil
      · rw [cut_eq_singleton hnone hne]
        exact .free hne hnone
    · obtain ⟨kind, hkind, rfl⟩ := opens_eq_true_iff.mp hc
      have hgroup : Row kinds (cut (kind.left :: rest) kinds) ∧
          ∃ field fields, cut (kind.left :: rest) kinds = (kind.left :: field) :: fields := by
        rcases Quoting.hides_cases (· == kind.right) rest with hopen | ⟨inner, d, after, rfl, hinner, hd⟩
        · rw [cut_unclosed hkind hopen]
          exact ⟨.unclosed hkind hopen, rest, [], rfl⟩
        · obtain rfl := beq_iff_eq.mp hd
          have hcut : cut (kind.left :: (inner ++ kind.right :: after)) kinds =
              group kind inner :: cut after kinds := by
            have htext : kind.left :: (inner ++ kind.right :: after) = group kind inner ++ after := by
              simp [group]
            rw [htext, cut_group (opened?_eq_some_iff.mpr ⟨hkind, rfl⟩) hinner]
          have hshorter : after.length < (free ++ kind.left :: (inner ++ kind.right :: after)).length := by
            simp only [List.length_append, List.length_cons]
            omega
          rw [hcut]
          exact ⟨.group hkind hinner (ih _ hshorter after rfl), inner ++ [kind.right],
            cut after kinds, rfl⟩
      by_cases hne : free = []
      · rw [hne]
        exact hgroup.1
      · obtain ⟨hrow, field, fields, hfields⟩ := hgroup
        rw [cut_free_append hfree hne hkind, hfields]
        exact .freeGroup hne hfree hkind (hfields ▸ hrow)

/-- A row is the cut of the text that it puts together. -/
theorem Row.cut_flatten {fields : List Text} (h : Row kinds fields) :
    cut fields.flatten kinds = fields := by
  induction h with
  | nil => rfl
  | @free t hne hfree =>
    rw [List.flatten_singleton]
    exact cut_eq_singleton hfree hne
  | @unclosed kind t hkind hopen =>
    rw [List.flatten_singleton]
    exact cut_unclosed hkind hopen
  | @group kind inner rest hkind hinner _ ih =>
    rw [List.flatten_cons, cut_group (opened?_eq_some_iff.mpr ⟨hkind, rfl⟩) hinner, ih]
  | @freeGroup free t kind rest hne hfree hkind _ ih =>
    rw [List.flatten_cons, List.flatten_cons, List.cons_append, cut_free_append hfree hne hkind]
    rw [List.flatten_cons, List.cons_append] at ih
    rw [ih]

/-! ## What a field is -/

/-- Free text that shows no opening bracket. -/
def IsFree (kinds : List Bracket) (field : Text) : Prop :=
  field ≠ [] ∧ findFrom (opens kinds) false field = none

/-- A group whose last character is the only closing bracket of its kind that it shows. -/
def IsClosed (kinds : List Bracket) (field : Text) : Prop :=
  ∃ kind ∈ kinds, ∃ inner, field = group kind inner ∧ Hides (· == kind.right) inner

/-- A group that shows no closing bracket of its kind. -/
def IsUnclosed (kinds : List Bracket) (field : Text) : Prop :=
  ∃ kind ∈ kinds, ∃ t, field = kind.left :: t ∧ findFrom (· == kind.right) false t = none

/-- Brackets are no double quotes. -/
theorem after_left (kind : Bracket) (inner : Text) (quoted : Bool) :
    after quoted (kind.left :: inner) = after quoted inner := by
  cases kind <;> rfl

theorem after_group (kind : Bracket) (inner : Text) (quoted : Bool) :
    after quoted (group kind inner) = after quoted inner := by
  rw [group, Quoting.after_append, after_left]
  cases kind <;> rfl

theorem IsClosed.after_eq {field : Text} (h : IsClosed kinds field) : after false field = false := by
  obtain ⟨kind, -, inner, rfl, hinner⟩ := h
  rw [after_group, hinner.after_eq]

theorem IsClosed.not_isUnclosed {field : Text} (h : IsClosed kinds field) :
    ¬ IsUnclosed kinds field := by
  rintro ⟨kind, -, t, rfl, hopen⟩
  obtain ⟨other, -, inner, heq, hinner⟩ := h
  obtain ⟨hleft, rfl⟩ := List.cons.inj heq
  obtain rfl := left_injective hleft
  change findFrom (· == kind.right) false (inner ++ [kind.right]) = none at hopen
  rw [Quoting.findFrom_append, hinner.find_eq, hinner.after_eq] at hopen
  simp [findFrom] at hopen

namespace Row

variable {fields before rest : List Text} {field : Text}

theorem tail (h : Row kinds (field :: rest)) : Row kinds rest := by
  cases h with
  | free => exact .nil
  | unclosed => exact .nil
  | group _ _ hrest => exact hrest
  | freeGroup _ _ _ hrest => exact hrest

/-- A field is closed, or free text that ends at an unquoted position, unless it is the last. -/
theorem head_cases (h : Row kinds (field :: rest)) :
    IsClosed kinds field ∨ (IsFree kinds field ∧ (after false field = false ∨ rest = [])) ∨
      (IsUnclosed kinds field ∧ rest = []) := by
  cases h with
  | free hne hfree => exact .inr (.inl ⟨⟨hne, hfree⟩, .inr rfl⟩)
  | unclosed hkind hopen => exact .inr (.inr ⟨⟨_, hkind, _, rfl, hopen⟩, rfl⟩)
  | group hkind hinner _ => exact .inl ⟨_, hkind, _, rfl, hinner⟩
  | freeGroup hne hfree _ _ => exact .inr (.inl ⟨⟨hne, hfree.find_eq⟩, .inl hfree.after_eq⟩)

theorem of_append (h : Row kinds (before ++ rest)) : Row kinds rest := by
  induction before with
  | nil => exact h
  | cons first before ih => exact ih h.tail

theorem isFree_or_isClosed_or_isUnclosed (h : Row kinds fields) (hmem : field ∈ fields) :
    IsFree kinds field ∨ IsClosed kinds field ∨ IsUnclosed kinds field := by
  obtain ⟨before, rest, rfl⟩ := List.append_of_mem hmem
  rcases h.of_append.head_cases with hclosed | ⟨hfree, -⟩ | ⟨hopen, -⟩
  · exact .inr (.inl hclosed)
  · exact .inl hfree
  · exact .inr (.inr hopen)

theorem ne_nil (h : Row kinds fields) (hmem : field ∈ fields) : field ≠ [] := by
  rcases h.isFree_or_isClosed_or_isUnclosed hmem with ⟨hne, -⟩ | ⟨kind, -, inner, rfl, -⟩ |
    ⟨kind, -, t, rfl, -⟩
  · exact hne
  · exact group_ne_nil kind inner
  · exact List.cons_ne_nil _ _

/-- The position behind fields that are not the last is unquoted. -/
theorem after_flatten (h : Row kinds (before ++ field :: rest)) :
    after false before.flatten = false := by
  induction before with
  | nil => rfl
  | cons first before ih =>
    have hfirst : after false first = false := by
      rcases h.head_cases with hclosed | ⟨-, hafter | hlast⟩ | ⟨-, hlast⟩
      · exact hclosed.after_eq
      · exact hafter
      · simp at hlast
      · simp at hlast
    rw [List.flatten_cons, Quoting.after_append, hfirst]
    exact ih h.tail

end Row

end Field

end ErDiagram

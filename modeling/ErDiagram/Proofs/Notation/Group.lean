import ErDiagram.Proofs.Notation.Row
import ErDiagram.Proofs.Reading.Result

set_option autoImplicit false

/-!
# The groups of a row of fields

A field of a row opens with a bracket or it is free text, and taking blanks off it does not change
that.  A group that is not the last field is enclosed by its brackets.  What stands in front of the
first group of some kinds holds no group of these kinds.
-/

namespace ErDiagram

open Quoting (Hides after findFrom)
open ErDiagram.Field (Row IsFree IsClosed IsUnclosed opens group)

variable {kinds : List Bracket} {kind : Bracket} {field : Text} {fields before rest : List Text}

/-! ## Opening brackets -/

theorem Bracket.mem_all (kind : Bracket) : kind ∈ Bracket.all := by
  cases kind <;> decide

theorem opensWith_eq_true_iff {t : Text} :
    opensWith t kinds = true ↔ ∃ kind ∈ kinds, ∃ rest, t = kind.left :: rest := by
  cases t with
  | nil => simp [opensWith, Text.startsWith]
  | cons c cs => simp [Field.opensWith_cons]

theorem opensWith_of_isEnclosed {t : Text} (h : isEnclosed t kinds = true) :
    opensWith t kinds = true := by
  by_contra hopens
  rw [Bool.not_eq_true] at hopens
  simp [Field.isEnclosed_of_not_opens hopens] at h

/-- A text opens with a bracket of one kind at most. -/
theorem not_opensWith_of_not_mem (hkind : kind ∉ kinds) {t : Text}
    (h : opensWith t [kind] = true) : opensWith t kinds = false := by
  by_contra hother
  rw [Bool.not_eq_false] at hother
  obtain ⟨k, hk, s, rfl⟩ := opensWith_eq_true_iff.mp h
  obtain ⟨l, hl, s', heq⟩ := opensWith_eq_true_iff.mp hother
  rw [List.mem_singleton] at hk
  have hleft := Field.left_injective (List.cons.inj heq).1
  exact hkind (hk ▸ hleft ▸ hl)

/-- A text is counted as an entity group exactly if entity brackets enclose it. -/
theorem isEntityGroup_eq (t : Text) : isEntityGroup t = isEnclosed t Bracket.entity := by
  have hsingle : ∀ k l : Bracket, k.encloses t = true → k ≠ l → l.encloses t = false := by
    intro k l hk hne
    by_contra hl
    exact hne (Bracket.eq_of_encloses hk (Bool.not_eq_false _ ▸ hl))
  rw [isEntityGroup, isEnclosed, Bracket.entity]
  cases hfound : enclosing? t with
  | none =>
    rw [enclosing?, List.find?_eq_none] at hfound
    have hnone : ∀ k : Bracket, k.encloses t = false := fun k => by simpa using hfound k k.mem_all
    simp [hnone]
  | some k =>
    have hk : k.encloses t = true := by simpa using List.find?_some hfound
    cases k with
    | square => simp [hk]
    | round => simp [hk]
    | angle => simp [hsingle _ .square hk (by decide), hsingle _ .round hk (by decide)]
    | curly => simp [hsingle _ .square hk (by decide), hsingle _ .round hk (by decide)]

/-! ## Fields without the blanks around them -/

theorem hides_blanks {p : Char → Bool} {pad : Text} (h : ∀ c ∈ pad, Text.isBlank c = true)
    (hclass : ∀ c, Text.isBlank c = true → p c = false) : Hides p pad := by
  refine Quoting.hides_of_plain fun c hc => ⟨?_, hclass c (h c hc)⟩
  rintro rfl
  exact absurd (h _ hc) (by decide)

theorem not_opens_of_isBlank {c : Char} (h : Text.isBlank c = true) : opens kinds c = false := by
  by_contra hopens
  rw [Bool.not_eq_false, Field.opens_eq_true_iff] at hopens
  obtain ⟨kind, -, rfl⟩ := hopens
  simp [Field.isBlank_bracket] at h

/-- Blanks show no opening bracket. -/
theorem hides_opens_blanks {pad : Text} (h : ∀ c ∈ pad, Text.isBlank c = true) :
    Hides (opens kinds) pad :=
  hides_blanks h fun _ => not_opens_of_isBlank

/-- Behind a text that hides a class, a search fails exactly if it fails from there. -/
theorem findFrom_append_eq_none_iff {p : Char → Bool} {s : Text} (h : Hides p s) (t : Text) :
    findFrom p false (s ++ t) = none ↔ findFrom p false t = none := by
  rw [Quoting.findFrom_append, h.find_eq, h.after_eq]
  simp

/-- Free text opens with no bracket, with or without the blanks in front of it. -/
theorem not_opensWith_of_isFree (h : IsFree Bracket.all field) (kinds : List Bracket) :
    opensWith field kinds = false ∧ opensWith (Text.strip field) kinds = false := by
  have hhead : ∀ t : Text, findFrom (opens Bracket.all) false t = none →
      opensWith t kinds = false := by
    intro t ht
    by_contra hopens
    rw [Bool.not_eq_false] at hopens
    obtain ⟨kind, -, rest, rfl⟩ := opensWith_eq_true_iff.mp hopens
    have hleft := Quoting.not_of_findFrom_cons ht
    simp [Field.opens_left kind.mem_all] at hleft
  refine ⟨hhead field h.2, ?_⟩
  obtain ⟨front, back, hfield, hfront, -⟩ := Text.exists_stripOf_append Text.isBlank field
  have hrest : findFrom (opens Bracket.all) false (Text.strip field ++ back) = none := by
    rw [← findFrom_append_eq_none_iff (hides_opens_blanks hfront)]
    exact hfield ▸ h.2
  by_cases hne : Text.strip field = []
  · rw [hne]
    simp [opensWith, Text.startsWith]
  · rw [← Field.opensWith_append hne back]
    exact hhead _ hrest

theorem opensWith_of_isClosed (h : IsClosed Bracket.all field) :
    isEnclosed field kinds = opensWith field kinds := by
  obtain ⟨kind, -, inner, rfl, -⟩ := h
  by_cases hopens : opensWith (group kind inner) kinds = true
  · rw [hopens]
    rw [Field.opensWith_group] at hopens
    exact List.any_eq_true.mpr ⟨kind, List.contains_iff_mem.mp hopens, Field.encloses_group kind inner⟩
  · rw [Bool.not_eq_true] at hopens
    rw [hopens, Field.isEnclosed_of_not_opens hopens]

theorem strip_of_isClosed (h : IsClosed kinds field) : Text.strip field = field := by
  obtain ⟨kind, -, inner, rfl, -⟩ := h
  exact Field.strip_group kind inner

/-- A text that opens with a bracket keeps it when blanks are taken off. -/
theorem opensWith_strip (h : opensWith field kinds = true) :
    opensWith (Text.strip field) kinds = true := by
  obtain ⟨kind, hkind, rest, rfl⟩ := opensWith_eq_true_iff.mp h
  have hleft : Text.stripLeftOf Text.isBlank (kind.left :: rest) = kind.left :: rest :=
    Text.stripLeftOf_eq_self (by simp [Field.isBlank_bracket])
  obtain ⟨pad, hpad, hblank⟩ := Text.exists_stripRightOf_append Text.isBlank (kind.left :: rest)
  rw [Text.strip, Text.stripOf, hleft]
  cases hstrip : Text.stripRightOf Text.isBlank (kind.left :: rest) with
  | nil =>
    rw [hstrip, List.nil_append] at hpad
    have := hblank kind.left (hpad ▸ List.mem_cons_self)
    simp [Field.isBlank_bracket] at this
  | cons c cs =>
    rw [hstrip] at hpad
    obtain ⟨rfl, -⟩ := List.cons.inj hpad
    exact opensWith_eq_true_iff.mpr ⟨kind, hkind, cs, rfl⟩

/-! ## The group that is looked for -/

/-- A split is found at the first field that opens with a bracket of the kinds. -/
theorem splitAtGroup_eq_some_iff :
    splitAtGroup kinds fields = some (before, field, rest) ↔
      fields = before ++ field :: rest ∧ opensWith field kinds = true ∧
        ∀ f ∈ before, opensWith f kinds = false := by
  induction fields generalizing before with
  | nil => simp [splitAtGroup]
  | cons first fields ih =>
    rw [splitAtGroup]
    by_cases hopens : opensWith first kinds = true
    · rw [if_pos hopens, Option.some.injEq, Prod.mk.injEq, Prod.mk.injEq]
      constructor
      · rintro ⟨rfl, rfl, rfl⟩
        exact ⟨rfl, hopens, by simp⟩
      · rintro ⟨heq, -, hbefore⟩
        cases before with
        | nil =>
          obtain ⟨hfirst, hrest⟩ := List.cons.inj heq
          exact ⟨rfl, hfirst, hrest⟩
        | cons f before =>
          have hfirst : first = f := (List.cons.inj heq).1
          have hf := hbefore f List.mem_cons_self
          rw [← hfirst, hopens] at hf
          cases hf
    · rw [if_neg hopens, Option.map_eq_some_iff]
      rw [Bool.not_eq_true] at hopens
      constructor
      · rintro ⟨⟨before', field', rest'⟩, hsplit, heq⟩
        simp only [Prod.mk.injEq] at heq
        obtain ⟨rfl, rfl, rfl⟩ := heq
        obtain ⟨rfl, hfield, hbefore⟩ := ih.mp hsplit
        exact ⟨rfl, hfield, List.forall_mem_cons.mpr ⟨hopens, hbefore⟩⟩
      · rintro ⟨heq, hfield, hbefore⟩
        cases before with
        | nil =>
          rw [List.nil_append, List.cons.injEq] at heq
          rw [← heq.1, hopens] at hfield
          cases hfield
        | cons f before =>
          rw [List.cons_append, List.cons.injEq] at heq
          obtain ⟨rfl, heq⟩ := heq
          exact ⟨(before, field, rest),
            ih.mpr ⟨heq, hfield, fun g hg => hbefore g (List.mem_cons_of_mem _ hg)⟩, rfl⟩

theorem splitAtGroup_eq_none_iff :
    splitAtGroup kinds fields = none ↔ ∀ f ∈ fields, opensWith f kinds = false := by
  induction fields with
  | nil => simp [splitAtGroup]
  | cons first fields ih =>
    rw [splitAtGroup, List.forall_mem_cons, ← ih]
    by_cases hopens : opensWith first kinds = true
    · simp [hopens]
    · simp [hopens]

/-- Joined fields are empty exactly if each of them is blank. -/
theorem joined_eq_nil_iff : joined fields = [] ↔ ∀ f ∈ fields, Text.strip f = [] := by
  simp only [joined, Text.strip, Text.stripOf_eq_nil_iff, List.mem_flatten]
  constructor
  · intro h f hf c hc
    exact h c ⟨f, hf, hc⟩
  · rintro h c ⟨f, hf, hc⟩
    exact h f hf c hc

/-! ## Fields of a row -/

namespace Field.Row

/-- A field that opens with a bracket and is not the last is enclosed. -/
theorem isEnclosed_of_opensWith (h : Row Bracket.all (field :: rest)) (hrest : rest ≠ [])
    (hopens : opensWith field kinds = true) : isEnclosed (Text.strip field) kinds = true := by
  rcases h.head_cases with hclosed | ⟨hfree, -⟩ | ⟨-, hlast⟩
  · rw [strip_of_isClosed hclosed, opensWith_of_isClosed hclosed, hopens]
  · rw [(not_opensWith_of_isFree hfree kinds).1] at hopens
    cases hopens
  · exact absurd hlast hrest

/-- A field that is enclosed once its blanks are off opens with the bracket. -/
theorem opensWith_of_isEnclosed (h : Row Bracket.all fields) (hmem : field ∈ fields)
    (henclosed : isEnclosed (Text.strip field) kinds = true) : opensWith field kinds = true := by
  have hstrip := ErDiagram.opensWith_of_isEnclosed henclosed
  rcases h.isFree_or_isClosed_or_isUnclosed hmem with hfree | hclosed | ⟨kind, -, t, rfl, -⟩
  · rw [(not_opensWith_of_isFree hfree kinds).2] at hstrip
    cases hstrip
  · rwa [strip_of_isClosed hclosed] at hstrip
  · obtain ⟨other, hother, s, hs⟩ := opensWith_eq_true_iff.mp hstrip
    have hself := opensWith_strip (opensWith_eq_true_iff.mpr
      ⟨kind, List.mem_singleton_self kind, t, rfl⟩ : opensWith (kind.left :: t) [kind] = true)
    obtain ⟨k, hk, s', hs'⟩ := opensWith_eq_true_iff.mp hself
    rw [List.mem_singleton] at hk
    rw [hs, hk] at hs'
    obtain rfl := Field.left_injective (List.cons.inj hs').1
    exact opensWith_eq_true_iff.mpr ⟨other, hother, t, rfl⟩

end Field.Row

/-- The number of fields that are entity groups, blanks around them aside. -/
def entityCount (fields : List Text) : Nat :=
  fields.countP fun field => isEnclosed (Text.strip field) Bracket.entity

@[simp] theorem entityCount_nil : entityCount [] = 0 := rfl

theorem entityCount_cons (field : Text) (rest : List Text) :
    entityCount (field :: rest) =
      (if isEnclosed (Text.strip field) Bracket.entity then 1 else 0) + entityCount rest := by
  rw [entityCount, List.countP_cons, Nat.add_comm, entityCount]

theorem entityCount_append (before rest : List Text) :
    entityCount (before ++ rest) = entityCount before + entityCount rest :=
  List.countP_append

theorem isEnclosed_nil (kinds : List Bracket) : isEnclosed [] kinds = false :=
  Field.isEnclosed_of_not_opens (by simp [opensWith, Text.startsWith])

/-- Among the fields of a row only those that open with an entity bracket count. -/
theorem entityCount_eq_zero (h : Row Bracket.all fields) {part : List Text}
    (hsub : part ⊆ fields)
    (hnone : ∀ f ∈ part, opensWith f Bracket.entity = false) : entityCount part = 0 := by
  rw [entityCount, List.countP_eq_zero]
  intro f hf henclosed
  have hopens := h.opensWith_of_isEnclosed (hsub hf) henclosed
  rw [hnone f hf] at hopens
  cases hopens

end ErDiagram

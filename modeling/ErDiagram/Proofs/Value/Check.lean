import Mathlib.Data.List.Perm.Basic
import ErDiagram.Value.Check

set_option autoImplicit false

/-!
# What passes a check

A value passes a check that finds nothing wrong with it, on whatever path it stands.  What a check of
keys and values finds nothing wrong with is described here in terms of the value, and what a mapping of
texts says under a key in terms of its entries.
-/

namespace ErDiagram

/-! ## Sorting -/

theorem insertBy_perm {α : Type} (le : α → α → Bool) (a : α) (items : List α) :
    (insertBy le a items).Perm (a :: items) := by
  induction items with
  | nil => exact .refl _
  | cons b rest ih =>
    rw [insertBy]
    split
    · exact .refl _
    · exact (ih.cons b).trans (.swap a b rest)

/-- Sorting keeps the items. -/
theorem sortBy_perm {α : Type} (le : α → α → Bool) (items : List α) :
    (sortBy le items).Perm items := by
  induction items with
  | nil => exact .refl _
  | cons a rest ih => exact (insertBy_perm le a (sortBy le rest)).trans (ih.cons a)

/-! ## Checks -/

namespace Check

variable {path : List Text} {v : Value}

theorem all_eq_nil_iff {checks : List Check} :
    all checks path v = [] ↔ ∀ check ∈ checks, check path v = [] :=
  List.flatMap_eq_nil_iff

theorem isText_eq_nil_iff : isText path v = [] ↔ ∃ t, v = .text t := by
  unfold isText
  split
  · rename_i t
    exact ⟨fun _ => ⟨t, rfl⟩, fun _ => rfl⟩
  · rename_i hother
    constructor
    · exact nofun
    · intro h
      obtain ⟨t, rfl⟩ := h
      exact absurd rfl (hother t)

theorem isMapping_eq_nil_iff : isMapping path v = [] ↔ ∃ entries, v = .mapping entries := by
  unfold isMapping
  split
  · rename_i entries
    exact ⟨fun _ => ⟨entries, rfl⟩, fun _ => rfl⟩
  · rename_i hother
    constructor
    · exact nofun
    · intro h
      obtain ⟨entries, rfl⟩ := h
      exact absurd rfl (hother entries)

theorem required_eq_nil_iff {keys : List Text} {entries : List (Value × Value)} :
    required keys path (.mapping entries) = [] ↔
      ∀ key ∈ keys, ∃ value, Value.lookup? key entries = some value := by
  simp only [required, List.map_eq_nil_iff, List.filter_eq_nil_iff, Option.isNone_iff_eq_none,
    ← Option.ne_none_iff_exists']

theorem everyValue_eq_nil_iff {check : Check} {entries : List (Value × Value)} :
    everyValue check path (.mapping entries) = [] ↔
      ∀ e ∈ entries, check (path ++ pathPart e.1) e.2 = [] := by
  simp only [everyValue, List.flatMap_eq_nil_iff, List.map_eq_nil_iff]

/-- The value under a key passes the check of this key. -/
theorem of_properties {checks : List (Text × Check)} (h : properties checks path v = [])
    {key : Text} {check : Check} (hcheck : (key, check) ∈ checks) {value : Value}
    (hvalue : v.get? key = some value) : check (path ++ [key]) value = [] := by
  have hfound := List.flatMap_eq_nil_iff.mp h (key, check) hcheck
  simpa only [hvalue] using hfound

end Check

/-- Nothing is found wrong with a value exactly if it passes the check. -/
theorem Violation.find?_eq_some_nil_iff {check : Check} {v : Value} :
    find? check v = some [] ↔ check [] v = [] := by
  unfold find?
  dsimp only
  constructor
  · intro h
    split at h
    · have hperm := sortBy_perm (fun a b : Violation => pathLe a.path b.path) (check [] v)
      rw [Option.some.inj h] at hperm
      exact hperm.nil_eq.symm
    · cases h
  · intro h
    rw [h]
    rfl

/-! ## Tables of texts -/

/-- A text is the same key as itself only. -/
theorem Value.sameKey_text {key : Value} {t : Text} :
    sameKey key (.text t) = true ↔ key = .text t := by
  cases key with
  | real x =>
    simp only [sameKey, integer?]
    cases x.integer? <;> simp
  | _ => simp [sameKey, integer?]

/-- Where all values of a mapping are texts, its table of texts says the same as the mapping. -/
theorem Value.lookup_textTable {entries : List (Value × Value)}
    (htexts : ∀ e ∈ entries, ∃ t, e.2 = .text t) (key : Text) :
    ((textTable (.mapping entries)).lookup key).map Value.text = lookup? key entries := by
  induction entries with
  | nil => rfl
  | cons e rest ih =>
    obtain ⟨⟨t, ht⟩, hrest⟩ := List.forall_mem_cons.mp htexts
    have hlater := ih hrest
    obtain ⟨own, value⟩ := e
    change value = .text t at ht
    subst ht
    unfold lookup? textTable at hlater ⊢
    dsimp only at hlater ⊢
    rw [List.find?_cons, List.filterMap_cons]
    by_cases hsame : own = .text key
    · subst hsame
      simp [sameKey, integer?]
    · have hother : sameKey own (.text key) = false := by
        rw [Bool.eq_false_iff]
        exact fun h => hsame (sameKey_text.mp h)
      simp only [hother]
      rw [← hlater]
      cases own with
      | text name =>
        have hname : key ≠ name := fun heq => hsame (heq ▸ rfl)
        simp only [List.lookup_cons, beq_false_of_ne hname]
      | _ => rfl

end ErDiagram

import ErDiagram.Collection
import Mathlib.Data.List.Forall2
import Mathlib.Data.List.Nodup
import Mathlib.Data.List.Perm.Basic

set_option autoImplicit false

/-!
# What tables and paired lists say

A table is looked at through its keys, in order, and through what is found under a key.  Lists that are
read off each other, element by element, are paired: what is said of one then carries over to the other.
-/

namespace ErDiagram

/-! ## Lists that are read off each other

Entities are read off blocks and relationships off lines, one by one. -/

section Paired

variable {α β γ : Type} {R : α → β → Prop} {S : α → γ → Prop} {l : List α} {m : List β} {n : List γ}

/-- A list read off another, element by element, stays so with one more element behind either. -/
theorem forall₂_concat {a : α} {b : β} (h : List.Forall₂ R l m) (hlast : R a b) :
    List.Forall₂ R (l ++ [a]) (m ++ [b]) :=
  List.rel_append h (.cons hlast .nil)

theorem exists_of_mem_left (h : List.Forall₂ R l m) {a : α} (ha : a ∈ l) : ∃ b ∈ m, R a b := by
  induction h with
  | nil => cases ha
  | @cons a' b l m hab _ ih =>
    rcases List.mem_cons.mp ha with rfl | hrest
    · exact ⟨b, List.mem_cons_self, hab⟩
    · obtain ⟨b', hb', hrel⟩ := ih hrest
      exact ⟨b', List.mem_cons_of_mem _ hb', hrel⟩

theorem exists_of_mem_right (h : List.Forall₂ R l m) {b : β} (hb : b ∈ m) : ∃ a ∈ l, R a b :=
  exists_of_mem_left h.flip hb

theorem isEmpty_eq_of_forall₂ (h : List.Forall₂ R l m) : l.isEmpty = m.isEmpty := by
  cases h <;> rfl

/-- Lists have the same images exactly if they are paired by them. -/
theorem forall₂_map_eq_iff {f : α → γ} {g : β → γ} :
    List.Forall₂ (fun a b => f a = g b) l m ↔ l.map f = m.map g := by
  rw [← List.forall₂_eq_eq_eq, List.forall₂_map_left_iff, List.forall₂_map_right_iff]

/-- Two lists that are both read off a third are paired through it. -/
theorem forall₂_span (h : List.Forall₂ R l m) (h' : List.Forall₂ S l n) :
    List.Forall₂ (fun b c => ∃ a, R a b ∧ S a c) m n := by
  induction h generalizing n with
  | nil =>
    cases h'
    exact .nil
  | cons hhead _ ih =>
    cases h' with
    | cons hhead' hrest' => exact .cons ⟨_, hhead, hhead'⟩ (ih hrest')

/-- Two lists that are paired with the same list in between are paired through it. -/
theorem forall₂_comp {S : β → γ → Prop} (h : List.Forall₂ R l m) (h' : List.Forall₂ S m n) :
    List.Forall₂ (fun a c => ∃ b, R a b ∧ S b c) l n :=
  forall₂_span h.flip h'

/-- What is read off a list by a key of its elements is read off every list with the same keys in another
order. -/
theorem exists_perm_of_forall₂ {κ : Type} {key : α → κ} {l l' : List α}
    (hkey : ∀ a a' b, key a = key a' → R a b → R a' b) (hperm : (l.map key).Perm (l'.map key))
    (h : List.Forall₂ R l m) : ∃ m', List.Forall₂ R l' m' ∧ m'.Perm m := by
  have hkeyed : List.Forall₂ (fun k b => ∃ a, key a = k ∧ R a b) (l.map key) m :=
    List.forall₂_map_left_iff.mpr (h.imp fun a _ hab => ⟨a, rfl, hab⟩)
  obtain ⟨m', hkeyed', hm⟩ := List.perm_comp_forall₂ hperm.symm hkeyed
  refine ⟨m', (List.forall₂_map_left_iff.mp hkeyed').imp ?_, hm⟩
  rintro a' b ⟨a, hkeys, hab⟩
  exact hkey a a' b hkeys hab

/-- Results that come one after the other are those of the items. -/
theorem forall₂_of_mapM {ε : Type} {f : α → Except ε β} :
    ∀ {l : List α} {m : List β}, l.mapM f = .ok m → List.Forall₂ (fun a b => f a = .ok b) l m := by
  intro l
  induction l with
  | nil =>
    intro m h
    cases h
    exact .nil
  | cons a rest ih =>
    intro m h
    rw [List.mapM_cons] at h
    cases hfirst : f a with
    | error fault =>
      rw [hfirst] at h
      cases h
    | ok b =>
      rw [hfirst] at h
      change (do let bs ← rest.mapM f; pure (b :: bs)) = Except.ok m at h
      cases hrest : rest.mapM f with
      | error fault =>
        rw [hrest] at h
        cases h
      | ok bs =>
        rw [hrest] at h
        cases h
        exact .cons hfirst (ih hrest)

end Paired

/-! ## Tables

Putting a value under a key that is there keeps the keys, and under every key the value put last is found.
Two tables with the same distinct keys are equal if the same is found under each. -/

namespace Table

variable {κ α : Type}

/-! ## What is found -/

section Found

variable [BEq κ] [LawfulBEq κ]

/-- Something is found under the keys of a table only. -/
theorem lookup_eq_none_iff {key : κ} {t : List (κ × α)} :
    t.lookup key = none ↔ key ∉ t.map (·.1) := by
  rw [List.lookup_eq_none_iff, List.mem_map, not_exists]
  exact forall_congr' fun entry => by rw [not_and, bne_iff_ne, ne_comm]

theorem mem_of_lookup_eq_some {key : κ} {v : α} {t : List (κ × α)} (h : t.lookup key = some v) :
    (key, v) ∈ t := by
  obtain ⟨front, back, rfl, -⟩ := List.lookup_eq_some_iff.mp h
  exact List.mem_append_right _ List.mem_cons_self

end Found

variable [DecidableEq κ]

/-! ## Keys behind what is put -/

theorem keys_put_of_mem {key : κ} {v : α} {t : List (κ × α)} (h : key ∈ t.map (·.1)) :
    (put key v t).map (·.1) = t.map (·.1) := by
  induction t with
  | nil => simp at h
  | cons entry rest ih =>
    unfold put
    split
    · rfl
    · rename_i hkey
      have hrest : key ∈ rest.map (·.1) := by
        simpa [Ne.symm hkey] using h
      rw [List.map_cons, ih hrest, List.map_cons]

/-- A value under a new key comes last. -/
theorem put_of_not_mem {key : κ} {v : α} {t : List (κ × α)} (h : key ∉ t.map (·.1)) :
    put key v t = t ++ [(key, v)] := by
  induction t with
  | nil => rfl
  | cons entry rest ih =>
    simp only [List.map_cons, List.mem_cons, not_or] at h
    unfold put
    rw [if_neg (Ne.symm h.1), ih h.2, List.cons_append]

theorem mem_put {key : κ} {v : α} {t : List (κ × α)} {entry : κ × α}
    (h : entry ∈ put key v t) : entry = (key, v) ∨ entry ∈ t := by
  induction t with
  | nil => simpa [put] using h
  | cons head rest ih =>
    unfold put at h
    split at h
    · rename_i hkey
      rcases List.mem_cons.mp h with heq | hrest
      · exact .inl (hkey ▸ heq)
      · exact .inr (List.mem_cons_of_mem _ hrest)
    · rcases List.mem_cons.mp h with heq | hrest
      · exact .inr (List.mem_cons.mpr (.inl heq))
      · exact (ih hrest).imp_right (List.mem_cons_of_mem _)

/-- Values put one after the other. -/
def putAll (values t : List (κ × α)) : List (κ × α) :=
  values.foldl (fun table e => put e.1 e.2 table) t

/-- Values put under keys that are there keep the keys. -/
theorem keys_putAll {values t : List (κ × α)} (h : ∀ e ∈ values, e.1 ∈ t.map (·.1)) :
    (putAll values t).map (·.1) = t.map (·.1) := by
  induction values generalizing t with
  | nil => rfl
  | cons entry rest ih =>
    have hkeys := keys_put_of_mem (v := entry.2) (h entry List.mem_cons_self)
    have hstep : putAll (entry :: rest) t = putAll rest (put entry.1 entry.2 t) := rfl
    rw [hstep, ih, hkeys]
    intro e he
    rw [hkeys]
    exact h e (List.mem_cons_of_mem _ he)

/-- Putting a value keeps the keys distinct. -/
theorem nodup_keys_put {key : κ} {v : α} {t : List (κ × α)} (h : (t.map (·.1)).Nodup) :
    ((put key v t).map (·.1)).Nodup := by
  by_cases hkey : key ∈ t.map (·.1)
  · rwa [keys_put_of_mem hkey]
  · rw [put_of_not_mem hkey, List.map_append, List.map_singleton, ← List.concat_eq_append]
    exact (List.nodup_concat _ _).mpr ⟨hkey, h⟩

theorem nodup_keys_putAll {values : List (κ × α)} :
    ∀ {t : List (κ × α)}, (t.map (·.1)).Nodup → ((putAll values t).map (·.1)).Nodup := by
  induction values with
  | nil => exact fun h => h
  | cons entry rest ih => exact fun h => ih (nodup_keys_put h)

theorem mem_putAll {values : List (κ × α)} {entry : κ × α} :
    ∀ {t : List (κ × α)}, entry ∈ putAll values t → entry ∈ values ∨ entry ∈ t := by
  induction values with
  | nil => exact fun h => .inr h
  | cons first rest ih =>
    intro t h
    rcases ih h with hrest | hput
    · exact .inl (List.mem_cons_of_mem _ hrest)
    · refine (mem_put hput).imp_left ?_
      rintro rfl
      exact List.mem_cons_self

theorem put_append (key : κ) (v : α) (t others : List (κ × α)) :
    put key v (t ++ others) =
      if key ∈ t.map (·.1) then put key v t ++ others else t ++ put key v others := by
  induction t with
  | nil => rfl
  | cons entry rest ih =>
    rw [List.cons_append, put, put, ih, List.map_cons]
    by_cases hown : entry.1 = key
    · simp [hown]
    · by_cases hrest : key ∈ rest.map (·.1)
      · simp [hown, hrest, Ne.symm hown]
      · simp [hown, hrest, Ne.symm hown]

/-- Values under keys of a table stay in its places, and the others come behind it. -/
theorem exists_putAll_eq_append (values t : List (κ × α)) : ∃ own others,
    putAll values t = own ++ others ∧ own.map (·.1) = t.map (·.1) ∧
      ∀ e ∈ others, e.1 ∉ t.map (·.1) := by
  suffices hgeneral : ∀ own others : List (κ × α), (∀ e ∈ others, e.1 ∉ own.map (·.1)) →
      ∃ own' others', putAll values (own ++ others) = own' ++ others' ∧
        own'.map (·.1) = own.map (·.1) ∧ ∀ e ∈ others', e.1 ∉ own.map (·.1) by
    simpa using hgeneral t []
  induction values with
  | nil => exact fun own others h => ⟨own, others, rfl, rfl, h⟩
  | cons entry rest ih =>
    intro own others h
    have hstep : putAll (entry :: rest) (own ++ others) =
        putAll rest (put entry.1 entry.2 (own ++ others)) := rfl
    rw [hstep, put_append]
    split
    · rename_i hkey
      have hkeys := keys_put_of_mem (v := entry.2) hkey
      rw [← hkeys] at h ⊢
      exact ih _ others h
    · rename_i hkey
      refine ih own _ fun e he => ?_
      rcases mem_put he with rfl | hold
      · exact hkey
      · exact h e hold

/-- Values under new and distinct keys come behind the table. -/
theorem putAll_eq_append {values t : List (κ × α)} (h : ((t ++ values).map (·.1)).Nodup) :
    putAll values t = t ++ values := by
  induction values generalizing t with
  | nil => simp [putAll]
  | cons entry rest ih =>
    have hnew : entry.1 ∉ t.map (·.1) := by
      intro hmem
      rw [List.map_append, List.nodup_append] at h
      exact h.2.2 _ hmem _ (by simp) rfl
    have hstep : putAll (entry :: rest) t = putAll rest (put entry.1 entry.2 t) := rfl
    rw [hstep, put_of_not_mem hnew, ih]
    · simp
    · simpa using h

/-- A table of entries with distinct keys has just these entries. -/
theorem ofList_eq_self {entries : List (κ × α)} (h : (entries.map (·.1)).Nodup) :
    ofList entries = entries :=
  @putAll_eq_append κ α _ entries [] h

/-! ## What is found behind what is put -/

variable [BEq κ] [LawfulBEq κ]

theorem lookup_cons (key : κ) (entry : κ × α) (t : List (κ × α)) :
    (entry :: t).lookup key = if key = entry.1 then some entry.2 else t.lookup key := by
  obtain ⟨own, v⟩ := entry
  rw [List.lookup_cons]
  by_cases h : key = own
  · rw [if_pos h, beq_iff_eq.mpr h]
  · rw [if_neg h, beq_false_of_ne h]

/-- An entry of a table with distinct keys is what is found under its key. -/
theorem lookup_eq_some_of_mem {t : List (κ × α)} (hnodup : (t.map (·.1)).Nodup) {entry : κ × α}
    (hmem : entry ∈ t) : t.lookup entry.1 = some entry.2 := by
  induction t with
  | nil => simp at hmem
  | cons head rest ih =>
    simp only [List.map_cons, List.nodup_cons] at hnodup
    rw [lookup_cons]
    rcases List.mem_cons.mp hmem with rfl | hrest
    · simp
    · have hne : entry.1 ≠ head.1 := by
        intro heq
        exact hnodup.1 (heq ▸ List.mem_map_of_mem hrest)
      rw [if_neg hne]
      exact ih hnodup.2 hrest

/-- In tables with the same entries under distinct keys, in any order, the same is found. -/
theorem lookup_eq_of_perm {s t : List (κ × α)} (h : s.Perm t) (hnodup : (s.map (·.1)).Nodup)
    (key : κ) : s.lookup key = t.lookup key := by
  cases hlookup : t.lookup key with
  | none =>
    rw [lookup_eq_none_iff, (h.map _).mem_iff]
    exact lookup_eq_none_iff.mp hlookup
  | some v =>
    have hmem : (key, v) ∈ s := h.mem_iff.mpr (mem_of_lookup_eq_some hlookup)
    exact lookup_eq_some_of_mem hnodup hmem

/-- In a table with distinct keys the same is found from either end. -/
theorem lookup_reverse {t : List (κ × α)} (hnodup : (t.map (·.1)).Nodup) (key : κ) :
    t.reverse.lookup key = t.lookup key :=
  (lookup_eq_of_perm (List.reverse_perm t).symm hnodup key).symm

theorem lookup_put (key other : κ) (v : α) (t : List (κ × α)) :
    (put key v t).lookup other = if other = key then some v else t.lookup other := by
  induction t with
  | nil => simp [put, lookup_cons]
  | cons entry rest ih =>
    unfold put
    split
    · rename_i hkey
      simp only [lookup_cons, hkey]
      split <;> rfl
    · rename_i hkey
      simp only [lookup_cons, ih]
      by_cases h : other = entry.1
      · have hne : other ≠ key := fun heq => hkey (h.symm.trans heq)
        simp [h, hkey]
      · simp [h]

/-- Under every key the value put last is found. -/
theorem lookup_putAll (values t : List (κ × α)) (key : κ) :
    (putAll values t).lookup key = (values.reverse.lookup key).or (t.lookup key) := by
  induction values generalizing t with
  | nil => simp [putAll]
  | cons entry rest ih =>
    have hstep : putAll (entry :: rest) t = putAll rest (put entry.1 entry.2 t) := rfl
    rw [hstep, ih, lookup_put, List.reverse_cons, List.lookup_append]
    have hlast : [entry].lookup key = if key = entry.1 then some entry.2 else none := by
      simp [lookup_cons]
    rw [hlast]
    cases rest.reverse.lookup key with
    | some v => simp
    | none => by_cases h : key = entry.1 <;> simp [h]

/-- Tables with the same distinct keys are equal if the same is found under every key. -/
theorem ext_lookup {s t : List (κ × α)} (hkeys : s.map (·.1) = t.map (·.1))
    (hnodup : (s.map (·.1)).Nodup) (h : ∀ key, s.lookup key = t.lookup key) : s = t := by
  induction s generalizing t with
  | nil => simpa using hkeys.symm
  | cons entry rest ih =>
    cases t with
    | nil => simp at hkeys
    | cons entry' rest' =>
      simp only [List.map_cons, List.cons.injEq] at hkeys
      simp only [List.map_cons, List.nodup_cons] at hnodup
      have hhead : entry.2 = entry'.2 := by
        have := h entry.1
        simpa [lookup_cons, hkeys.1] using this
      have hrest : rest = rest' := by
        refine ih hkeys.2 hnodup.2 fun key => ?_
        by_cases hkey : key = entry.1
        · have hnone : rest.lookup key = none := lookup_eq_none_iff.mpr (hkey ▸ hnodup.1)
          have hnone' : rest'.lookup key = none :=
            lookup_eq_none_iff.mpr (hkeys.2 ▸ hkey ▸ hnodup.1)
          rw [hnone, hnone']
        · have := h key
          simpa [lookup_cons, hkey, hkeys.1 ▸ hkey] using this
      rw [Prod.ext hkeys.1 hhead, hrest]

/-- Values put over a table with the same distinct keys replace it. -/
theorem putAll_of_keys_eq {values t : List (κ × α)} (hkeys : values.map (·.1) = t.map (·.1))
    (hnodup : (values.map (·.1)).Nodup) : putAll values t = values := by
  have hsame : (putAll values t).map (·.1) = values.map (·.1) := by
    rw [keys_putAll, hkeys]
    intro e he
    rw [← hkeys]
    exact List.mem_map_of_mem he
  refine ext_lookup hsame (hsame ▸ hnodup) fun key => ?_
  rw [lookup_putAll, lookup_reverse hnodup]
  cases h : values.lookup key with
  | some v => rfl
  | none =>
    rw [lookup_eq_none_iff, hkeys] at h
    exact lookup_eq_none_iff.mpr h

theorem lookup_map (f : κ → α → α) (t : List (κ × α)) (key : κ) :
    (t.map fun e => (e.1, f e.1 e.2)).lookup key = (t.lookup key).map (f key) := by
  induction t with
  | nil => rfl
  | cons entry rest ih =>
    rw [List.map_cons, lookup_cons, lookup_cons, ih]
    by_cases h : key = entry.1
    · simp [h]
    · simp [h]

/-- Values under distinct keys of a table take the places of the values there. -/
theorem putAll_eq_map {values t : List (κ × α)} (hkeys : ∀ e ∈ values, e.1 ∈ t.map (·.1))
    (hvalues : (values.map (·.1)).Nodup) (ht : (t.map (·.1)).Nodup) :
    putAll values t = t.map fun e => (e.1, (values.lookup e.1).getD e.2) := by
  have hsame : (putAll values t).map (·.1) =
      (t.map fun e => (e.1, (values.lookup e.1).getD e.2)).map (·.1) := by
    simpa [Function.comp_def] using keys_putAll hkeys
  refine ext_lookup hsame (keys_putAll hkeys ▸ ht) fun key => ?_
  rw [lookup_putAll, lookup_reverse hvalues,
    lookup_map (fun key v => (values.lookup key).getD v) t key]
  cases hvalue : values.lookup key with
  | none => cases t.lookup key <;> rfl
  | some v =>
    have hmem : key ∈ t.map (·.1) := hkeys _ (mem_of_lookup_eq_some hvalue)
    cases hold : t.lookup key with
    | none => exact absurd hmem (lookup_eq_none_iff.mp hold)
    | some own => rfl

end Table

end ErDiagram

import ErDiagram.Proofs.Reading.OptionList
import ErDiagram.Proofs.Writing.Option

set_option autoImplicit false

/-!
# Writing option lists

An option list is written with its options between semicolons, in any order.  Read back, it puts each
value in the place of its name and leaves the other places as they are.
-/

namespace ErDiagram

open Quoting (Hides IsMarks)

/-! ## Option lists -/

/-- Options of one place, each given once at most. -/
structure WrittenOptions (allowed : List OptionName) where
  list : List WrittenOption
  nodup : (list.map (·.name)).Nodup
  mem_allowed : ∀ s ∈ list, s.name ∈ allowed

namespace WrittenOptions

variable {allowed : List OptionName}

/-- The option list as it is written, without its brackets. -/
def written (s : WrittenOptions allowed) : Text :=
  Text.join [optionSeparator, ' '] (s.list.map WrittenOption.written)

/-- The value that is given for a name. -/
def value? (s : WrittenOptions allowed) (name : OptionName) : Option OptionValue :=
  (s.list.map fun x => (x.name, x.value)).lookup name

/-- The raw values of the keys, in order. -/
def raw (s : WrittenOptions allowed) : List (Text × Text) :=
  s.list.map fun x => (x.name.key, x.value.raw)

theorem hides_written {p : Char → Bool} (hp : IsMarks p) (hseparator : p optionSeparator = false)
    (hassignment : p optionAssignment = false) (hblank : p ' ' = false) (s : WrittenOptions allowed) :
    Hides p s.written := by
  refine (Quoting.hides_separator (by decide) hseparator hblank).join fun t ht => ?_
  obtain ⟨x, -, rfl⟩ := List.mem_map.mp ht
  exact x.hides_written hp hassignment hblank

theorem trimmed_written {p : Char → Bool} (hp : IsMarks p) (s : WrittenOptions allowed) :
    Text.Trimmed p s.written := by
  refine (Text.trimmed_join fun t ht => ?_).1
  obtain ⟨x, -, rfl⟩ := List.mem_map.mp ht
  obtain ⟨htrimmed, hne⟩ := x.trimmed_written hp
  exact ⟨hne, htrimmed⟩

theorem strip_written (s : WrittenOptions allowed) : Text.strip s.written = s.written :=
  Text.stripOf_eq_self (s.trimmed_written Quoting.isMarks_isBlank)

/-- A written option list is read as its keys and raw values. -/
theorem readOptionList_written (s : WrittenOptions allowed) :
    readOptionList s.written = .ok s.raw := by
  have hpieces : Quoting.pieces s.written optionSeparator = s.list.map WrittenOption.written := by
    refine Quoting.pieces_join (by decide) (by decide) fun t ht => ?_
    obtain ⟨x, -, rfl⟩ := List.mem_map.mp ht
    obtain ⟨htrimmed, hne⟩ := x.trimmed_written Quoting.isMarks_isBlank
    exact ⟨hne, htrimmed, x.hides_written (Quoting.isMarks_beq (by decide) (by decide)) rfl rfl⟩
  have hkeys : (s.list.map (·.name.key)).Nodup := by
    have := List.Nodup.map (fun _ _ => WrittenOption.key_injective) s.nodup
    rwa [List.map_map] at this
  rw [readOptionList_eq_ok, hpieces, raw, List.forall₂_map_left_iff, List.forall₂_map_right_iff,
    List.forall₂_same, List.map_map]
  exact ⟨fun x _ => ⟨(x.trimmed_written Quoting.isMarks_isBlank).2, x.readOptionPair_written⟩, hkeys⟩

theorem lookup_raw (s : WrittenOptions allowed) (name : OptionName) :
    s.raw.lookup name.key = (s.value? name).map OptionValue.raw := by
  unfold raw value?
  induction s.list with
  | nil => rfl
  | cons x rest ih =>
    rw [List.map_cons, List.map_cons, Table.lookup_cons, Table.lookup_cons, ih]
    by_cases hname : name = x.name
    · rw [if_pos hname, if_pos (congrArg _ hname)]
      rfl
    · rw [if_neg hname, if_neg fun hkey => hname (WrittenOption.key_injective hkey)]

/-- A value that is given for a name has its type and can be written. -/
theorem typed_of_value? {s : WrittenOptions allowed} {name : OptionName} {v : OptionValue}
    (h : s.value? name = some v) : name ∈ allowed ∧ v.type = name.type ∧ v.Writable := by
  obtain ⟨x, hx, heq⟩ := List.mem_map.mp (Table.mem_of_lookup_eq_some h)
  cases heq
  exact ⟨s.mem_allowed x hx, x.typed, x.writable⟩

/-- The names that have a value, with it. -/
def values (s : WrittenOptions allowed) (names : List OptionName) :
    List (OptionName × OptionValue) :=
  names.filterMap fun name => (s.value? name).map fun v => (name, v)

theorem readValues_raw (s : WrittenOptions allowed) (names : List OptionName) :
    readValues s.raw names = .ok (s.values names) := by
  induction names with
  | nil => rfl
  | cons name rest ih =>
    cases hvalue : s.value? name with
    | none =>
      simp only [readValues, lookup_raw, hvalue, ih]
      simp [values, hvalue]
    | some v =>
      obtain ⟨-, htype, hwritable⟩ := typed_of_value? hvalue
      have hvalues : s.values (name :: rest) = (name, v) :: s.values rest := by
        simp [values, hvalue]
      simp only [readValues, lookup_raw, hvalue, ih, hvalues, Option.map_some,
        OptionValue.read_raw htype hwritable]
      rfl

end WrittenOptions

/-- The map with the given values in place of its own. -/
def OptionMap.set {allowed : List OptionName} (m : OptionMap) (s : WrittenOptions allowed) :
    OptionMap :=
  ⟨m.entries.map fun entry => (entry.1, (s.value? entry.1).getD entry.2)⟩

namespace WrittenOptions

variable {allowed : List OptionName}

theorem mem_values {s : WrittenOptions allowed} {names : List OptionName}
    {entry : OptionName × OptionValue} :
    entry ∈ s.values names ↔ entry.1 ∈ names ∧ s.value? entry.1 = some entry.2 := by
  obtain ⟨name, v⟩ := entry
  simp only [values, List.mem_filterMap, Option.map_eq_some_iff, Prod.mk.injEq]
  constructor
  · rintro ⟨n, hn, v', hv, rfl, rfl⟩
    exact ⟨hn, hv⟩
  · rintro ⟨hn, hv⟩
    exact ⟨name, hn, v, hv, rfl, rfl⟩

theorem typedFor_set (s : WrittenOptions allowed) {m : OptionMap} (hm : m.TypedFor allowed) :
    (m.set s).TypedFor allowed := by
  constructor
  · refine Eq.trans ?_ hm.names_eq
    simp [OptionMap.names, OptionMap.set]
  · intro entry hentry
    obtain ⟨own, hown, rfl⟩ := List.mem_map.mp hentry
    cases hvalue : s.value? own.1 with
    | none => exact hm.typed own hown
    | some v => exact (typed_of_value? hvalue).2.1

theorem keys_values (s : WrittenOptions allowed) (names : List OptionName) :
    (s.values names).map (·.1) = names.filter fun name => (s.value? name).isSome := by
  induction names with
  | nil => rfl
  | cons name rest ih =>
    unfold values at ih ⊢
    cases hvalue : s.value? name with
    | none => simpa [hvalue] using ih
    | some v => simpa [hvalue] using ih

theorem lookup_values (s : WrittenOptions allowed) {names : List OptionName} (hnodup : names.Nodup)
    {name : OptionName} (hname : name ∈ names) : (s.values names).lookup name = s.value? name := by
  have hkeys : ((s.values names).map (·.1)).Nodup := by
    rw [keys_values]
    exact hnodup.filter _
  cases hvalue : s.value? name with
  | none =>
    rw [Table.lookup_eq_none_iff, keys_values, List.mem_filter, hvalue]
    simp
  | some v =>
    have hmem : (name, v) ∈ s.values names := mem_values.mpr ⟨hname, hvalue⟩
    exact Table.lookup_eq_some_of_mem hkeys hmem

/-- Assigning the given values one after the other puts each in its place. -/
theorem assign_values (s : WrittenOptions allowed) (hnodup : allowed.Nodup) {m : OptionMap}
    (hm : m.TypedFor allowed) : m.assign (s.values allowed) = m.set s := by
  have hnames : m.entries.map (·.1) = allowed := hm.names_eq
  have hvalues : ∀ entry ∈ s.values allowed, entry.1 ∈ m.entries.map (·.1) := by
    intro entry hentry
    rw [hnames]
    exact (mem_values.mp hentry).1
  have hkeys : ((s.values allowed).map (·.1)).Nodup := by
    rw [keys_values]
    exact hnodup.filter _
  have hplaces : ∀ entry ∈ m.entries,
      (entry.1, ((s.values allowed).lookup entry.1).getD entry.2) =
        (entry.1, (s.value? entry.1).getD entry.2) := by
    intro entry hentry
    have hname : entry.1 ∈ allowed := hnames ▸ List.mem_map_of_mem hentry
    rw [lookup_values s hnodup hname]
  rw [OptionMap.assign, Table.putAll_eq_map hvalues hkeys (hnames ▸ hnodup),
    List.map_congr_left hplaces, OptionMap.set]

/-- The raw values of a written list, applied to a map of its names, put the values in their
places. -/
theorem applyOptions_raw (s : WrittenOptions allowed) (hnodup : allowed.Nodup) {m : OptionMap}
    (hm : m.TypedFor allowed) (line : Line) :
    (applyOptions s.raw allowed m (some line)).result = .ok (m.set s) := by
  have hdistinct : distinctNames allowed = allowed := OptionMap.names_ofNames hnodup
  rw [applyOptions_eq_ok, hdistinct]
  refine ⟨s.values allowed, s.readValues_raw allowed, ?_⟩
  rw [← s.assign_values hnodup hm]
  refine hm.updated_values hnodup fun entry hentry => ?_
  obtain ⟨hname, hvalue⟩ := mem_values.mp hentry
  exact ⟨hname, (typed_of_value? hvalue).2.1⟩

end WrittenOptions

end ErDiagram

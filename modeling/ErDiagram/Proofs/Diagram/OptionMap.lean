import ErDiagram.Diagram.OptionMap
import ErDiagram.Proofs.Collection

set_option autoImplicit false

/-!
# Option maps hold values of the declared types

An option map starts from defaults, which have the declared types, and accepts a value only under a
name that it has and with the type that the name declares.  So whatever is laid over a map, its
names stay the same and its values stay of their types.  Laying well-typed values over a map never
fails, and under every name the value laid last is found.
-/

namespace ErDiagram.OptionMap

/-- The map holds exactly these names, in order, each with a value of its declared type. -/
structure TypedFor (m : OptionMap) (names : List OptionName) : Prop where
  names_eq : m.names = names
  typed : ∀ entry ∈ m.entries, entry.2.type = entry.1.type

theorem type_default (name : OptionName) : name.default.type = name.type := by
  cases name <;> rfl

/-! ## Defaults -/

theorem ofNames_entries {names : List OptionName} (h : names.Nodup) :
    (ofNames names).entries = names.map fun n => (n, n.default) := by
  refine Table.ofList_eq_self ?_
  simpa [Function.comp_def] using h

theorem names_ofNames {names : List OptionName} (h : names.Nodup) :
    (ofNames names).names = names := by
  simp [OptionMap.names, ofNames_entries h, Function.comp_def]

theorem typedFor_ofNames {names : List OptionName} (h : names.Nodup) :
    (ofNames names).TypedFor names := by
  refine ⟨names_ofNames h, ?_⟩
  intro entry hentry
  rw [ofNames_entries h, List.mem_map] at hentry
  obtain ⟨n, _, rfl⟩ := hentry
  exact type_default n

/-- The four sets of names have no name twice. -/
theorem nodup_ofDiagram : OptionName.ofDiagram.Nodup := by decide

theorem nodup_ofEntity : OptionName.ofEntity.Nodup := by decide

theorem nodup_ofAttribute : OptionName.ofAttribute.Nodup := by decide

theorem nodup_ofRelationship : OptionName.ofRelationship.Nodup := by decide

/-! ## Accepting values -/

/-- What is accepted is a value of the declared type under a name of the map. -/
theorem accept_eq_ok {m m' : OptionMap} {name : OptionName} {offer : Offer} :
    m.accept name offer = .ok m' ↔
      name ∈ m.names ∧ ∃ v, offer = .value v ∧ v.type = name.type ∧
        m' = ⟨Table.put name v m.entries⟩ := by
  unfold accept
  by_cases hname : name ∈ m.names
  · cases offer with
    | foreign t => simp [hname]
    | value v =>
      by_cases htype : v.type = name.type
      · simp [hname, htype, @eq_comm _ m']
      · simp [hname, htype]
  · simp [hname]

theorem TypedFor.put {m : OptionMap} {names : List OptionName} (h : m.TypedFor names)
    {name : OptionName} {v : OptionValue} (hname : name ∈ m.names) (htype : v.type = name.type) :
    (⟨Table.put name v m.entries⟩ : OptionMap).TypedFor names := by
  refine ⟨(Table.keys_put_of_mem hname).trans h.names_eq, ?_⟩
  intro entry hentry
  rcases Table.mem_put hentry with rfl | hold
  · exact htype
  · exact h.typed entry hold

/-- Accepting offers keeps the names and the types. -/
theorem TypedFor.acceptAll {offers : List (OptionName × Offer)} :
    ∀ {m m' : OptionMap} {names : List OptionName}, m.TypedFor names →
      m.acceptAll offers = .ok m' → m'.TypedFor names := by
  induction offers with
  | nil =>
    intro m m' names hm h
    cases h
    exact hm
  | cons offer rest ih =>
    intro m m' names hm h
    rw [OptionMap.acceptAll] at h
    split at h
    · cases h
    · rename_i next hnext
      obtain ⟨hname, v, -, htype, rfl⟩ := accept_eq_ok.mp hnext
      exact ih (hm.put hname htype) h

/-- Offers laid over a map keep its names and give values of the declared types. -/
theorem TypedFor.updated {m m' : OptionMap} {names : List OptionName}
    {offers : List (OptionName × Offer)} (hnodup : names.Nodup) (hm : m.TypedFor names)
    (h : m.updated offers = .ok m') : m'.TypedFor names := by
  unfold OptionMap.updated build at h
  rw [hm.names_eq] at h
  exact (typedFor_ofNames hnodup).acceptAll h

/-! ## Laying values over a map -/

/-- Values of the declared types are accepted one after the other. -/
theorem acceptAll_values {values : List (OptionName × OptionValue)} :
    ∀ {m : OptionMap}, (∀ e ∈ values, e.1 ∈ m.names ∧ e.2.type = e.1.type) →
      m.acceptAll (values.map fun e => (e.1, Offer.value e.2)) =
        .ok ⟨Table.putAll values m.entries⟩ := by
  induction values with
  | nil =>
    intro m _
    rfl
  | cons entry rest ih =>
    intro m h
    obtain ⟨hname, htype⟩ := h entry List.mem_cons_self
    have haccept : m.accept entry.1 (.value entry.2) =
        .ok ⟨Table.put entry.1 entry.2 m.entries⟩ :=
      accept_eq_ok.mpr ⟨hname, entry.2, rfl, htype, rfl⟩
    have hnames : (⟨Table.put entry.1 entry.2 m.entries⟩ : OptionMap).names = m.names :=
      Table.keys_put_of_mem hname
    rw [List.map_cons, OptionMap.acceptAll, haccept]
    refine ih fun e he => ?_
    rw [hnames]
    exact h e (List.mem_cons_of_mem _ he)

/-- Values laid over a map, as offers, are the offers of the values laid over its entries. -/
theorem overlaid_values (m : OptionMap) (values : List (OptionName × OptionValue)) :
    m.overlaid (values.map fun e => (e.1, Offer.value e.2)) =
      (Table.putAll values m.entries).map fun e => (e.1, Offer.value e.2) := by
  have hput : ∀ (name : OptionName) (v : OptionValue) (t : List (OptionName × OptionValue)),
      Table.put name (Offer.value v) (t.map fun e => (e.1, Offer.value e.2)) =
        (Table.put name v t).map fun e => (e.1, Offer.value e.2) := by
    intro name v t
    induction t with
    | nil => rfl
    | cons entry rest ih =>
      simp only [List.map_cons, Table.put]
      split
      · rfl
      · rw [ih, List.map_cons]
  unfold overlaid
  generalize m.entries = t
  induction values generalizing t with
  | nil => rfl
  | cons entry rest ih =>
    rw [List.map_cons, List.foldl_cons, hput, ih]
    rfl

/-- The map with values put over its own. -/
def assign (m : OptionMap) (values : List (OptionName × OptionValue)) : OptionMap :=
  ⟨Table.putAll values m.entries⟩

/-- Under every name the value put last is found. -/
theorem get?_assign (m : OptionMap) (values : List (OptionName × OptionValue))
    (name : OptionName) :
    (m.assign values).get? name = (values.reverse.lookup name).or (m.get? name) :=
  Table.lookup_putAll values m.entries name

theorem TypedFor.assign {names : List OptionName} {values : List (OptionName × OptionValue)} :
    ∀ {m : OptionMap}, m.TypedFor names → (∀ e ∈ values, e.1 ∈ names ∧ e.2.type = e.1.type) →
      (m.assign values).TypedFor names := by
  induction values with
  | nil =>
    intro m hm _
    exact hm
  | cons entry rest ih =>
    intro m hm h
    obtain ⟨hname, htype⟩ := h entry List.mem_cons_self
    exact ih (hm.put (hm.names_eq ▸ hname) htype) fun e he => h e (List.mem_cons_of_mem _ he)

/-- Values of the declared types, under names of a map, are laid over it without a fault. -/
theorem TypedFor.updated_values {m : OptionMap} {names : List OptionName} (hnodup : names.Nodup)
    (hm : m.TypedFor names) {values : List (OptionName × OptionValue)}
    (h : ∀ e ∈ values, e.1 ∈ names ∧ e.2.type = e.1.type) :
    m.updated (values.map fun e => (e.1, Offer.value e.2)) = .ok (m.assign values) := by
  have hassigned : (m.assign values).TypedFor names := hm.assign h
  have hkeys : (m.assign values).entries.map (·.1) = names := hassigned.names_eq
  have hdefaults : (ofNames names).entries.map (·.1) = names := names_ofNames hnodup
  -- every name of the map is offered its new value, so nothing of the defaults is left
  have hreplaced : Table.putAll (m.assign values).entries (ofNames names).entries =
      (m.assign values).entries :=
    Table.putAll_of_keys_eq (hkeys.trans hdefaults.symm) (hkeys ▸ hnodup)
  have hoffered : ∀ e ∈ (m.assign values).entries,
      e.1 ∈ (ofNames names).names ∧ e.2.type = e.1.type := by
    intro e he
    have hname : e.1 ∈ (m.assign values).entries.map (·.1) := List.mem_map_of_mem he
    rw [names_ofNames hnodup, ← hkeys]
    exact ⟨hname, hassigned.typed e he⟩
  rw [OptionMap.updated, build, hm.names_eq, overlaid_values]
  refine (acceptAll_values hoffered).trans ?_
  rw [hreplaced]

end ErDiagram.OptionMap

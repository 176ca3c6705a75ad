import ErDiagram.Dot.Render
import ErDiagram.Proofs.Number.Numeral
import ErDiagram.Proofs.Reading.Staged
import ErDiagram.Proofs.Reading.WellFormed

set_option autoImplicit false

/-!
# Reading and drawing are total

In English, reading a document gives a diagram or at least one report, whatever its lines are.  Every
option map of the diagram then holds exactly the options of its place with values of their types, so
none of them is ever asked in vain, and the diagram is drawn under all settings.  The only thing that
could stop the drawing is a size with too many digits to be written, and no such size is ever read.
-/

namespace ErDiagram

/-! ## Numbers that can be written -/

/-- A value that is a number has no more digits than a numeral may have. -/
def OptionValue.IsWritable : OptionValue → Prop
  | .whole n => (Text.ofNat n.natAbs).length ≤ Numeral.digitLimit
  | _ => True

/-- Every number of the map can be written. -/
def OptionMap.IsWritable (m : OptionMap) : Prop := ∀ entry ∈ m.entries, entry.2.IsWritable

theorem isWritable_of_read {name : OptionName} {t : Text} {value : OptionValue}
    (h : name.read t = .ok (some value)) : value.IsWritable := by
  cases name with
  | title | linkFiles | mark | n1 | n2 =>
    cases h
    trivial
  | titleSize =>
    obtain ⟨number, hnumber, hvalue⟩ := Except.map_eq_ok_iff.mp h
    obtain ⟨n, rfl, rfl⟩ := Option.map_eq_some_iff.mp hvalue
    unfold readWhole at hnumber
    split at hnumber
    · cases hnumber
    · split at hnumber
      · rename_i read hread
        cases hnumber
        exact Numeral.length_le_of_read hread
      · cases hnumber
  | color =>
    obtain ⟨c, -, hvalue⟩ := Except.map_eq_ok_iff.mp h
    cases hvalue
    trivial
  | verbReverse =>
    obtain ⟨b, -, hvalue⟩ := Except.map_eq_ok_iff.mp h
    cases hvalue
    trivial

theorem isWritable_of_readValues {raw : List (Text × Text)} {names : List OptionName} :
    ∀ {values : List (OptionName × OptionValue)}, readValues raw names = .ok values →
      ∀ e ∈ values, e.2.IsWritable := by
  induction names with
  | nil =>
    intro values h e he
    cases h
    cases he
  | cons name rest ih =>
    intro values h
    rw [readValues] at h
    split at h
    · exact ih h
    · split at h
      · cases h
      · exact ih h
      · rename_i value hread
        obtain ⟨others, hothers, rfl⟩ := Except.map_eq_ok_iff.mp h
        exact List.forall_mem_cons.mpr ⟨isWritable_of_read hread, ih hothers⟩

theorem OptionMap.IsWritable.assign {values : List (OptionName × OptionValue)} :
    ∀ {m : OptionMap}, m.IsWritable → (∀ e ∈ values, e.2.IsWritable) →
      (m.assign values).IsWritable := by
  induction values with
  | nil => exact fun hm _ => hm
  | cons entry rest ih =>
    intro m hm h
    obtain ⟨hentry, hrest⟩ := List.forall_mem_cons.mp h
    refine @ih ⟨Table.put entry.1 entry.2 m.entries⟩ ?_ hrest
    intro e he
    rcases Table.mem_put he with rfl | hold
    · exact hentry
    · exact hm e hold

theorem isWritable_defaults : (OptionMap.ofNames OptionName.ofDiagram).IsWritable := by
  intro entry hentry
  rw [OptionMap.ofNames_entries OptionMap.nodup_ofDiagram] at hentry
  simp only [OptionName.ofDiagram, List.map_cons, List.map_nil, List.mem_cons, List.not_mem_nil,
    or_false] at hentry
  rcases hentry with rfl | rfl | rfl
  · trivial
  · change (Text.ofNat 12).length ≤ 4300
    decide
  · trivial

/-- A line of global options lays numbers over a map that were read, and so can be written. -/
theorem isWritable_of_readGlobalOptions {m m' : OptionMap} {line : Line}
    (hm : m.TypedFor OptionName.ofDiagram) (hwritable : m.IsWritable)
    (h : (readGlobalOptions m line).result = .ok m') : m'.IsWritable := by
  rw [readGlobalOptions_result hm] at h
  split at h
  · cases h
  · split at h
    · cases h
    · rename_i values hvalues
      cases h
      exact hwritable.assign (isWritable_of_readValues hvalues)

theorem AcceptedAs.isWritable {ids : IdSource} {lines : List Line} {d : Diagram} {g : Grouping}
    {options : OptionMap} {named : EntityStage} {built : RelationshipStage}
    (h : AcceptedAs ids lines d g options named built) : d.options.IsWritable := by
  rw [h.diagram_eq]
  refine (h.optionsRun.invariant
    (P := fun _ m => m.TypedFor OptionName.ofDiagram ∧ m.IsWritable)
    ⟨typedFor_defaults, isWritable_defaults⟩ ?_).2
  rintro _ line m ⟨htyped, hwritable⟩ hfault
  have hread := stepOptions_clean.mp ⟨hfault, rfl⟩
  exact ⟨typedFor_of_readGlobalOptions htyped hread,
    isWritable_of_readGlobalOptions htyped hwritable hread⟩

/-! ## Drawings -/

/-- The size of the title is a number of the options, or the default. -/
theorem length_titleSize_le {d : Diagram} (h : d.options.IsWritable) :
    (Text.ofNat (Dot.titleSize d).natAbs).length ≤ Numeral.digitLimit := by
  unfold Dot.titleSize OptionMap.whole
  split
  · rename_i n hn
    exact h _ (Table.mem_of_lookup_eq_some hn)
  · change (Text.ofNat 12).length ≤ 4300
    decide

/-- A diagram whose options can be written is drawn under all settings. -/
theorem exists_drawing {d : Diagram} (h : d.options.IsWritable) (s : Settings) :
    ∃ t, Dot.render? d s = some t := by
  rw [Dot.render?, Numeral.write?_eq_some (length_titleSize_le h)]
  exact ⟨_, rfl⟩

/-! ## Reading and drawing -/

/-- Every option map of the diagram holds the options of its place, with values of their types. -/
structure Diagram.OptionsTyped (d : Diagram) : Prop where
  diagram_typed : d.options.TypedFor OptionName.ofDiagram
  entity_typed : ∀ e ∈ d.entities, e.options.TypedFor OptionName.ofEntity
  attribute_typed : ∀ e ∈ d.entities, ∀ a ∈ e.attributes, a.options.TypedFor OptionName.ofAttribute
  relationship_typed : ∀ r ∈ d.relationships, r.options.TypedFor OptionName.ofRelationship

theorem AcceptedAs.optionsTyped {ids : IdSource} {lines : List Line} {d : Diagram} {g : Grouping}
    {options : OptionMap} {named : EntityStage} {built : RelationshipStage}
    (h : AcceptedAs ids lines d g options named built) : d.OptionsTyped := by
  constructor
  case diagram_typed =>
    rw [h.diagram_eq]
    exact h.options_typed
  case entity_typed => exact fun e he => (h.entity_wellFormed he).options_typed
  case attribute_typed => exact fun e he => (h.entity_wellFormed he).attribute_typed
  case relationship_typed => exact fun r hr => h.relationship_typed hr

/-- Whatever the lines and the ids handed out before, reading gives a diagram that is drawn under all
settings, or it gives at least one report. -/
theorem read_and_draw_total (ids : IdSource) (lines : List (Option Text)) :
    (∃ d, (readLines Catalog.english ids lines).result = .ok (.ok d) ∧ d.OptionsTyped ∧
        ∀ s : Settings, ∃ t, Dot.render? d s = some t) ∨
      ∃ reports, (readLines Catalog.english ids lines).result = .ok (.error reports) ∧
        reports ≠ [] := by
  obtain ⟨outcome, houtcome⟩ :=
    exists_result_english ids (Line.ofTexts (lines.map fun l => l.getD []))
  cases outcome with
  | ok d =>
    obtain ⟨g, options, named, built, haccepted⟩ := readDocument_eq_diagram_iff.mp houtcome
    exact .inl ⟨d, houtcome, haccepted.optionsTyped, exists_drawing haccepted.isWritable⟩
  | error reports =>
    exact .inr ⟨reports, houtcome, (rejectedAs_of_readDocument houtcome).ne_nil⟩

end ErDiagram

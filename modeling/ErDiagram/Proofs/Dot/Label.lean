import ErDiagram.Proofs.Dot.Escape

set_option autoImplicit false

/-!
# Which attributes close

The labels of a node and of an edge are put together from escaped texts and plain characters, so
they close exactly if none of these texts holds a double quote.  The defaults quote their texts and
always close.  A link is written as it is, with the name of the entity in it.
-/

namespace ErDiagram

/-! ## Texts without double quotes -/

/-- The texts of the attribute hold no double quote. -/
structure Attribute.QuoteFree (a : Attribute) : Prop where
  name : Quoting.quote ∉ a.name
  mark : Quoting.quote ∉ a.options.text .mark

/-- The texts of the entity and of its attributes hold no double quote. -/
structure Entity.QuoteFree (e : Entity) : Prop where
  name : Quoting.quote ∉ e.name
  mark : Quoting.quote ∉ e.options.text .mark
  attributes : ∀ a ∈ e.attributes, a.QuoteFree

/-- The texts on the edge of the relationship hold no double quote. -/
structure Relationship.QuoteFree (r : Relationship) : Prop where
  verb : Quoting.quote ∉ r.verb.text
  first : Quoting.quote ∉ r.options.text .n1
  second : Quoting.quote ∉ r.options.text .n2

theorem Attribute.quoteFree_iff {a : Attribute} :
    a.QuoteFree ↔ Quoting.quote ∉ a.name ∧ Quoting.quote ∉ a.options.text .mark :=
  ⟨fun h => ⟨h.name, h.mark⟩, fun h => ⟨h.1, h.2⟩⟩

theorem Entity.quoteFree_iff {e : Entity} :
    e.QuoteFree ↔ (Quoting.quote ∉ e.name ∧ Quoting.quote ∉ e.options.text .mark) ∧
      ∀ a ∈ e.attributes, a.QuoteFree :=
  ⟨fun h => ⟨⟨h.name, h.mark⟩, h.attributes⟩, fun h => ⟨h.1.1, h.1.2, h.2⟩⟩

theorem Relationship.quoteFree_iff {r : Relationship} :
    r.QuoteFree ↔ Quoting.quote ∉ r.options.text .n1 ∧ Quoting.quote ∉ r.options.text .n2 ∧
      Quoting.quote ∉ r.verb.text :=
  ⟨fun h => ⟨h.first, h.second, h.verb⟩, fun h => ⟨h.2.2, h.1, h.2.1⟩⟩

instance (a : Attribute) : Decidable a.QuoteFree :=
  decidable_of_iff _ Attribute.quoteFree_iff.symm

instance (e : Entity) : Decidable e.QuoteFree := decidable_of_iff _ Entity.quoteFree_iff.symm

instance (r : Relationship) : Decidable r.QuoteFree :=
  decidable_of_iff _ Relationship.quoteFree_iff.symm

namespace Dot

/-! ## Labels of nodes -/

theorem not_mem_marked_iff {c : Char} (hc : c ∉ markSeparator) {name mark : Text} :
    c ∉ marked name mark ↔ c ∉ name ∧ c ∉ mark := by
  unfold marked
  split
  · rename_i hmark
    rw [List.isEmpty_iff.mp hmark]
    simp
  · simp [hc]

/-- The cell of a name closes exactly if the texts of its attribute hold no double quote. -/
theorem closesIf_nameCell (a : Attribute) : ClosesIf (nameCell a) a.QuoteFree := by
  have hforeign : ClosesIf (if a.isForeignKey then escapeLabel " (FK)".toList else []) True := by
    split
    · exact (closesIf_escapeLabel _).congr (by decide)
    · exact closesIf_nil
  have hmark : ClosesIf (if (a.options.text .mark).isEmpty then []
      else escapeLabel (markSeparator ++ a.options.text .mark))
      (Quoting.quote ∉ a.options.text .mark) := by
    split
    · rename_i hempty
      rw [List.isEmpty_iff.mp hempty]
      exact closesIf_nil.congr (by simp)
    · have hseparator : Quoting.quote ∉ markSeparator := by decide
      exact (closesIf_escapeLabel _).congr (by simp [hseparator])
  have hbreak : ClosesIf ['\\', 'l'] True := by
    intro rest
    rw [true_and]
    rfl
  refine ((((closesIf_escapeLabel a.name).append hforeign).append hmark).append hbreak).congr ?_
  rw [Attribute.quoteFree_iff, and_true, and_true]

theorem closesIf_keyCell (a : Attribute) : ClosesIf (keyCell a) True := by
  unfold keyCell
  split <;> exact closesIf_plain (by decide)

/-- The record of an entity closes exactly if the texts of the entity hold no double quote. -/
theorem closesIf_nodeLabel (e : Entity) : ClosesIf (nodeLabel e) e.QuoteFree := by
  have htitle : ClosesIf (escapeLabel (marked e.name (e.options.text .mark)))
      (Quoting.quote ∉ e.name ∧ Quoting.quote ∉ e.options.text .mark) :=
    (closesIf_escapeLabel _).congr (not_mem_marked_iff (by decide))
  unfold nodeLabel
  split
  · rename_i hempty
    refine htitle.congr ?_
    rw [Entity.quoteFree_iff, List.isEmpty_iff.mp hempty]
    simp
  · have hseparator : ClosesIf ['|'] True := closesIf_plain (by decide)
    have hkeys : ClosesIf (Text.join ['|'] (e.attributes.map keyCell)) True :=
      (hseparator.join fun a _ => closesIf_keyCell a).congr (by simp)
    have hnames : ClosesIf (Text.join ['|'] (e.attributes.map nameCell))
        (∀ a ∈ e.attributes, a.QuoteFree) :=
      hseparator.join fun a _ => closesIf_nameCell a
    have hopen : ClosesIf ['|', '{', '{'] True := closesIf_plain (by decide)
    have hbetween : ClosesIf ['}', '|', '{'] True := closesIf_plain (by decide)
    have hclose : ClosesIf ['}', '}'] True := closesIf_plain (by decide)
    refine (((((htitle.append hopen).append hkeys).append hbetween).append hnames).append
      hclose).congr ?_
    rw [Entity.quoteFree_iff, and_true, and_true, and_true, and_true]

theorem closesIf_turned (direction : RankDirection) {label : Text} {P : Prop}
    (h : ClosesIf label P) : ClosesIf (turned direction label) P := by
  cases direction with
  | leftToRight => exact h
  | topToBottom =>
    have hopen : ClosesIf ['{'] True := closesIf_plain (by decide)
    have hclose : ClosesIf ['}'] True := closesIf_plain (by decide)
    exact ((hopen.append h).append hclose).congr (by simp)

/-! ## Labels of edges -/

theorem not_mem_wrapLabel_iff {c : Char} (hc : c ≠ ' ') {t : Text} : c ∉ wrapLabel t ↔ c ∉ t := by
  unfold wrapLabel
  split
  · rename_i hempty
    rw [List.isEmpty_iff.mp hempty]
  · simp [hc]

theorem isWord_notation_endLabel (n : DotNotation) (e : End) (role : Role) :
    ∀ c ∈ n.endLabel e role, Quoting.isWord c = true := by
  obtain ⟨count, optionality⟩ := e
  refine List.all_eq_true.mp ?_
  cases n <;> cases role <;> cases count <;> cases optionality <;> rfl

/-- The label at an end shows the text given for it, or else a word of the notation. -/
theorem exists_endLabel (s : Settings) (given : Text) (e : End) (role : Role) :
    ∃ words, endLabel s given e role = escapeLabel (wrapLabel words) ∧
      ∀ c, Quoting.isWord c = false → (c ∈ words ↔ c ∈ given) := by
  refine ⟨_, rfl, ?_⟩
  intro c hc
  split
  · rename_i hempty
    have hword : c ∉ s.style.endLabel e role := by
      intro hmem
      rw [isWord_notation_endLabel _ _ _ c hmem] at hc
      cases hc
    simp [List.isEmpty_iff.mp hempty, hword]
  · exact Iff.rfl

/-- The marks that show which way the words on an edge read. -/
def directionMarks : List Char := ['[', ']', '<', '>']

/-- The label of an edge shows its words and the marks of their direction. -/
theorem exists_edgeLabel (v : VerbPhrase) :
    ∃ words, edgeLabel v = escapeLabel (wrapLabel words) ∧
      ∀ c ∉ directionMarks, (c ∈ words ↔ c ∈ v.text) := by
  unfold edgeLabel
  split
  · rename_i hempty
    exact ⟨[], rfl, by simp [List.isEmpty_iff.mp hempty]⟩
  · refine ⟨_, rfl, ?_⟩
    intro c hc
    simp only [directionMarks, List.mem_cons, List.not_mem_nil, or_false, not_or] at hc
    cases v.direction <;> simp [hc]

/-- The label at an end closes exactly if the text given for it holds no double quote. -/
theorem closesIf_endLabel (s : Settings) (given : Text) (e : End) (role : Role) :
    ClosesIf (endLabel s given e role) (Quoting.quote ∉ given) := by
  obtain ⟨words, hlabel, hwords⟩ := exists_endLabel s given e role
  rw [hlabel]
  refine (closesIf_escapeLabel _).congr ?_
  rw [not_mem_wrapLabel_iff (by decide), hwords Quoting.quote (by decide)]

/-- The words on an edge close exactly if they hold no double quote. -/
theorem closesIf_edgeLabel (v : VerbPhrase) : ClosesIf (edgeLabel v) (Quoting.quote ∉ v.text) := by
  obtain ⟨words, hlabel, hwords⟩ := exists_edgeLabel v
  rw [hlabel]
  refine (closesIf_escapeLabel _).congr ?_
  rw [not_mem_wrapLabel_iff (by decide), hwords Quoting.quote (by decide)]

theorem shownVerb_text (r : Relationship) : (shownVerb r).text = r.verb.text := by
  unfold shownVerb
  split <;> rfl

/-! ## Attributes -/

theorem forall_mem_onlyIf {condition : Bool} {attributes : List DotAttribute}
    {P : DotAttribute → Prop} :
    (∀ a ∈ onlyIf condition attributes, P a) ↔ (condition = true → ∀ a ∈ attributes, P a) := by
  cases condition <;> simp [onlyIf]

@[simp] theorem closes_plain (name : String) (t : Text) : (plain name t).closes = true := rfl

@[simp] theorem closes_verbatim (name : String) (body : Text) :
    (verbatim name body).closes = closes body := rfl

@[simp] theorem closes_escaped (name : String) (t : Text) : (escaped name t).closes = true :=
  closes_quotePasses t

theorem closes_color (c : Color) : closes c.dark = true ∧ closes c.light = true := by
  cases c <;> decide

/-- The link of an entity: that of the diagram, with the name of the entity in it. -/
def entityLink (d : Diagram) (e : Entity) : Text :=
  Text.replaceAll linkPlaceholder e.name (d.options.text .linkFiles)

theorem closes_fontAttribute (s : Settings) : ∀ a ∈ fontAttribute s, a.closes = true := by
  simp [fontAttribute, forall_mem_onlyIf]

theorem closes_graphAttributes (d : Diagram) (s : Settings) (size : Text) :
    ∀ a ∈ graphAttributes d s size, a.closes = true := by
  have hfont := closes_fontAttribute s
  simp only [graphAttributes, List.forall_mem_append, forall_mem_onlyIf]
  simpa using hfont

theorem closes_nodeDefaults (s : Settings) : ∀ a ∈ nodeDefaults s, a.closes = true := by
  have hfont := closes_fontAttribute s
  simp only [nodeDefaults, List.forall_mem_append, forall_mem_onlyIf]
  simpa using hfont

theorem closes_edgeDefaults (s : Settings) : ∀ a ∈ edgeDefaults s, a.closes = true := by
  have hfont := closes_fontAttribute s
  simp only [edgeDefaults, List.forall_mem_append]
  simpa using hfont

/-- The attributes of a node close exactly if the texts of its entity hold no double quote and its link
closes. -/
theorem closes_nodeAttributes_iff {d : Diagram} {s : Settings} {e : Entity} :
    (∀ a ∈ nodeAttributes d s e, a.closes = true) ↔
      e.QuoteFree ∧ closes (entityLink d e) = true := by
  have hlabel := (closesIf_turned s.direction (closesIf_nodeLabel e)).closes_iff
  have htooltip := (closesIf_escapeLabel e.name).closes_iff
  have hcolor := closes_color (e.options.color .color)
  have hlink : ((!(d.options.text .linkFiles).isEmpty) = true → closes (entityLink d e) = true) ↔
      closes (entityLink d e) = true := by
    cases htext : d.options.text .linkFiles with
    | nil => simp [entityLink, htext, Text.replaceAll, Text.replaceFrom]
    | cons c cs => simp
  simp only [nodeAttributes, List.forall_mem_append, forall_mem_onlyIf, List.forall_mem_cons,
    List.not_mem_nil, false_implies, implies_true, and_true, closes_plain, closes_verbatim,
    true_and, hlabel, htooltip, hcolor]
  rw [← entityLink, hlink]
  constructor
  · rintro ⟨⟨hfree, hcloses⟩, -⟩
    exact ⟨hfree, hcloses⟩
  · rintro ⟨hfree, hcloses⟩
    exact ⟨⟨hfree, hcloses⟩, hfree.name⟩

/-- The attributes of an edge close exactly if the texts of its relationship hold no double quote. -/
theorem closes_edgeAttributes_iff {s : Settings} {r : Relationship} :
    (∀ a ∈ edgeAttributes s r, a.closes = true) ↔ r.QuoteFree := by
  have hfirst := (closesIf_endLabel s (r.options.text .n1) r.cardinality.first r.roles.1).closes_iff
  have hsecond :=
    (closesIf_endLabel s (r.options.text .n2) r.cardinality.second r.roles.2).closes_iff
  have hverb := (closesIf_edgeLabel (shownVerb r)).closes_iff
  rw [shownVerb_text] at hverb
  simp only [edgeAttributes, List.forall_mem_cons, List.not_mem_nil, false_implies, implies_true,
    and_true, true_and, closes_plain, closes_verbatim, hfirst, hsecond, hverb]
  exact Relationship.quoteFree_iff.symm

end Dot

end ErDiagram

import ErDiagram.Proofs.Dot.Label
import ErDiagram.Proofs.Reading.Spelling
import ErDiagram.Proofs.Writing.Option

set_option autoImplicit false

/-!
# The lines of a drawing

Nothing in a drawing but the ends of its lines breaks a line, if nothing in the diagram and in the
name of the font does.  So splitting the drawing gives its lines back, and the statements among them
are the three defaults, one node for each entity and one edge for each relationship, in order.
-/

namespace ErDiagram

open IdSource (idOf entityWord)

namespace Dot

/-- The character that ends a line of a drawing. -/
def lineEnd : Char := '\n'

variable {s : Settings} {d : Diagram}

/-! ## Ids of nodes -/

/-- The text is an id of an entity. -/
def IsNodeId (t : Text) : Prop := ∃ n, t = idOf entityWord n

/-- An id holds no bracket and no end of a line, and it does not look like a comment. -/
theorem IsNodeId.plain {t : Text} (h : IsNodeId t) :
    '[' ∉ t ∧ lineEnd ∉ t ∧ ∃ rest, t = 'e' :: rest := by
  obtain ⟨n, rfl⟩ := h
  have hdigit : ∀ c, c.isDigit = false → c ∉ Text.ofNat n := by
    intro c hc hmem
    rw [Numeral.isPlain_ofNat n c hmem] at hc
    cases hc
  have hbracket : '[' ∉ entityWord ∧ '[' ≠ '_' := by decide
  have hend : lineEnd ∉ entityWord ∧ lineEnd ≠ '_' := by decide
  refine ⟨?_, ?_, _, rfl⟩
  · rw [idOf, List.mem_append, List.mem_cons, not_or, not_or]
    exact ⟨hbracket.1, hbracket.2, hdigit _ (by decide)⟩
  · rw [idOf, List.mem_append, List.mem_cons, not_or, not_or]
    exact ⟨hend.1, hend.2, hdigit _ (by decide)⟩

/-- The nodes of the diagram, and those at the ends of its edges, have ids. -/
structure Identified (d : Diagram) : Prop where
  node : ∀ e ∈ d.entities, IsNodeId e.id
  edge : ∀ r ∈ d.relationships, ∀ name ∈ r.names, IsNodeId (nodeId d name)

/-! ## Written attributes -/

theorem writable_plain {name : String} {t : Text} (hname : IsWordText name.toList)
    (h : IsWordText t) : (plain name t).Writable := by
  refine ⟨hname, ?_⟩
  rintro t' heq
  cases heq
  exact h

theorem writable_verbatim {name : String} (hname : IsWordText name.toList) (body : Text) :
    (verbatim name body).Writable :=
  ⟨hname, fun _ heq => by cases heq⟩

theorem isWordText_arrow (n : DotNotation) (e : End) (role : Role) : IsWordText (n.arrow e role) := by
  obtain ⟨count, optionality⟩ := e
  cases n <;> cases role <;> cases count <;> cases optionality <;> decide

theorem isWordText_write {n : Int} {size : Text} (h : Numeral.write? n = some size) :
    IsWordText size := by
  unfold Numeral.write? at h
  split at h
  · cases h
  · cases h
    refine ⟨?_, OptionValue.isWord_ofInt n⟩
    exact OptionValue.raw_ne_nil (v := .whole n) fun htype => by cases htype

/-- The value of the attribute, if it is quoted, breaks no line. -/
def OneLine (a : DotAttribute) : Prop := ∀ body, a.value = .quoted body → lineEnd ∉ body

/-- The attribute is written as it should be, on one line. -/
def Tidy (a : DotAttribute) : Prop := a.Writable ∧ OneLine a

theorem tidy_plain {name : String} {t : Text} (hname : IsWordText name.toList) (h : IsWordText t) :
    Tidy (plain name t) :=
  ⟨writable_plain hname h, fun _ heq => by cases heq⟩

theorem tidy_verbatim {name : String} (hname : IsWordText name.toList) {body : Text}
    (h : lineEnd ∉ body) : Tidy (verbatim name body) := by
  refine ⟨writable_verbatim hname body, ?_⟩
  rintro body' heq
  cases heq
  exact h

theorem lineEnd_not_mem_quotePasses {t : Text} (h : lineEnd ∉ t) :
    lineEnd ∉ runPasses quotePasses t :=
  not_mem_runPasses (by decide) h

theorem lineEnd_not_mem_escapeLabel {t : Text} (h : lineEnd ∉ t) : lineEnd ∉ escapeLabel t :=
  not_mem_runPasses (by decide) h

theorem tidy_escaped {name : String} (hname : IsWordText name.toList) {t : Text}
    (h : lineEnd ∉ t) : Tidy (escaped name t) :=
  tidy_verbatim hname (lineEnd_not_mem_quotePasses h)

theorem tidy_fontAttribute (hfont : lineEnd ∉ s.font) : ∀ a ∈ fontAttribute s, Tidy a := by
  simp only [fontAttribute, forall_mem_onlyIf, List.forall_mem_singleton]
  exact fun _ => tidy_escaped (by decide) hfont

theorem tidy_graphAttributes {size : Text} (hsize : Numeral.write? (titleSize d) = some size)
    (htitle : lineEnd ∉ d.options.text .title) (hfont : lineEnd ∉ s.font) :
    ∀ a ∈ graphAttributes d s size, Tidy a := by
  have hdirection : IsWordText s.direction.spelling := by cases s.direction <;> decide
  simp only [graphAttributes, List.forall_mem_append, forall_mem_onlyIf, List.forall_mem_cons,
    List.not_mem_nil, false_implies, implies_true, and_true]
  exact ⟨⟨fun _ => ⟨tidy_escaped (by decide) htitle, tidy_plain (by decide) (by decide)⟩,
    tidy_plain (by decide) (isWordText_write hsize), tidy_plain (by decide) hdirection⟩,
    tidy_fontAttribute hfont⟩

theorem lineEnd_not_mem_color (c : Color) : lineEnd ∉ c.dark ∧ lineEnd ∉ c.light := by
  cases c <;> decide

theorem tidy_nodeDefaults (hfont : lineEnd ∉ s.font) : ∀ a ∈ nodeDefaults s, Tidy a := by
  obtain ⟨hdark, hlight⟩ := lineEnd_not_mem_color s.color
  simp only [nodeDefaults, List.forall_mem_append, forall_mem_onlyIf, List.forall_mem_cons,
    List.not_mem_nil, false_implies, implies_true, and_true]
  exact ⟨⟨⟨tidy_plain (by decide) (by decide), fun _ => ⟨tidy_plain (by decide) (by decide),
    tidy_escaped (by decide) hdark, tidy_escaped (by decide) hlight⟩⟩,
    tidy_plain (by decide) (by decide)⟩, tidy_fontAttribute hfont⟩

theorem tidy_edgeDefaults (hfont : lineEnd ∉ s.font) : ∀ a ∈ edgeDefaults s, Tidy a := by
  simp only [edgeDefaults, List.forall_mem_append, List.forall_mem_cons, List.not_mem_nil,
    false_implies, implies_true, and_true]
  exact ⟨⟨tidy_plain (by decide) (by decide), tidy_plain (by decide) (by decide)⟩,
    tidy_fontAttribute hfont⟩

/-! ## Nodes and edges -/

theorem mem_join {separator : Text} {pieces : List Text} {c : Char}
    (h : c ∈ Text.join separator pieces) : c ∈ separator ∨ ∃ piece ∈ pieces, c ∈ piece := by
  induction pieces with
  | nil => cases h
  | cons piece others ih =>
    cases others with
    | nil =>
      rw [Text.join_singleton] at h
      exact .inr ⟨piece, List.mem_cons_self, h⟩
    | cons next others =>
      rw [Text.join_cons_cons, List.mem_append, List.mem_append] at h
      rcases h with hpiece | hseparator | hothers
      · exact .inr ⟨piece, List.mem_cons_self, hpiece⟩
      · exact .inl hseparator
      · obtain hseparator | ⟨other, hmem, hc⟩ := ih hothers
        · exact .inl hseparator
        · exact .inr ⟨other, List.mem_cons_of_mem _ hmem, hc⟩

theorem lineEnd_not_mem_nameCell {a : Attribute} (hname : lineEnd ∉ a.name)
    (hmark : lineEnd ∉ a.options.text .mark) : lineEnd ∉ nameCell a := by
  have hseparator : lineEnd ∉ markSeparator := by decide
  have hforeign : lineEnd ∉ (if a.isForeignKey then escapeLabel " (FK)".toList else []) := by
    split <;> decide
  have hcell : lineEnd ∉ (if (a.options.text .mark).isEmpty then []
      else escapeLabel (markSeparator ++ a.options.text .mark)) := by
    split
    · exact List.not_mem_nil
    · exact lineEnd_not_mem_escapeLabel (by simp [hmark, hseparator])
  have hbreak : lineEnd ∉ ['\\', 'l'] := by decide
  simp only [nameCell, List.mem_append, not_or]
  exact ⟨⟨⟨lineEnd_not_mem_escapeLabel hname, hforeign⟩, hcell⟩, hbreak⟩

variable {source : Text}

theorem lineEnd_not_mem_nodeLabel {e : Entity} (h : e.SpelledWith source)
    (hsource : lineEnd ∉ source) : lineEnd ∉ nodeLabel e := by
  have hmark := fun hmem => hsource (h.options.text .mark hmem)
  have htitle : lineEnd ∉ escapeLabel (marked e.name (e.options.text .mark)) :=
    lineEnd_not_mem_escapeLabel
      ((not_mem_marked_iff (by decide)).mpr ⟨fun hmem => hsource (h.name hmem), hmark⟩)
  have hseparator : lineEnd ∉ ['|'] := by decide
  have hkeys : lineEnd ∉ Text.join ['|'] (e.attributes.map keyCell) := by
    intro hmem
    obtain hbar | ⟨cell, hcell, hc⟩ := mem_join hmem
    · exact hseparator hbar
    · obtain ⟨a, -, rfl⟩ := List.mem_map.mp hcell
      have hkey : lineEnd ∉ keyCell a := by unfold keyCell; split <;> decide
      exact hkey hc
  have hnames : lineEnd ∉ Text.join ['|'] (e.attributes.map nameCell) := by
    intro hmem
    obtain hbar | ⟨cell, hcell, hc⟩ := mem_join hmem
    · exact hseparator hbar
    · obtain ⟨a, ha, rfl⟩ := List.mem_map.mp hcell
      obtain ⟨hname, hoptions⟩ := h.attributes a ha
      exact lineEnd_not_mem_nameCell (fun hmem => hsource (hname hmem))
        (fun hmem => hsource (hoptions.text .mark hmem)) hc
  unfold nodeLabel
  split
  · exact htitle
  · have hmarks : lineEnd ∉ ['|', '{', '{'] ∧ lineEnd ∉ ['}', '|', '{'] ∧ lineEnd ∉ ['}', '}'] := by
      decide
    simp only [List.mem_append, not_or]
    exact ⟨⟨⟨⟨⟨htitle, hmarks.1⟩, hkeys⟩, hmarks.2.1⟩, hnames⟩, hmarks.2.2⟩

theorem lineEnd_not_mem_turned {label : Text} (h : lineEnd ∉ label) (direction : RankDirection) :
    lineEnd ∉ turned direction label := by
  have hbraces : lineEnd ≠ '{' ∧ lineEnd ≠ '}' := by decide
  cases direction with
  | leftToRight => exact h
  | topToBottom => simp [turned, h, hbraces]

theorem lineEnd_not_mem_replaceAll {old new t : Text} (hnew : lineEnd ∉ new) (ht : lineEnd ∉ t) :
    lineEnd ∉ Text.replaceAll old new t := by
  have hfrom : ∀ skip, lineEnd ∉ Text.replaceFrom old new skip t := by
    induction t with
    | nil => exact fun skip => by cases skip <;> exact List.not_mem_nil
    | cons c cs ih =>
      rw [List.mem_cons, not_or] at ht
      intro skip
      cases skip with
      | zero =>
        rw [Text.replaceFrom]
        split
        · simp [hnew, ih ht.2]
        · simp [ht.1, ih ht.2]
      | succ skip => exact ih ht.2 skip
  exact hfrom 0

theorem tidy_nodeAttributes (hd : d.SpelledWith source) (hsource : lineEnd ∉ source) {e : Entity}
    (he : e ∈ d.entities) : ∀ a ∈ nodeAttributes d s e, Tidy a := by
  have hspelled := hd.entities e he
  have hname : lineEnd ∉ e.name := fun hmem => hsource (hspelled.name hmem)
  have hlink : lineEnd ∉ d.options.text .linkFiles := fun hmem => hsource (hd.options.text _ hmem)
  have hlabel := lineEnd_not_mem_turned (lineEnd_not_mem_nodeLabel hspelled hsource) s.direction
  have hshape : IsWordText (s.style.nodeShape (some e.dependency)) := by
    cases s.style <;> cases e.dependency <;> decide
  obtain ⟨hdark, hlight⟩ := lineEnd_not_mem_color (e.options.color .color)
  simp only [nodeAttributes, List.forall_mem_append, forall_mem_onlyIf, List.forall_mem_cons,
    List.not_mem_nil, false_implies, implies_true, and_true]
  exact ⟨⟨⟨⟨tidy_plain (by decide) hshape, tidy_verbatim (by decide) hlabel⟩,
    fun _ => ⟨tidy_plain (by decide) (by decide), tidy_verbatim (by decide) hdark,
      tidy_verbatim (by decide) hlight⟩⟩,
    fun _ => tidy_verbatim (by decide) (lineEnd_not_mem_replaceAll hname hlink)⟩,
    tidy_verbatim (by decide) (lineEnd_not_mem_escapeLabel hname)⟩

theorem lineEnd_not_mem_endLabel {given : Text} (h : lineEnd ∉ given) (e : End) (role : Role) :
    lineEnd ∉ endLabel s given e role := by
  obtain ⟨words, hlabel, hwords⟩ := exists_endLabel s given e role
  rw [hlabel]
  refine lineEnd_not_mem_escapeLabel ?_
  rwa [not_mem_wrapLabel_iff (by decide), hwords lineEnd (by decide)]

theorem lineEnd_not_mem_edgeLabel {v : VerbPhrase} (h : lineEnd ∉ v.text) :
    lineEnd ∉ edgeLabel v := by
  obtain ⟨words, hlabel, hwords⟩ := exists_edgeLabel v
  rw [hlabel]
  refine lineEnd_not_mem_escapeLabel ?_
  rwa [not_mem_wrapLabel_iff (by decide), hwords lineEnd (by decide)]

theorem tidy_edgeAttributes (hd : d.SpelledWith source) (hsource : lineEnd ∉ source)
    {r : Relationship} (hr : r ∈ d.relationships) : ∀ a ∈ edgeAttributes s r, Tidy a := by
  have hspelled := hd.relationships r hr
  have hgiven : ∀ name, lineEnd ∉ r.options.text name := fun name hmem =>
    hsource (hspelled.options.text name hmem)
  have hverb : lineEnd ∉ (shownVerb r).text := by
    rw [shownVerb_text]
    exact fun hmem => hsource (hspelled.verb hmem)
  have hstyle : IsWordText (s.style.edgeStyle r.kind) := by
    cases s.style <;> cases r.kind <;> decide
  simp only [edgeAttributes, List.forall_mem_cons, List.not_mem_nil, false_implies, implies_true,
    and_true]
  exact ⟨tidy_plain (by decide) (isWordText_arrow _ _ _),
    tidy_verbatim (by decide) (lineEnd_not_mem_endLabel (hgiven .n1) _ _),
    tidy_plain (by decide) (isWordText_arrow _ _ _),
    tidy_verbatim (by decide) (lineEnd_not_mem_endLabel (hgiven .n2) _ _),
    tidy_plain (by decide) hstyle, tidy_verbatim (by decide) (lineEnd_not_mem_edgeLabel hverb)⟩

end Dot

/-! ## Accepted documents -/

section Accepted

variable {ids : IdSource} {lines : List Line} {d : Diagram} {g : Grouping} {options : OptionMap}
  {named : EntityStage} {built : RelationshipStage}

/-- Every side of a relationship of an accepted document is the name of an entity, whose id stands for
the side in a drawing. -/
theorem AcceptedAs.exists_entity (h : AcceptedAs ids lines d g options named built)
    {r : Relationship} (hr : r ∈ d.relationships) {name : Text} (hname : name ∈ r.names) :
    ∃ e ∈ d.entities, e.name = name ∧ Dot.nodeId d name = e.id := by
  rw [h.diagram_eq] at hr
  obtain ⟨r', hr', rfl⟩ := mem_align.mp hr
  have hmem : name ∈ d.entities.map (·.name) := by
    rw [h.names_eq, List.mem_eraseDups, List.mem_append]
    exact .inr (List.mem_flatMap.mpr ⟨r', hr', hname⟩)
  obtain ⟨e, he, rfl⟩ := List.mem_map.mp hmem
  refine ⟨e, he, rfl, ?_⟩
  rw [Dot.nodeId, (Diagram.entity?_eq_some_iff h.names_nodup).mpr ⟨he, rfl⟩]

/-- The entities of an accepted document carry the numbers behind those that were handed out before. -/
theorem AcceptedAs.entityIds_eq (h : AcceptedAs ids lines d g options named built) :
    d.entities.map (·.id) =
      (List.range' (ids.issued entityWord + 1) d.entities.length).map (idOf entityWord) := by
  have hmap : d.entities.map (·.id) = built.entities.map (·.id) := by
    rw [h.diagram_eq]
    exact propagate_map_id built.entities built.relationships
  have hlength := congrArg List.length hmap
  rw [List.length_map] at hlength
  rw [hmap, hlength]
  exact h.builtFrom.mentioned.numbered.given_eq

/-- Every entity of an accepted document has an id, and every side of a relationship is the name of
an entity. -/
theorem AcceptedAs.identified (h : AcceptedAs ids lines d g options named built) :
    Dot.Identified d := by
  have hnode : ∀ e ∈ d.entities, Dot.IsNodeId e.id := by
    intro e he
    have hmem : e.id ∈ d.entities.map (·.id) := List.mem_map_of_mem he
    rw [h.entityIds_eq, List.mem_map] at hmem
    obtain ⟨n, -, hid⟩ := hmem
    exact ⟨n, hid.symm⟩
  refine ⟨hnode, ?_⟩
  intro r hr name hname
  obtain ⟨e, he, -, hid⟩ := h.exists_entity hr hname
  rw [hid]
  exact hnode e he

end Accepted

end ErDiagram

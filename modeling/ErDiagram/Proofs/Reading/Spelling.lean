import ErDiagram.Proofs.Notation.Pieces
import ErDiagram.Proofs.Reading.Blocks
import ErDiagram.Proofs.Reading.Bracketed
import ErDiagram.Proofs.Reading.Fault
import ErDiagram.Proofs.Reading.OptionList
import ErDiagram.Proofs.Reading.Run

set_option autoImplicit false

/-!
# What a diagram is spelled with

Reading a document cuts its lines and strips the pieces, but it writes no character of its own.  So
every name, every verb phrase and every text of an option in the diagram is spelled with characters
of the lines, and none of them breaks a line.
-/

namespace ErDiagram

/-! ## Pieces of a text -/

namespace Text

theorem strip_subset (t : Text) : strip t ⊆ t := by
  obtain ⟨front, back, ht, -, -⟩ := exists_stripOf_append isBlank t
  intro c hc
  rw [ht]
  simp only [List.mem_append]
  exact .inr (.inl hc)

theorem inner_subset (t : Text) : t.inner ⊆ t :=
  List.Subset.trans (List.dropLast_subset _) (List.tail_sublist _).subset

end Text

namespace Quoting

theorem unquote_subset (t : Text) : unquote t ⊆ t := by
  unfold unquote
  split
  · exact Text.inner_subset t
  · exact List.Subset.refl t

theorem removeComment_subset (t : Text) : removeComment t ⊆ t :=
  (isPrefix_removeComment t).subset

theorem piecesFrom_subset {t piece : Text} {delimiter : Char} {quoted : Bool}
    (h : piece ∈ piecesFrom delimiter quoted t) : piece ⊆ t := by
  have hjoin : piece ⊆ Text.join [delimiter] (piecesFrom delimiter quoted t) := Text.subset_join h
  rwa [join_piecesFrom] at hjoin

theorem pieces_subset {t piece : Text} {delimiter : Char} (h : piece ∈ pieces t delimiter) :
    piece ⊆ t := by
  simp only [pieces] at h
  split at h
  · cases h
  · obtain ⟨p, hp, rfl⟩ := List.mem_map.mp h
    have hbody := piecesFrom_subset hp
    exact List.Subset.trans (Text.strip_subset p) (List.Subset.trans hbody (Text.strip_subset t))

end Quoting

theorem stripBrackets_subset (t : Text) (kinds : List Bracket) : stripBrackets t kinds ⊆ t := by
  unfold stripBrackets
  split
  · exact List.Subset.trans (Text.strip_subset _) (Text.inner_subset t)
  · exact List.Subset.refl t

/-! ## Parts of a line -/

theorem lineFields_subset {t field : Text} (h : field ∈ lineFields t) : field ⊆ t := by
  intro c hc
  have hfields : c ∈ (lineFields t).flatten := List.mem_flatten.mpr ⟨field, h, hc⟩
  rw [lineFields, Field.flatten_cut] at hfields
  exact Text.strip_subset t (Quoting.removeComment_subset _ hfields)

theorem joined_subset {t : Text} {fields : List Text} (h : fields ⊆ lineFields t) :
    joined fields ⊆ t := by
  intro c hc
  obtain ⟨field, hfield, hmem⟩ := List.mem_flatten.mp (Text.strip_subset _ hc)
  exact lineFields_subset (h hfield) hmem

/-- A part between brackets is a piece of its line, also if it is left out. -/
theorem Line.HoldsOnly.subset {line : Line} {texts : List Text}
    (h : line.HoldsOnly (nonEmpty texts)) {part : Text} (hpart : part ∈ texts) :
    part ⊆ line.text := by
  by_cases hne : part = []
  · rw [hne]
    exact List.nil_subset _
  · have hmem : part ∈ nonEmpty texts := List.mem_filter.mpr ⟨hpart, by simp [hne]⟩
    rw [← h.groups_eq, List.mem_map] at hmem
    obtain ⟨field, hfield, rfl⟩ := hmem
    exact List.Subset.trans (Text.strip_subset field)
      (lineFields_subset (List.mem_filter.mp hfield).1)

theorem AttributeParts.subset (t : Text) : (ofText t).name ⊆ t ∧ (ofText t).options ⊆ t := by
  unfold ofText ofFields
  split
  · exact ⟨joined_subset (List.Subset.refl _), List.nil_subset _⟩
  · rename_i before field rest hsplit
    obtain ⟨hfields, -, -⟩ := splitAtGroup_eq_some_iff.mp hsplit
    constructor
    · exact joined_subset (hfields ▸ List.subset_append_left _ _)
    · have hfield : field ∈ lineFields t := by simp [hfields]
      exact List.Subset.trans (Text.strip_subset field) (lineFields_subset hfield)

/-! ## Names and phrases -/

theorem subset_of_readEntityPart {part : Text} {role : Part} {name : Text} {dependency : Dependency}
    (h : readEntityPart part role = .ok (name, dependency)) : name ⊆ part := by
  obtain ⟨kind, -, ⟨-, hname⟩, -⟩ := readEntityPart_eq_ok.mp h
  obtain ⟨rfl, -⟩ := readEntityName_eq_ok.mp hname
  refine List.Subset.trans (Quoting.unquote_subset _) (List.Subset.trans (Text.strip_subset _) ?_)
  exact List.Subset.trans (Text.strip_subset _) (Text.inner_subset part)

theorem subset_of_readAttributeName {t : Text} {read : AttributeName}
    (h : readAttributeName t = .ok read) : read.name ⊆ t := by
  dsimp only [readAttributeName] at h
  generalize hfront : (if (Text.strip t).startsWith keyMark = true then
    Text.strip (Text.strip t).tail else Text.strip t) = front at h
  generalize hback : (if (Text.strip t).endsWith keyMark = true then
    Text.strip front.dropLast else front) = back at h
  have hfrontSubset : front ⊆ t := by
    rw [← hfront]
    split
    · exact List.Subset.trans (Text.strip_subset _)
        (List.Subset.trans (List.tail_sublist _).subset (Text.strip_subset t))
    · exact Text.strip_subset t
  have hbackSubset : back ⊆ front := by
    rw [← hback]
    split
    · exact List.Subset.trans (Text.strip_subset _) (List.dropLast_subset _)
    · exact List.Subset.refl _
  split at h
  · cases h
  · cases h
    exact List.Subset.trans (Quoting.unquote_subset back)
      (List.Subset.trans hbackSubset hfrontSubset)

theorem subset_of_namePhrase {direction : Direction} {t : Text} {verb : VerbPhrase}
    (h : namePhrase direction t = .ok verb) : verb.text ⊆ t := by
  simp only [namePhrase] at h
  split at h
  · cases h
  · cases h
    exact Quoting.unquote_subset t

theorem subset_of_readVerbPhrase {t : Text} {verb : VerbPhrase} (h : readVerbPhrase t = .ok verb) :
    verb.text ⊆ t := by
  have hbody := Text.strip_subset t
  simp only [readVerbPhrase] at h
  split at h
  · cases h
  · refine List.Subset.trans (subset_of_namePhrase h) (List.Subset.trans (Text.strip_subset _) ?_)
    exact List.Subset.trans (List.dropLast_subset _) hbody
  · refine List.Subset.trans (subset_of_namePhrase h) (List.Subset.trans (Text.strip_subset _) ?_)
    exact List.Subset.trans (List.tail_sublist _).subset hbody
  · exact List.Subset.trans (subset_of_namePhrase h) hbody

theorem subset_of_readVerbPart {part : Text} {verb : VerbPhrase}
    (h : readVerbPart part = .ok verb) : verb.text ⊆ part := by
  unfold readVerbPart at h
  split at h
  · cases h
    exact List.nil_subset _
  · split at h
    · cases h
    · exact List.Subset.trans (subset_of_readVerbPhrase h) (stripBrackets_subset _ _)

/-! ## Option lists -/

theorem subset_of_readOptionPair {pair : Text} {entry : Text × Text}
    (h : readOptionPair pair = .ok entry) : entry.2 ⊆ pair := by
  obtain ⟨nameText, valueText, hpieces, -, -, -, hvalue⟩ := readOptionPair_eq_ok.mp h
  have hvalueText : valueText ⊆ pair := Quoting.pieces_subset (by rw [hpieces]; simp)
  obtain ⟨heq, -⟩ := readRawValue_eq_ok.mp hvalue
  rw [heq]
  exact List.Subset.trans (Quoting.unquote_subset _) hvalueText

theorem subset_of_readOptionList {t : Text} {raw : List (Text × Text)}
    (h : readOptionList t = .ok raw) : ∀ e ∈ raw, e.2 ⊆ t := by
  intro e he
  obtain ⟨hpairs, -⟩ := readOptionList_eq_ok.mp h
  obtain ⟨pair, hpair, -, hread⟩ := exists_of_mem_right hpairs he
  exact List.Subset.trans (subset_of_readOptionPair hread) (Quoting.pieces_subset hpair)

/-! ## Option maps -/

/-- The value, if it is a text, is spelled with characters of the source. -/
def OptionValue.SpelledWith (source : Text) (v : OptionValue) : Prop :=
  ∀ t, v = .text t → t ⊆ source

/-- The texts of the map are spelled with characters of the source. -/
def OptionMap.SpelledWith (source : Text) (m : OptionMap) : Prop :=
  ∀ entry ∈ m.entries, entry.2.SpelledWith source

variable {source : Text}

theorem OptionMap.SpelledWith.text {m : OptionMap} (h : m.SpelledWith source) (name : OptionName) :
    m.text name ⊆ source := by
  unfold OptionMap.text
  split
  · rename_i t hget
    exact h _ (Table.mem_of_lookup_eq_some hget) t rfl
  · exact List.nil_subset _

theorem OptionMap.spelledWith_ofNames {names : List OptionName} (hnodup : names.Nodup) :
    (OptionMap.ofNames names).SpelledWith source := by
  intro entry hentry t ht
  rw [OptionMap.ofNames_entries hnodup, List.mem_map] at hentry
  obtain ⟨name, -, rfl⟩ := hentry
  cases name <;> cases ht <;> exact List.nil_subset _

theorem OptionMap.SpelledWith.assign {values : List (OptionName × OptionValue)} :
    ∀ {m : OptionMap}, m.SpelledWith source → (∀ e ∈ values, e.2.SpelledWith source) →
      (m.assign values).SpelledWith source := by
  induction values with
  | nil =>
    intro m hm _
    exact hm
  | cons value rest ih =>
    intro m hm hvalues
    refine ih (m := ⟨Table.put value.1 value.2 m.entries⟩) ?_
      (fun e he => hvalues e (List.mem_cons_of_mem _ he))
    intro entry hentry
    rcases Table.mem_put hentry with rfl | hold
    · exact hvalues value List.mem_cons_self
    · exact hm entry hold

/-- A raw text that is read as a text stays as it is. -/
theorem spelledWith_of_read {name : OptionName} {t : Text} {value : OptionValue}
    (h : name.read t = .ok (some value)) : value.SpelledWith t := by
  rintro s rfl
  have htype := type_of_read h
  cases name <;> cases htype <;> cases h <;> exact List.Subset.refl _

theorem spelledWith_of_readValues {raw : List (Text × Text)} (hraw : ∀ e ∈ raw, e.2 ⊆ source)
    {names : List OptionName} :
    ∀ {values : List (OptionName × OptionValue)}, readValues raw names = .ok values →
      ∀ e ∈ values, e.2.SpelledWith source := by
  induction names with
  | nil =>
    intro values h
    cases h
    simp
  | cons name rest ih =>
    intro values h
    rw [readValues] at h
    split at h
    · exact ih h
    · rename_i t hlookup
      split at h
      · cases h
      · exact ih h
      · rename_i value hread
        obtain ⟨others, hothers, rfl⟩ := Except.map_eq_ok_iff.mp h
        refine List.forall_mem_cons.mpr ⟨?_, ih hothers⟩
        intro s hs
        have hsource : t ⊆ source := hraw _ (Table.mem_of_lookup_eq_some hlookup)
        exact List.Subset.trans (spelledWith_of_read hread s hs) hsource

/-- Raw values spelled with some characters keep a map spelled with them. -/
theorem OptionMap.SpelledWith.applyOptions {raw : List (Text × Text)} {allowed : List OptionName}
    {base m : OptionMap} {line : Line} (hnodup : allowed.Nodup) (htyped : base.TypedFor allowed)
    (hbase : base.SpelledWith source) (hraw : ∀ e ∈ raw, e.2 ⊆ source)
    (h : (ErDiagram.applyOptions raw allowed base (some line)).result = .ok m) :
    m.SpelledWith source := by
  obtain ⟨values, hvalues, hupdated⟩ := applyOptions_eq_ok.mp h
  have hfits : ∀ e ∈ values, e.1 ∈ allowed ∧ e.2.type = e.1.type := by
    rw [distinctNames, OptionMap.names_ofNames hnodup] at hvalues
    rcases readValues_cases raw allowed with ⟨values', heq, hfits⟩ | ⟨name, t, heq⟩
    · rw [heq] at hvalues
      cases hvalues
      exact hfits
    · rw [heq] at hvalues
      cases hvalues
  rw [htyped.updated_values hnodup hfits] at hupdated
  cases hupdated
  exact hbase.assign (spelledWith_of_readValues hraw hvalues)

theorem spelledWith_of_readOptionPart {part : Text} {allowed : List OptionName} {line : Line}
    {m : OptionMap} (hnodup : allowed.Nodup) (hpart : part ⊆ source)
    (h : (readOptionPart part allowed line).result = .ok m) : m.SpelledWith source := by
  rcases readOptionPart_eq_ok.mp h with ⟨-, rfl⟩ | ⟨-, -, hread⟩
  · exact OptionMap.spelledWith_ofNames hnodup
  · obtain ⟨raw, hraw, happly⟩ := readOptions_eq_ok.mp hread
    have hinner : Text.strip part.inner ⊆ source :=
      List.Subset.trans (Text.strip_subset _) (List.Subset.trans (Text.inner_subset part) hpart)
    exact (OptionMap.spelledWith_ofNames hnodup).applyOptions hnodup
      (OptionMap.typedFor_ofNames hnodup)
      (fun e he => List.Subset.trans (subset_of_readOptionList hraw e he) hinner) happly

theorem OptionMap.SpelledWith.readGlobalOptions {base m : OptionMap} {line : Line}
    (htyped : base.TypedFor OptionName.ofDiagram) (hbase : base.SpelledWith source)
    (hline : line.text ⊆ source) (h : (ErDiagram.readGlobalOptions base line).result = .ok m) :
    m.SpelledWith source := by
  obtain ⟨raw, hraw, happly⟩ := readGlobalOptions_eq_ok.mp h
  have hbody : line.body ⊆ line.text :=
    List.Subset.trans (Text.strip_subset _)
      (List.Subset.trans (Quoting.removeComment_subset _) (Text.strip_subset _))
  have hlist : stripBrackets line.body [.curly] ⊆ source :=
    List.Subset.trans (stripBrackets_subset _ _) (List.Subset.trans hbody hline)
  exact hbase.applyOptions OptionMap.nodup_ofDiagram htyped
    (fun e he => List.Subset.trans (subset_of_readOptionList hraw e he) hlist) happly

/-! ## Entities and relationships -/

/-- The texts of the attribute are spelled with characters of the source. -/
structure Attribute.SpelledWith (source : Text) (a : Attribute) : Prop where
  name : a.name ⊆ source
  options : a.options.SpelledWith source

/-- The texts of the entity, apart from its id, are spelled with characters of the source. -/
structure Entity.SpelledWith (source : Text) (e : Entity) : Prop where
  name : e.name ⊆ source
  options : e.options.SpelledWith source
  attributes : ∀ a ∈ e.attributes, a.SpelledWith source

/-- The texts of the relationship, apart from its id, are spelled with characters of the source. -/
structure Relationship.SpelledWith (source : Text) (r : Relationship) : Prop where
  names : ∀ name ∈ r.names, name ⊆ source
  verb : r.verb.text ⊆ source
  options : r.options.SpelledWith source

/-- The texts of the diagram, apart from its ids, are spelled with characters of the source. -/
structure Diagram.SpelledWith (source : Text) (d : Diagram) : Prop where
  options : d.options.SpelledWith source
  entities : ∀ e ∈ d.entities, e.SpelledWith source
  relationships : ∀ r ∈ d.relationships, r.SpelledWith source

theorem spelledWith_of_readsAttribute {line : Line} {a : Attribute} (h : ReadsAttribute line a)
    (hline : line.text ⊆ source) : a.SpelledWith source := by
  obtain ⟨hname, hoptions, -⟩ := readAttributeLine_eq_ok.mp h
  obtain ⟨hnamePart, hoptionPart⟩ := AttributeParts.subset line.text
  constructor
  · exact List.Subset.trans (subset_of_readAttributeName hname) (List.Subset.trans hnamePart hline)
  · exact spelledWith_of_readOptionPart OptionMap.nodup_ofAttribute
      (List.Subset.trans hoptionPart hline) hoptions

theorem spelledWith_of_readsBlock {b : Block} {e : Entity} (h : ReadsBlock b e)
    (hlines : ∀ line ∈ b.lines, line.text ⊆ source) : e.SpelledWith source := by
  obtain ⟨-, hattributes, -, hhead⟩ := Block.read_eq_ok.mp h
  obtain ⟨-, hname, -, hoptions, -⟩ := readEntityLine_eq_ok.mp hhead
  have hholds := Line.holdsOnly_of_readEntityLine hhead
  have hpart : ∀ part ∈ [(EntityParts.ofText b.head.text).entity,
      (EntityParts.ofText b.head.text).options], part ⊆ source := fun part hmem =>
    List.Subset.trans (hholds.subset hmem) (hlines b.head List.mem_cons_self)
  constructor
  case name => exact List.Subset.trans (subset_of_readEntityPart hname) (hpart _ (by simp))
  case options =>
    exact spelledWith_of_readOptionPart OptionMap.nodup_ofEntity (hpart _ (by simp)) hoptions
  case attributes =>
    intro a ha
    obtain ⟨line, hmem, hline⟩ := exists_of_mem_right hattributes ha
    exact spelledWith_of_readsAttribute hline (hlines line (List.mem_cons_of_mem _ hmem))

theorem spelledWith_of_readsRelationship {line : Line} {r : Relationship}
    (h : ReadsRelationship line r) (hline : line.text ⊆ source) : r.SpelledWith source := by
  obtain ⟨read, hread, hr⟩ := h
  obtain ⟨-, hname1, -, hname2, -, hverb, -, hoptions, -, -⟩ := readRelationshipLine_eq_ok.mp hread
  have hholds := Line.holdsOnly_of_readRelationshipLine hread
  have hpart : ∀ part ∈ [(RelationshipParts.ofText line.text).entity1,
      (RelationshipParts.ofText line.text).entity2, (RelationshipParts.ofText line.text).verbPhrase,
      (RelationshipParts.ofText line.text).options], part ⊆ source := fun part hmem =>
    List.Subset.trans (hholds.subset hmem) hline
  rw [hr]
  constructor
  case names =>
    simp only [Relationship.names, RelationshipLine.toRelationship, List.forall_mem_cons,
      List.not_mem_nil, false_implies, implies_true, and_true]
    constructor
    · exact List.Subset.trans (subset_of_readEntityPart hname1) (hpart _ (by simp))
    · exact List.Subset.trans (subset_of_readEntityPart hname2) (hpart _ (by simp))
  case verb =>
    exact List.Subset.trans (subset_of_readVerbPart hverb) (hpart _ (by simp))
  case options =>
    exact spelledWith_of_readOptionPart OptionMap.nodup_ofRelationship (hpart _ (by simp)) hoptions

/-! ## Accepted documents -/

/-- The characters of some lines. -/
def charactersOf (lines : List Line) : Text := lines.flatMap (·.text)

theorem text_subset_charactersOf {line : Line} {lines : List Line} (h : line ∈ lines) :
    line.text ⊆ charactersOf lines :=
  fun _ hc => List.mem_flatMap.mpr ⟨line, h, hc⟩

section Accepted

variable {ids : IdSource} {lines : List Line} {d : Diagram} {g : Grouping} {options : OptionMap}
  {named : EntityStage} {built : RelationshipStage}

theorem AcceptedAs.options_spelledWith (h : AcceptedAs ids lines d g options named built) :
    options.SpelledWith (charactersOf lines) := by
  have hsource : ∀ line ∈ g.options, line.text ⊆ charactersOf lines := by
    intro line hline
    rw [h.sorts.options_eq] at hline
    exact text_subset_charactersOf (mem_linesOfKind.mp hline).1
  -- the run speaks of the lines behind it, all of which are lines of the document
  have hrun := h.optionsRun.invariant
    (P := fun behind m => (∀ line ∈ behind, line.text ⊆ charactersOf lines) →
      m.TypedFor OptionName.ofDiagram ∧ m.SpelledWith (charactersOf lines))
    (fun _ => ⟨OptionMap.typedFor_ofNames OptionMap.nodup_ofDiagram,
      OptionMap.spelledWith_ofNames OptionMap.nodup_ofDiagram⟩) ?_
  · exact (hrun hsource).2
  · intro behind line m hm hfault hlines
    obtain ⟨htyped, hspelled⟩ := hm fun l hl => hlines l (List.mem_append_left _ hl)
    have hread := stepOptions_clean.mp ⟨hfault, rfl⟩
    exact ⟨typedFor_of_readGlobalOptions htyped hread,
      hspelled.readGlobalOptions htyped (hlines line (by simp)) hread⟩

/-- The texts of the diagram of an accepted document are spelled with characters of its lines. -/
theorem AcceptedAs.spelledWith (h : AcceptedAs ids lines d g options named built) :
    d.SpelledWith (charactersOf lines) := by
  have hblockLines : ∀ b ∈ g.blocks, ∀ line ∈ b.lines, line.text ⊆ charactersOf lines := by
    intro b hb line hline
    obtain ⟨-, -, hsublist⟩ := blocks_of_ofLines h.grouped
    exact text_subset_charactersOf (hsublist.subset (List.mem_flatMap.mpr ⟨b, hb, hline⟩))
  have hnamed : ∀ e ∈ named.entities, e.SpelledWith (charactersOf lines) := by
    intro e he
    obtain ⟨b, hb, hread⟩ := exists_of_mem_right h.namedFrom.read he
    exact spelledWith_of_readsBlock hread (hblockLines b hb)
  have hrelated : ∀ r ∈ built.relationships, r.SpelledWith (charactersOf lines) := by
    intro r hr
    obtain ⟨line, hline, hread⟩ := exists_of_mem_right h.builtFrom.read hr
    rw [h.sorts.relationships_eq] at hline
    exact spelledWith_of_readsRelationship hread
      (text_subset_charactersOf (mem_linesOfKind.mp hline).1)
  have hname : ∀ e ∈ built.entities, e.name ⊆ charactersOf lines := by
    intro e he
    have hmem : e.name ∈ built.entities.map (·.name) := List.mem_map_of_mem he
    rw [h.builtFrom.mentioned.names_eq, List.mem_eraseDups, List.mem_append] at hmem
    rcases hmem with hdeclared | hmentioned
    · obtain ⟨e', he', heq⟩ := List.mem_map.mp hdeclared
      exact heq ▸ (hnamed e' he').name
    · obtain ⟨r, hr, hside⟩ := List.mem_flatMap.mp hmentioned
      exact (hrelated r hr).names _ hside
  rw [h.diagram_eq]
  constructor
  case options => exact h.options_spelledWith
  case entities =>
    intro e he
    obtain ⟨e', he', rfl⟩ := mem_propagate.mp he
    have hspelled : e'.SpelledWith (charactersOf lines) := by
      rcases h.entity_cases he' with hdeclared | hbare
      · exact hnamed e' hdeclared
      · refine ⟨hname e' he', ?_, ?_⟩
        · rw [hbare]
          exact OptionMap.spelledWith_ofNames OptionMap.nodup_ofEntity
        · rw [hbare]
          simp
    constructor
    · simpa using hspelled.name
    · simpa using hspelled.options
    · simpa using hspelled.attributes
  case relationships =>
    intro r hr
    obtain ⟨r', hr', rfl⟩ := mem_align.mp hr
    exact ⟨(hrelated r' hr').names, (hrelated r' hr').verb, (hrelated r' hr').options⟩

end Accepted

/-! ## Read texts -/

/-- No line of a text holds a character that ends a line. -/
theorem Text.isLineBreak_of_mem_lines (t : Text) :
    ∀ line ∈ Text.lines t, ∀ c ∈ line, Text.isLineBreak c = false := by
  induction t using Text.lines.induct with
  | case1 => simp [Text.lines]
  | case2 cs ih => simpa [Text.lines] using ih
  | case3 c cs hpair hbreak ih =>
    rw [Text.lines.eq_3 _ _ hpair, if_pos hbreak]
    simpa using ih
  | case4 c cs hpair hbreak ih =>
    rw [Text.lines.eq_3 _ _ hpair, if_neg hbreak]
    rw [Bool.not_eq_true] at hbreak
    generalize Text.lines cs = rest at ih
    cases rest with
    | nil => simpa [Text.consLine] using hbreak
    | cons first others =>
      rw [List.forall_mem_cons] at ih
      rw [Text.consLine, List.forall_mem_cons, List.forall_mem_cons]
      exact ⟨⟨hbreak, ih.1⟩, ih.2⟩

/-- No character of the lines of a text ends a line. -/
theorem isLineBreak_of_mem_charactersOf {t : Text} {c : Char}
    (h : c ∈ charactersOf (Line.ofTexts (Text.lines t))) : Text.isLineBreak c = false := by
  obtain ⟨line, hline, hc⟩ := List.mem_flatMap.mp h
  have hmem : line.text ∈ (Line.ofTexts (Text.lines t)).map (·.text) := List.mem_map_of_mem hline
  rw [Line.map_text_ofTexts] at hmem
  exact Text.isLineBreak_of_mem_lines t line.text hmem c hc

end ErDiagram

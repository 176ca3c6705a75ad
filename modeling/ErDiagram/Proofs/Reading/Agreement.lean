import ErDiagram.Proofs.Reading.Bracketed
import ErDiagram.Proofs.Reading.Fault
import ErDiagram.Proofs.Reading.ReportedRun

set_option autoImplicit false

/-!
# Lines are read as what they are taken for

The kind of a line and the reader of such lines look at different texts, but they agree.  On a line
that is taken for an entity line, or for a relationship, its reader finds nothing in front of the
first part and every entity part in its brackets; and a line that one of the two readers accepts is
taken for such a line.
-/

namespace ErDiagram

open Reading (Blames blames_pure blames_on blames_refuse)
open ErDiagram.Field (Row)

variable {line : Line} {lines : List Line}

/-! ## What the readers need -/

/-- A reader of entity lines that finds nothing in front of an entity part in brackets contradicts no
kind. -/
theorem blames_readEntityLine (hline : line ∈ lines)
    (hbefore : (EntityParts.ofText line.text).gapBefore = [])
    (hentity : isEnclosed (EntityParts.ofText line.text).entity Bracket.entity = true) :
    Blames lines (readEntityLine line) := by
  refine Blames.bind (blames_on hline ?_) fun _ _ => Blames.bind (blames_on hline ?_) ?_
  · rw [hbefore]
    exact nofun
  · exact fun _ => fits_of_readEntityPart hentity
  · rintro ⟨name, dependency⟩ -
    refine Blames.bind (blames_on hline fun _ => fits_of_refuseGap fun _ => rfl) fun _ _ => ?_
    refine Blames.bind (blames_readOptionPart OptionMap.nodup_ofEntity hline) fun _ _ => ?_
    refine Blames.bind (blames_on hline fun _ => fits_of_refuseGap fun _ => rfl) fun _ _ => ?_
    exact blames_pure lines _

theorem blames_readAttributeLine (hline : line ∈ lines) : Blames lines (readAttributeLine line) := by
  refine Blames.bind (blames_on hline fun _ => fits_of_readAttributeName) fun _ _ => ?_
  refine Blames.bind (blames_readOptionPart OptionMap.nodup_ofAttribute hline) fun _ _ => ?_
  refine Blames.bind (blames_on hline fun _ => fits_of_refuseGap fun _ => rfl) fun _ _ => ?_
  exact blames_pure lines _

/-- The same for relationship lines and both of their entity parts. -/
theorem blames_readRelationshipLine (hline : line ∈ lines)
    (hbefore : (RelationshipParts.ofText line.text).gapBefore = [])
    (hentity1 : isEnclosed (RelationshipParts.ofText line.text).entity1 Bracket.entity = true)
    (hentity2 : isEnclosed (RelationshipParts.ofText line.text).entity2 Bracket.entity = true) :
    Blames lines (readRelationshipLine line) := by
  refine Blames.bind (blames_on hline ?_) fun _ _ => Blames.bind (blames_on hline ?_) ?_
  · rw [hbefore]
    exact nofun
  · exact fun _ => fits_of_readEntityPart hentity1
  rintro ⟨name1, dependency1⟩ -
  refine Blames.bind (blames_on hline fun _ => fits_of_readCardinality) fun _ _ => ?_
  refine Blames.bind (blames_on hline fun _ => fits_of_readEntityPart hentity2) ?_
  rintro ⟨name2, dependency2⟩ -
  refine Blames.bind (blames_on hline fun _ => fits_of_refuseGap fun _ => rfl) fun _ _ => ?_
  refine Blames.bind (blames_on hline fun _ => fits_of_readVerbPart) fun _ _ => ?_
  refine Blames.bind (blames_on hline fun _ => fits_of_refuseGap fun _ => rfl) fun _ _ => ?_
  refine Blames.bind (blames_readOptionPart OptionMap.nodup_ofRelationship hline) fun _ _ => ?_
  refine Blames.bind (blames_on hline fun _ => fits_of_refuseGap fun _ => rfl) fun _ _ => ?_
  refine Blames.bind (blames_refuse hline fun _ => fits_of_dependencyCause) fun _ _ => ?_
  exact blames_pure lines _

/-! ## What the kind of a line grants -/

section Kind

variable {field : Text} {before rest : List Text}

/-- A row that opens with an entity bracket and has an entity group begins with one: the first field
could only be left open at the end of the line. -/
theorem isEnclosed_of_entityCount_pos (hrow : Row Bracket.all (field :: rest))
    (hopens : opensWith field Bracket.entity = true) (hcount : 0 < entityCount (field :: rest)) :
    isEnclosed (Text.strip field) Bracket.entity = true := by
  by_cases hrest : rest = []
  · by_contra henclosed
    rw [Bool.not_eq_true] at henclosed
    rw [entityCount_cons, hrest, henclosed] at hcount
    simp at hcount
  · exact hrow.isEnclosed_of_opensWith hrest hopens

/-- The first entity part of a line that opens with an entity bracket is its first field. -/
theorem Line.splitAtGroup_of_opensWith (h : opensWith line.code Bracket.entity = true) :
    ∃ field rest, lineFields line.text = field :: rest ∧
      splitAtGroup Bracket.entity (lineFields line.text) = some ([], field, rest) := by
  have hrow := line.row_lineFields
  have hcode : (lineFields line.text).flatten = line.code := by
    rw [lineFields_eq, Field.flatten_cut]
  cases hfields : lineFields line.text with
  | nil =>
    rw [hfields, List.flatten_nil] at hcode
    rw [← hcode] at h
    simp [opensWith, Text.startsWith] at h
  | cons field rest =>
    rw [hfields] at hrow hcode
    rw [← hcode, List.flatten_cons, Field.opensWith_append (hrow.ne_nil List.mem_cons_self)] at h
    exact ⟨field, rest, rfl, splitAtGroup_eq_some_iff.mpr ⟨rfl, h, by simp⟩⟩

/-- On an entity line nothing stands in front of the name, which is in its brackets. -/
theorem EntityParts.of_kind (h : line.kind = .entityName) :
    (ofText line.text).gapBefore = [] ∧
      isEnclosed (ofText line.text).entity Bracket.entity = true := by
  obtain ⟨hopens, hcount⟩ := Line.kind_eq_entityName_iff.mp h
  obtain ⟨field, rest, hfields, hsplit⟩ := Line.splitAtGroup_of_opensWith hopens
  obtain ⟨hgap, hentity, -⟩ := ofFields_of_split hsplit
  rw [← ofText] at hgap hentity
  refine ⟨hgap, ?_⟩
  have hrow := line.row_lineFields
  rw [hfields] at hrow hcount
  rw [hentity]
  exact isEnclosed_of_entityCount_pos hrow (splitAtGroup_eq_some_iff.mp hsplit).2.1
    (hcount ▸ Nat.one_pos)

/-- On a relationship line nothing stands in front of the first name, and both names are in their
brackets. -/
theorem RelationshipParts.of_kind (h : line.kind = .relationship) :
    (ofText line.text).gapBefore = [] ∧
      isEnclosed (ofText line.text).entity1 Bracket.entity = true ∧
      isEnclosed (ofText line.text).entity2 Bracket.entity = true := by
  obtain ⟨hopens, hcount⟩ := Line.kind_eq_relationship_iff.mp h
  obtain ⟨field1, rest1, hfields, hsplit1⟩ := Line.splitAtGroup_of_opensWith hopens
  have hrow := line.row_lineFields
  rw [hfields] at hrow hcount
  have henclosed1 : isEnclosed (Text.strip field1) Bracket.entity = true :=
    isEnclosed_of_entityCount_pos hrow (splitAtGroup_eq_some_iff.mp hsplit1).2.1 (by omega)
  have hcount1 : entityCount rest1 = 1 := by
    rw [entityCount_cons, henclosed1, if_pos rfl] at hcount
    omega
  have hrow1 := hrow.tail
  cases hsplit2 : splitAtGroup Bracket.entity rest1 with
  | none =>
    have hnone := entityCount_eq_zero hrow1 (List.Subset.refl _)
      (splitAtGroup_eq_none_iff.mp hsplit2)
    omega
  | some split2 =>
    obtain ⟨between, field2, rest2⟩ := split2
    obtain ⟨hrest1, hopens2, hbetween⟩ := splitAtGroup_eq_some_iff.mp hsplit2
    obtain ⟨hgap, hentity1, -, hentity2, -⟩ := ofFields_of_split hsplit1 hsplit2
    rw [← ofText] at hgap hentity1 hentity2
    rw [hentity1, hentity2]
    refine ⟨hgap, henclosed1, ?_⟩
    rw [hrest1] at hrow1 hcount1
    have hskipped : entityCount between = 0 :=
      entityCount_eq_zero hrow1 (List.subset_append_left _ _) hbetween
    rw [entityCount_append, hskipped] at hcount1
    exact isEnclosed_of_entityCount_pos hrow1.of_append hopens2 (by omega)

theorem blames_of_kind_entityName (hkind : line.kind = .entityName) (hline : line ∈ lines) :
    Blames lines (readEntityLine line) := by
  obtain ⟨hbefore, hentity⟩ := EntityParts.of_kind hkind
  exact blames_readEntityLine hline hbefore hentity

theorem blames_of_kind_relationship (hkind : line.kind = .relationship) (hline : line ∈ lines) :
    Blames lines (readRelationshipLine line) := by
  obtain ⟨hbefore, hentity1, hentity2⟩ := RelationshipParts.of_kind hkind
  exact blames_readRelationshipLine hline hbefore hentity1 hentity2

end Kind

/-! ## What an accepted line is taken for -/

/-- The entity groups of an accepted line are those among its parts. -/
theorem Line.HoldsOnly.entityCount_eq {parts : List Text} (h : line.HoldsOnly parts) :
    entityCount (lineFields line.text) = parts.countP fun part => isEnclosed part Bracket.entity := by
  have hrow := line.row_lineFields
  rw [← h.groups_eq, List.countP_map, groupsOf, List.countP_filter]
  refine List.countP_congr fun field hfield => ?_
  constructor
  · intro henclosed
    have hopens := opensWith_all (hrow.opensWith_of_isEnclosed hfield henclosed)
    simp [henclosed, hopens]
  · intro hboth
    simp only [Bool.and_eq_true] at hboth
    exact hboth.1

theorem countP_nonEmpty (texts : List Text) :
    (nonEmpty texts).countP (fun t => isEnclosed t Bracket.entity) =
      texts.countP fun t => isEnclosed t Bracket.entity := by
  rw [nonEmpty, List.countP_filter]
  refine List.countP_congr fun t _ => ?_
  cases t with
  | nil => simp [isEnclosed_nil]
  | cons c cs => simp

/-- A part between brackets of another kind is no entity group. -/
theorem not_isEnclosed_entity {kind : Bracket} {part : Text} (hkind : kind ∉ Bracket.entity)
    (h : part = [] ∨ kind.encloses part = true) : isEnclosed part Bracket.entity = false := by
  rcases h with rfl | henclosed
  · exact isEnclosed_nil _
  · have hopens : opensWith part [kind] = true :=
      opensWith_of_isEnclosed (by rw [isEnclosed_singleton, henclosed])
    exact Field.isEnclosed_of_not_opens (not_opensWith_of_not_mem hkind hopens)

theorem options_of_readOptionPart {part : Text} {allowed : List OptionName} {m : OptionMap}
    (h : (readOptionPart part allowed line).result = .ok m) :
    part = [] ∨ Bracket.curly.encloses part = true :=
  (readOptionPart_eq_ok.mp h).imp (·.1) (·.2.1)

theorem verb_of_readVerbPart {part : Text} {verb : VerbPhrase} (h : readVerbPart part = .ok verb) :
    part = [] ∨ Bracket.angle.encloses part = true :=
  (readVerbPart_eq_ok.mp h).imp (·.1) (·.2.1)

/-- A line that is read as an entity line is taken for one. -/
theorem kind_of_readEntityLine {read : EntityLine} (h : (readEntityLine line).result = .ok read) :
    line.kind = .entityName := by
  have hholds := Line.holdsOnly_of_readEntityLine h
  obtain ⟨-, hentity, -, hoptions, -⟩ := readEntityLine_eq_ok.mp h
  have henclosed := isEnclosed_of_readEntityPart hentity
  have hother := not_isEnclosed_entity (by decide : Bracket.curly ∉ Bracket.entity)
    (options_of_readOptionPart hoptions)
  rw [Line.kind_eq_entityName_iff, hholds.entityCount_eq, EntityParts.bracketed, countP_nonEmpty]
  exact ⟨hholds.opens, by simp [henclosed, hother]⟩

/-- A line that is read as a relationship is taken for one. -/
theorem kind_of_readRelationshipLine {read : RelationshipLine}
    (h : (readRelationshipLine line).result = .ok read) : line.kind = .relationship := by
  have hholds := Line.holdsOnly_of_readRelationshipLine h
  obtain ⟨-, hentity1, -, hentity2, -, hverb, -, hoptions, -⟩ := readRelationshipLine_eq_ok.mp h
  have henclosed1 := isEnclosed_of_readEntityPart hentity1
  have henclosed2 := isEnclosed_of_readEntityPart hentity2
  have hverbOther := not_isEnclosed_entity (by decide : Bracket.angle ∉ Bracket.entity)
    (verb_of_readVerbPart hverb)
  have hother := not_isEnclosed_entity (by decide : Bracket.curly ∉ Bracket.entity)
    (options_of_readOptionPart hoptions)
  rw [Line.kind_eq_relationship_iff, hholds.entityCount_eq, RelationshipParts.bracketed,
    countP_nonEmpty]
  exact ⟨hholds.opens, by simp [henclosed1, henclosed2, hverbOther, hother]⟩

/-! ## Units and documents -/

theorem blames_readAttributes {attributes : List Line} (hsub : attributes ⊆ lines) :
    ∀ before, Blames lines (readAttributes before attributes) := by
  induction attributes with
  | nil => exact fun _ => blames_pure lines _
  | cons line rest ih =>
    intro before
    have hline : line ∈ lines := hsub List.mem_cons_self
    refine Blames.bind (blames_readAttributeLine hline) fun read _ => ?_
    refine Blames.bind (blames_refuse hline ?_) fun _ _ => ih (List.subset_of_cons_subset hsub) _
    intro cause hcause
    split at hcause
    · cases hcause
      rfl
    · cases hcause

/-- A block that an entity line opens blames one of its lines. -/
theorem blames_readBlock {b : Block} (hkind : b.head.kind = .entityName) (id : Text) :
    Blames (b.head :: b.attributes) (b.read id) := by
  refine Blames.bind (blames_readAttributes (List.subset_cons_self _ _) []) fun _ _ => ?_
  refine Blames.bind (blames_of_kind_entityName hkind List.mem_cons_self) fun _ _ => ?_
  exact blames_pure _ _

theorem isOn_of_stepOptions {m : OptionMap} {fault : ReadFault}
    (hm : m.TypedFor OptionName.ofDiagram) (h : (stepOptions m line).fault = some fault) :
    fault.IsOn [line] :=
  blames_readGlobalOptions hm List.mem_cons_self fault (stepOptions_fault_iff.mp h)

theorem isOn_of_stepBlock {s : EntityStage} {b : Block} {fault : ReadFault}
    (hkind : b.head.kind = .entityName) (h : (stepBlock s b).fault = some fault) :
    fault.IsOn (b.head :: b.attributes) := by
  rcases stepBlock_fault_iff.mp h with hread | ⟨e, -, -, rfl⟩
  · exact blames_readBlock hkind _ fault hread
  · exact ⟨.duplicateEntityName e.name, b.head, List.mem_cons_self, rfl, rfl⟩

theorem isOn_of_stepRelationship {s : RelationshipStage} {fault : ReadFault}
    (hkind : line.kind = .relationship) (h : (stepRelationship s line).fault = some fault) :
    fault.IsOn [line] :=
  blames_of_kind_relationship hkind List.mem_cons_self fault (stepRelationship_fault_iff.mp h)

/-- Options keep values of the declared types, whether a line of them is read or not. -/
theorem typedFor_of_stepOptions {m : OptionMap} (hm : m.TypedFor OptionName.ofDiagram) (line : Line) :
    (stepOptions m line).state.TypedFor OptionName.ofDiagram := by
  cases hread : (readGlobalOptions m line).result with
  | ok read =>
    rw [(stepOptions_clean.mpr hread).2]
    exact typedFor_of_readGlobalOptions hm hread
  | error fault =>
    have hstate : (stepOptions m line).state = m := by
      unfold stepOptions
      rcases hresult : readGlobalOptions m line with ⟨log, first | read⟩
      · rfl
      · rw [hresult] at hread
        cases hread
    rw [hstate]
    exact hm

theorem Catalog.describe_cause {c : Catalog} {cause : Cause} {line : Line} {r : Report} :
    c.describe (.cause cause (some line)) = .ok r ↔ c.report cause (some line) = .ok r := by
  rw [Catalog.describe]
  cases c.report cause (some line) <;> simp

theorem Grouping.Sorts.kind_head {g : Grouping} (h : g.Sorts lines) {b : Block} (hb : b ∈ g.blocks) :
    b.head.kind = .entityName := by
  have hmem := List.mem_map_of_mem (f := fun b : Block => b.head) hb
  rw [h.heads_eq] at hmem
  exact (mem_linesOfKind.mp hmem).2

theorem Grouping.Sorts.kind_relationship {g : Grouping} (h : g.Sorts lines)
    (hline : line ∈ g.relationships) : line.kind = .relationship := by
  rw [h.relationships_eq] at hline
  exact (mem_linesOfKind.mp hline).2

/-- Every report of a rejected document words a cause that contradicts the kind of no line. -/
theorem RejectedAs.fits {c : Catalog} {ids : IdSource} {reports : List Report}
    (h : RejectedAs c ids lines reports) :
    ∀ r ∈ reports, ∃ cause line, c.report cause (some line) = .ok r ∧ cause.isMisfit = false := by
  have hworded : ∀ {fault : ReadFault} {units : List Line} {r : Report}, fault.IsOn units →
      c.describe fault = .ok r →
        ∃ cause line, c.report cause (some line) = .ok r ∧ cause.isMisfit = false := by
    rintro fault units r ⟨cause, line, -, rfl, hfits⟩ hdescribe
    exact ⟨cause, line, Catalog.describe_cause.mp hdescribe, hfits⟩
  intro r hr
  cases h with
  | @grouping fault _ hgroup hreport =>
    rw [List.mem_singleton.mp hr]
    refine ⟨fault.cause, fault.line, Catalog.describe_cause.mp hreport, ?_⟩
    cases fault <;> rfl
  | options hgroup _ hrun =>
    obtain ⟨m, hm, line, -, fault, hfault, hdescribe⟩ :=
      hrun.exists_fault (P := fun m => m.TypedFor OptionName.ofDiagram)
        (OptionMap.typedFor_ofNames OptionMap.nodup_ofDiagram)
        (fun m hm line _ => typedFor_of_stepOptions hm line) r hr
    exact hworded (isOn_of_stepOptions hm hfault) hdescribe
  | blocks hgroup _ _ hrun =>
    obtain ⟨s, -, b, hb, fault, hfault, hdescribe⟩ :=
      hrun.exists_fault (P := fun _ => True) trivial (fun _ _ _ _ => trivial) r hr
    have hkind := (Grouping.sorts_of_ofLines hgroup).kind_head hb
    exact hworded (isOn_of_stepBlock hkind hfault) hdescribe
  | relationships hgroup _ _ _ hrun =>
    obtain ⟨s, -, line, hline, fault, hfault, hdescribe⟩ :=
      hrun.exists_fault (P := fun _ => True) trivial (fun _ _ _ _ => trivial) r hr
    have hkind := (Grouping.sorts_of_ofLines hgroup).kind_relationship hline
    exact hworded (isOn_of_stepRelationship hkind hfault) hdescribe

theorem kind_of_report {c : Catalog} {cause : Cause} {line : Option Line} {r : Report}
    (h : c.report cause line = .ok r) : r.kind = cause.kind ∧ r.line = line := by
  unfold Catalog.report at h
  split at h
  · cases h
    exact ⟨rfl, rfl⟩
  · cases h

/-! ## Agreement -/

theorem Cause.ne_of_fits {cause : Cause} (h : cause.isMisfit = false) :
    (∀ part type t, cause ≠ .textBefore part type t) ∧
      ∀ part ∈ [Part.entityName, .firstEntityName, .secondEntityName],
        ∀ t, cause ≠ .invalidBrackets part t := by
  constructor
  · rintro part type t rfl
    cases h
  · rintro part hpart t rfl
    simp only [List.mem_cons, List.not_mem_nil, or_false] at hpart
    rcases hpart with rfl | rfl | rfl <;> cases h

/-- Lines are read as what they are taken for.  The reader of a line that is taken for an entity line,
or for a relationship, finds no text in front of the first part and no entity part out of its
brackets; a line that a reader accepts is taken for a line of the reader; and so no document is
reported to have text in front of a line, a number of relationship lines, or an entity name that is
out of its brackets. -/
theorem kinds_agree_with_readers :
    (∀ line : Line,
      (line.kind = .entityName → ∀ fault, (readEntityLine line).result = .error fault →
        ∃ cause, fault = .cause cause (some line) ∧
          (∀ part type t, cause ≠ .textBefore part type t) ∧
          ∀ t, cause ≠ .invalidBrackets .entityName t) ∧
      (line.kind = .relationship → ∀ fault, (readRelationshipLine line).result = .error fault →
        ∃ cause, fault = .cause cause (some line) ∧
          (∀ part type t, cause ≠ .textBefore part type t) ∧
          ∀ t, cause ≠ .invalidBrackets .firstEntityName t ∧
            cause ≠ .invalidBrackets .secondEntityName t) ∧
      (∀ read, (readEntityLine line).result = .ok read → line.kind = .entityName) ∧
      ∀ read, (readRelationshipLine line).result = .ok read → line.kind = .relationship) ∧
    ∀ (c : Catalog) (ids : IdSource) (lines : List Line) (reports : List Report),
      (readDocument c ids lines).result = .ok (.error reports) → ∀ r ∈ reports,
        r.kind ≠ .textBefore ∧ r.kind ≠ .relationshipLineCount ∧
          ∃ cause line, c.report cause (some line) = .ok r ∧
            ∀ part ∈ [Part.entityName, .firstEntityName, .secondEntityName],
              ∀ t, cause ≠ .invalidBrackets part t := by
  constructor
  · intro line
    refine ⟨?_, ?_, fun _ => kind_of_readEntityLine, fun _ => kind_of_readRelationshipLine⟩
    · intro hkind fault hfault
      obtain ⟨cause, found, hfound, rfl, hfits⟩ :=
        blames_of_kind_entityName hkind (List.mem_singleton_self line) fault hfault
      obtain ⟨hbefore, hbrackets⟩ := Cause.ne_of_fits hfits
      rw [List.mem_singleton.mp hfound]
      exact ⟨cause, rfl, hbefore, hbrackets _ (by simp)⟩
    · intro hkind fault hfault
      obtain ⟨cause, found, hfound, rfl, hfits⟩ :=
        blames_of_kind_relationship hkind (List.mem_singleton_self line) fault hfault
      obtain ⟨hbefore, hbrackets⟩ := Cause.ne_of_fits hfits
      rw [List.mem_singleton.mp hfound]
      exact ⟨cause, rfl, hbefore, fun t => ⟨hbrackets _ (by simp) t, hbrackets _ (by simp) t⟩⟩
  · intro c ids lines reports h r hr
    obtain ⟨cause, line, hreport, hfits⟩ := (rejectedAs_of_readDocument h).fits r hr
    obtain ⟨-, hbrackets⟩ := Cause.ne_of_fits hfits
    refine ⟨?_, ?_, cause, line, hreport, hbrackets⟩
    all_goals
      intro hkind
      rw [(kind_of_report hreport).1] at hkind
    · cases cause with
      | textBefore => cases hfits
      | _ => cases hkind
    · cases cause with
      | relationshipLineCount => cases hfits
      | _ => cases hkind

/-- An entity line with a stray word, and a relationship without a cardinality. -/
def strayLine : Line := ⟨1, "[Track] red".toList⟩

def unratedLine : Line := ⟨2, "[Track] of (Album)  # \x7b".toList⟩

def strayReport : Report where
  kind := .textAfter
  description := "Unexpected text after the option list in the entity name line: red".toList
  params := [.text "option list".toList, .text "entity name line".toList, .text "red".toList]
  line := some strayLine

theorem kinds_agree_at_strayLine :
    (strayLine.kind = .entityName ∧
      ∃ cause, (readEntityLine strayLine).result = .error (.cause cause (some strayLine)) ∧
        ∀ t, cause ≠ .invalidBrackets .entityName t) ∧
    (unratedLine.kind = .relationship ∧
      ∃ cause, (readRelationshipLine unratedLine).result = .error (.cause cause (some unratedLine)) ∧
        ∀ t, cause ≠ .invalidBrackets .firstEntityName t ∧
          cause ≠ .invalidBrackets .secondEntityName t) ∧
    ((readEntityLine ⟨1, "[Track]".toList⟩).result =
        .ok ⟨"Track".toList, .independent, OptionMap.ofNames OptionName.ofEntity⟩ ∧
      Line.kind ⟨1, "[Track]".toList⟩ = .entityName) ∧
    ((readRelationshipLine ⟨1, "[Track]1--+(Album)".toList⟩).result =
        .ok ⟨"Track".toList, .independent, "Album".toList, .dependent,
          ⟨⟨.one, .mandatory⟩, ⟨.many, .mandatory⟩⟩, {}, OptionMap.ofNames OptionName.ofRelationship⟩ ∧
      Line.kind ⟨1, "[Track]1--+(Album)".toList⟩ = .relationship) ∧
    (readDocument Catalog.english {} [strayLine, unratedLine]).result = .ok (.error [strayReport]) ∧
      strayReport.kind ≠ .textBefore := by
  obtain ⟨hlines, hdocuments⟩ := kinds_agree_with_readers
  refine ⟨⟨by decide +kernel, ?_⟩, ⟨by decide +kernel, ?_⟩, ⟨by decide +kernel, ?_⟩,
    ⟨by decide +kernel, ?_⟩, by decide +kernel, ?_⟩
  · have hfault : (readEntityLine strayLine).result =
        .error (.cause (.textAfter .optionList .entity "red".toList) (some strayLine)) := by
      decide +kernel
    obtain ⟨cause, heq, -, hbrackets⟩ := (hlines strayLine).1 (by decide +kernel) _ hfault
    exact ⟨cause, heq ▸ hfault, hbrackets⟩
  · have hfault : (readRelationshipLine unratedLine).result =
        .error (.cause (.invalidCardinalityFormat "of".toList) (some unratedLine)) := by
      decide +kernel
    obtain ⟨cause, heq, -, hbrackets⟩ := (hlines unratedLine).2.1 (by decide +kernel) _ hfault
    exact ⟨cause, heq ▸ hfault, hbrackets⟩
  · exact (hlines ⟨1, "[Track]".toList⟩).2.2.1
      ⟨"Track".toList, .independent, OptionMap.ofNames OptionName.ofEntity⟩ (by decide +kernel)
  · exact (hlines ⟨1, "[Track]1--+(Album)".toList⟩).2.2.2
      ⟨"Track".toList, .independent, "Album".toList, .dependent,
        ⟨⟨.one, .mandatory⟩, ⟨.many, .mandatory⟩⟩, {}, OptionMap.ofNames OptionName.ofRelationship⟩
      (by decide +kernel)
  · exact (hdocuments Catalog.english {} [strayLine, unratedLine] [strayReport] (by decide +kernel)
      strayReport (List.mem_singleton_self _)).1

end ErDiagram

import ErDiagram.Proofs.Notation.Body
import ErDiagram.Proofs.Writing.Part

set_option autoImplicit false

/-!
# The groups of an accepted line

A line that one of the readers of entity lines and relationship lines accepts has one group for each
of its bracketed parts, in order, and the rest of it is blank but for a cardinality.  So none of its
double quotes stands outside of a group.
-/

namespace ErDiagram

open ErDiagram.Field (Row IsFree IsClosed IsUnclosed opens group)

/-! ## Parts in brackets -/

/-- The texts that are there. -/
def nonEmpty (texts : List Text) : List Text := texts.filter fun t => !t.isEmpty

theorem nonEmpty_cons {t : Text} (h : t ≠ []) (rest : List Text) :
    nonEmpty (t :: rest) = t :: nonEmpty rest :=
  List.filter_cons_of_pos (by simp [h])

theorem nonEmpty_append (texts rest : List Text) :
    nonEmpty (texts ++ rest) = nonEmpty texts ++ nonEmpty rest :=
  List.filter_append _ _

/-- The parts in brackets that are there, in order. -/
def EntityParts.bracketed (p : EntityParts) : List Text := nonEmpty [p.entity, p.options]

/-- The parts in brackets that are there, in order. -/
def RelationshipParts.bracketed (p : RelationshipParts) : List Text :=
  nonEmpty [p.entity1, p.entity2, p.verbPhrase, p.options]

/-- The fields that open with a bracket. -/
def groupsOf (fields : List Text) : List Text := fields.filter fun f => opensWith f Bracket.all

variable {kinds : List Bracket} {field : Text} {fields before rest : List Text}

theorem groupsOf_append (before rest : List Text) :
    groupsOf (before ++ rest) = groupsOf before ++ groupsOf rest :=
  List.filter_append _ _

theorem opensWith_all (h : opensWith field kinds = true) : opensWith field Bracket.all = true := by
  obtain ⟨kind, -, s, rfl⟩ := opensWith_eq_true_iff.mp h
  exact opensWith_eq_true_iff.mpr ⟨kind, kind.mem_all, s, rfl⟩

/-- A character outside of the groups of some fields is no double quote. -/
def PlainOutside (fields : List Text) : Prop :=
  ∀ f ∈ fields, opensWith f Bracket.all = false → Quoting.quote ∉ f

/-! ## Gaps -/

/-- A blank field is no group and holds no double quote. -/
theorem of_strip_eq_nil (h : Text.strip field = []) :
    opensWith field Bracket.all = false ∧ Quoting.quote ∉ field := by
  constructor
  · by_contra hopens
    rw [Bool.not_eq_false] at hopens
    have hstrip := opensWith_strip hopens
    rw [h] at hstrip
    simp [opensWith, Text.startsWith] at hstrip
  · intro hquote
    have hblank := Text.stripOf_eq_nil_iff.mp h _ hquote
    exact absurd hblank (by decide)

theorem groupsOf_of_joined (h : joined fields = []) : groupsOf fields = [] ∧ PlainOutside fields := by
  rw [joined_eq_nil_iff] at h
  constructor
  · rw [groupsOf, List.filter_eq_nil_iff]
    intro f hf
    simp [(of_strip_eq_nil (h f hf)).1]
  · exact fun f hf _ => (of_strip_eq_nil (h f hf)).2

/-- A character of a text that is not blank is left by stripping. -/
theorem mem_strip {t : Text} {c : Char} (hc : c ∈ t) (hblank : Text.isBlank c = false) :
    c ∈ Text.strip t := by
  obtain ⟨front, back, ht, hfront, hback⟩ := Text.exists_stripOf_append Text.isBlank t
  rw [ht, List.mem_append, List.mem_append] at hc
  rcases hc with hc | hc | hc
  · simp [hfront c hc] at hblank
  · exact hc
  · simp [hback c hc] at hblank

/-- The characters of a cardinality that is read are none of the brackets and no double quote. -/
theorem plain_of_readCardinality {t : Text} {cardinality : Cardinality}
    (h : readCardinality t = .ok cardinality) :
    ∀ c ∈ t, c ≠ Quoting.quote ∧ ∀ kind : Bracket, c ≠ kind.left := by
  obtain ⟨token, htoken, -⟩ := CardinalityToken.exists_token_of_readCardinality h
  intro c hc
  by_cases hblank : Text.isBlank c = true
  · refine ⟨?_, fun kind => ?_⟩
    · rintro rfl
      exact absurd hblank (by decide)
    · rintro rfl
      simp [Field.isBlank_bracket] at hblank
  · have hmem : c ∈ token.written := htoken ▸ mem_strip hc (Bool.not_eq_true _ ▸ hblank)
    refine ⟨ne_of_beq_false (@CardinalityToken.plain_written (· == Quoting.quote) rfl token c hmem), ?_⟩
    rintro kind rfl
    have hplain := @CardinalityToken.plain_written (opens Bracket.all) rfl token _ hmem
    rw [Field.opens_left kind.mem_all] at hplain
    cases hplain

theorem groupsOf_of_cardinality {cardinality : Cardinality}
    (h : readCardinality (joined fields) = .ok cardinality) :
    groupsOf fields = [] ∧ PlainOutside fields := by
  have hplain : ∀ f ∈ fields, ∀ c ∈ f, Text.isBlank c = false →
      c ≠ Quoting.quote ∧ ∀ kind : Bracket, c ≠ kind.left := by
    intro f hf c hc hblank
    exact plain_of_readCardinality h c (mem_strip (List.mem_flatten.mpr ⟨f, hf, hc⟩) hblank)
  constructor
  · rw [groupsOf, List.filter_eq_nil_iff]
    intro f hf hopens
    obtain ⟨kind, -, s, rfl⟩ := opensWith_eq_true_iff.mp hopens
    exact (hplain _ hf kind.left List.mem_cons_self (Field.isBlank_bracket kind).1).2 kind rfl
  · intro f hf _ hquote
    exact (hplain f hf _ hquote (by decide)).1 rfl

theorem PlainOutside.append (hbefore : PlainOutside before) (hrest : PlainOutside rest) :
    PlainOutside (before ++ rest) := by
  intro f hf
  exact (List.mem_append.mp hf).elim (hbefore f) (hrest f)

/-- Behind a gap with no group and no double quote, the group that is looked for comes first. -/
theorem groupsOf_of_split (h : splitAtGroup kinds fields = some (before, field, rest))
    (hgap : groupsOf before = [] ∧ PlainOutside before) :
    groupsOf fields = field :: groupsOf rest ∧ (PlainOutside rest → PlainOutside fields) := by
  obtain ⟨rfl, hopens, -⟩ := splitAtGroup_eq_some_iff.mp h
  have hfield := opensWith_all hopens
  constructor
  · rw [groupsOf_append, hgap.1, List.nil_append, groupsOf, List.filter_cons, if_pos hfield, groupsOf]
  · intro hrest
    refine hgap.2.append (List.forall_mem_cons.mpr ⟨?_, hrest⟩)
    intro hnot
    rw [hfield] at hnot
    cases hnot

theorem strip_ne_nil_of_split (h : splitAtGroup kinds fields = some (before, field, rest)) :
    Text.strip field ≠ [] := by
  intro hstrip
  have hopens := opensWith_all (splitAtGroup_eq_some_iff.mp h).2.1
  rw [(of_strip_eq_nil hstrip).1] at hopens
  cases hopens

/-! ## Where the parts come from -/

/-- A part that a line may leave out is the first group of its kind, behind a gap, or missing. -/
inductive TakesOptional (kind : Bracket) : List Text → Text → Text → List Text → Prop where
  | absent {fields : List Text} (h : splitAtGroup [kind] fields = none) :
      TakesOptional kind fields [] [] fields
  | present {fields before rest : List Text} {field : Text}
      (h : splitAtGroup [kind] fields = some (before, field, rest)) :
      TakesOptional kind fields (joined before) (Text.strip field) rest

theorem EntityParts.ofFields_of_split
    (h : splitAtGroup Bracket.entity fields = some (before, field, rest)) :
    (ofFields fields).gapBefore = joined before ∧ (ofFields fields).entity = Text.strip field ∧
      ∃ behind,
        TakesOptional .curly rest (ofFields fields).gapBetween (ofFields fields).options behind ∧
        (ofFields fields).gapAfter = joined behind := by
  unfold ofFields
  rw [h]
  cases hcurly : splitAtGroup [.curly] rest with
  | none =>
    simp only [hcurly]
    exact ⟨trivial, trivial, rest, .absent hcurly, rfl⟩
  | some split =>
    obtain ⟨between, options, behind⟩ := split
    simp only [hcurly]
    exact ⟨trivial, trivial, behind, .present hcurly, rfl⟩

theorem EntityParts.ofFields_of_split_none (h : splitAtGroup Bracket.entity fields = none) :
    (ofFields fields).entity = [] := by
  unfold ofFields
  rw [h]

theorem RelationshipParts.withTail_eq (parts : RelationshipParts)
    (hempty : parts.gapBeforeOptions = [] ∧ parts.options = []) (rest : List Text) :
    ∃ behind, TakesOptional .curly rest (parts.withTail rest).gapBeforeOptions
        (parts.withTail rest).options behind ∧ (parts.withTail rest).gapAfter = joined behind := by
  unfold withTail
  cases hcurly : splitAtGroup [.curly] rest with
  | none =>
    simp only [hempty]
    exact ⟨rest, .absent hcurly, rfl⟩
  | some split =>
    obtain ⟨between, options, behind⟩ := split
    exact ⟨behind, .present hcurly, rfl⟩

theorem RelationshipParts.withTail_fixed (parts : RelationshipParts) (rest : List Text) :
    (parts.withTail rest).gapBefore = parts.gapBefore ∧
      (parts.withTail rest).entity1 = parts.entity1 ∧
      (parts.withTail rest).cardinality = parts.cardinality ∧
      (parts.withTail rest).entity2 = parts.entity2 ∧
      (parts.withTail rest).gapBeforeVerb = parts.gapBeforeVerb ∧
      (parts.withTail rest).verbPhrase = parts.verbPhrase := by
  unfold withTail
  split <;> exact ⟨rfl, rfl, rfl, rfl, rfl, rfl⟩

theorem RelationshipParts.ofFields_of_split {entity1 entity2 : Text}
    {before rest1 between rest2 : List Text}
    (h1 : splitAtGroup Bracket.entity fields = some (before, entity1, rest1))
    (h2 : splitAtGroup Bracket.entity rest1 = some (between, entity2, rest2)) :
    (ofFields fields).gapBefore = joined before ∧
      (ofFields fields).entity1 = Text.strip entity1 ∧
      (ofFields fields).cardinality = joined between ∧
      (ofFields fields).entity2 = Text.strip entity2 ∧
      ∃ rest3,
        TakesOptional .angle rest2 (ofFields fields).gapBeforeVerb (ofFields fields).verbPhrase
          rest3 ∧
        ∃ behind,
          TakesOptional .curly rest3 (ofFields fields).gapBeforeOptions (ofFields fields).options
            behind ∧
          (ofFields fields).gapAfter = joined behind := by
  unfold ofFields
  simp only [h1, h2]
  cases hangle : splitAtGroup [.angle] rest2 with
  | none =>
    obtain ⟨hbefore, hentity1, hcardinality, hentity2, hgap, hverb⟩ :=
      (ofSides before entity1 between entity2).withTail_fixed rest2
    refine ⟨hbefore, hentity1, hcardinality, hentity2, rest2, ?_, withTail_eq _ ⟨rfl, rfl⟩ rest2⟩
    rw [hgap, hverb]
    exact .absent hangle
  | some split =>
    obtain ⟨gap, verb, rest3⟩ := split
    obtain ⟨hbefore, hentity1, hcardinality, hentity2, hgap, hverb⟩ :=
      ((ofSides before entity1 between entity2).withVerb gap verb).withTail_fixed rest3
    refine ⟨hbefore, hentity1, hcardinality, hentity2, rest3, ?_, withTail_eq _ ⟨rfl, rfl⟩ rest3⟩
    rw [hgap, hverb]
    exact .present hangle

theorem RelationshipParts.ofFields_of_split_none {entity1 : Text} {before rest1 : List Text}
    (h1 : splitAtGroup Bracket.entity fields = some (before, entity1, rest1))
    (h2 : splitAtGroup Bracket.entity rest1 = none) : (ofFields fields).entity2 = [] := by
  unfold ofFields
  simp only [h1, h2]

theorem RelationshipParts.ofFields_of_split_none_first
    (h : splitAtGroup Bracket.entity fields = none) : (ofFields fields).entity1 = [] := by
  unfold ofFields
  rw [h]

/-- Behind a blank gap, a part that may be left out is the next group. -/
theorem TakesOptional.groupsOf_eq {kind : Bracket} {part : Text}
    (h : TakesOptional kind fields [] part rest) :
    (groupsOf fields).map Text.strip =
        nonEmpty [part] ++ (groupsOf rest).map Text.strip ∧
      (PlainOutside rest → PlainOutside fields) := by
  generalize hgap : ([] : Text) = gap at h
  cases h with
  | absent => exact ⟨rfl, id⟩
  | present hsplit =>
    obtain ⟨hgroups, hplain⟩ := groupsOf_of_split hsplit (groupsOf_of_joined hgap.symm)
    refine ⟨?_, hplain⟩
    rw [hgroups, List.map_cons, nonEmpty_cons (strip_ne_nil_of_split hsplit)]
    rfl

/-! ## Accepted lines -/

/-- The line opens with an entity bracket, its groups are these parts, and no double quote stands
outside of them. -/
structure Line.HoldsOnly (line : Line) (parts : List Text) : Prop where
  opens : opensWith line.code Bracket.entity = true
  groups_eq : (groupsOf (lineFields line.text)).map Text.strip = parts
  plain : PlainOutside (lineFields line.text)

variable {line : Line}

/-- In front of the first entity part stands nothing, not even blanks, if nothing but blanks does. -/
theorem Line.opensWith_code_of_split {line : Line}
    (h : splitAtGroup Bracket.entity (lineFields line.text) = some (before, field, rest))
    (hgap : joined before = []) : opensWith line.code Bracket.entity = true := by
  obtain ⟨hfields, hopens, -⟩ := splitAtGroup_eq_some_iff.mp h
  have hcode : line.code = (before ++ field :: rest).flatten := by
    rw [← hfields, lineFields_eq, Field.flatten_cut]
  have hrow := line.row_lineFields
  rw [hfields] at hrow
  cases before with
  | nil =>
    rw [hcode, List.nil_append, List.flatten_cons,
      Field.opensWith_append (hrow.ne_nil List.mem_cons_self)]
    exact hopens
  | cons first before =>
    -- the code would begin with a blank
    have hblank := joined_eq_nil_iff.mp hgap first List.mem_cons_self
    have hne : first ≠ [] := hrow.ne_nil (by simp)
    obtain ⟨c, cs, rfl⟩ := List.exists_cons_of_ne_nil hne
    have hc := Text.stripOf_eq_nil_iff.mp hblank c List.mem_cons_self
    rw [not_isBlank_of_code_eq_cons hcode] at hc
    cases hc

theorem isEnclosed_of_readEntityPart {part : Text} {role : Part} {read : Text × Dependency}
    (h : readEntityPart part role = .ok read) : isEnclosed part Bracket.entity = true := by
  obtain ⟨kind, hkind, ⟨henclosed, -⟩, -⟩ := readEntityPart_eq_ok.mp h
  exact List.any_eq_true.mpr ⟨kind, hkind, henclosed⟩

/-- An accepted entity line holds its name, its options and blanks. -/
theorem Line.holdsOnly_of_readEntityLine {read : EntityLine}
    (h : (readEntityLine line).result = .ok read) :
    line.HoldsOnly (EntityParts.ofText line.text).bracketed := by
  have hparts := readEntityLine_eq_ok.mp h
  rw [EntityParts.ofText] at hparts ⊢
  obtain ⟨hbefore, hentity, hbetween, -, hafter⟩ := hparts
  have henclosed := isEnclosed_of_readEntityPart hentity
  cases hsplit : splitAtGroup Bracket.entity (lineFields line.text) with
  | none =>
    rw [EntityParts.ofFields_of_split_none hsplit, isEnclosed_nil] at henclosed
    cases henclosed
  | some split =>
    obtain ⟨before, field, rest⟩ := split
    obtain ⟨hgap, hpart, behind, hoptions, hgapAfter⟩ := EntityParts.ofFields_of_split hsplit
    rw [hbefore] at hgap
    rw [hbetween] at hoptions
    obtain ⟨hgroups, hplain⟩ := groupsOf_of_split hsplit (groupsOf_of_joined hgap.symm)
    obtain ⟨htail, htailPlain⟩ := hoptions.groupsOf_eq
    obtain ⟨hend, hendPlain⟩ := groupsOf_of_joined (hgapAfter.symm.trans hafter)
    refine ⟨opensWith_code_of_split hsplit hgap.symm, ?_, hplain (htailPlain hendPlain)⟩
    rw [hgroups, List.map_cons, htail, hend, List.map_nil, List.append_nil, EntityParts.bracketed,
      hpart, nonEmpty_cons (strip_ne_nil_of_split hsplit)]

/-- An accepted relationship line holds its two names, its verb phrase, its options, its cardinality
and blanks. -/
theorem Line.holdsOnly_of_readRelationshipLine {read : RelationshipLine}
    (h : (readRelationshipLine line).result = .ok read) :
    line.HoldsOnly (RelationshipParts.ofText line.text).bracketed := by
  have hparts := readRelationshipLine_eq_ok.mp h
  rw [RelationshipParts.ofText] at hparts ⊢
  obtain ⟨hbefore, hentity1, hcardinality, hentity2, hverbGap, -, hoptionGap, -, hafter, -⟩ := hparts
  have henclosed1 := isEnclosed_of_readEntityPart hentity1
  have henclosed2 := isEnclosed_of_readEntityPart hentity2
  cases hsplit1 : splitAtGroup Bracket.entity (lineFields line.text) with
  | none =>
    rw [RelationshipParts.ofFields_of_split_none_first hsplit1, isEnclosed_nil] at henclosed1
    cases henclosed1
  | some split1 =>
    obtain ⟨before, field1, rest1⟩ := split1
    cases hsplit2 : splitAtGroup Bracket.entity rest1 with
    | none =>
      rw [RelationshipParts.ofFields_of_split_none hsplit1 hsplit2, isEnclosed_nil] at henclosed2
      cases henclosed2
    | some split2 =>
      obtain ⟨between, field2, rest2⟩ := split2
      obtain ⟨hgap, hpart1, hpart, hpart2, rest3, hverb, behind, hoptions, hgapAfter⟩ :=
        RelationshipParts.ofFields_of_split hsplit1 hsplit2
      rw [hbefore] at hgap
      rw [hpart] at hcardinality
      rw [hverbGap] at hverb
      rw [hoptionGap] at hoptions
      obtain ⟨hgroups1, hplain1⟩ := groupsOf_of_split hsplit1 (groupsOf_of_joined hgap.symm)
      obtain ⟨hgroups2, hplain2⟩ :=
        groupsOf_of_split hsplit2 (groupsOf_of_cardinality hcardinality)
      obtain ⟨hgroups3, hplain3⟩ := hverb.groupsOf_eq
      obtain ⟨hgroups4, hplain4⟩ := hoptions.groupsOf_eq
      obtain ⟨hend, hendPlain⟩ := groupsOf_of_joined (hgapAfter.symm.trans hafter)
      refine ⟨opensWith_code_of_split hsplit1 hgap.symm, ?_,
        hplain1 (hplain2 (hplain3 (hplain4 hendPlain)))⟩
      rw [hgroups1, List.map_cons, hgroups2, List.map_cons, hgroups3, hgroups4, hend, List.map_nil,
        List.append_nil, ← nonEmpty_append, RelationshipParts.bracketed, hpart1, hpart2,
        nonEmpty_cons (strip_ne_nil_of_split hsplit1), nonEmpty_cons (strip_ne_nil_of_split hsplit2)]
      rfl

end ErDiagram

import ErDiagram.Proofs.Notation.Decomposition
import ErDiagram.Proofs.Reading.Closing

set_option autoImplicit false

/-!
# The grammar of lines that name entities

A line that names an entity is a name in closed brackets and perhaps an option list behind it.  A
relationship is two names around a cardinality token, and behind them perhaps a verb phrase and perhaps
an option list.  Nothing but blanks stands between these.  The readers search the fields of a line for
opening brackets instead and check what is left over.  As long as the double quotes of a body are in
pairs, both come to the same: a line is accepted exactly if the grammar derives its body, and what is
read is what the derivation says.
-/

namespace ErDiagram

open Quoting (Hides after findFrom)
open ErDiagram.Field (Row IsFree IsClosed IsUnclosed IsClosedGroup opens group cut)

variable {kinds : List Bracket} {kind : Bracket} {allowed : List OptionName} {line : Line}
variable {gap part field blanks free name t : Text} {fields before behind rest : List Text}
variable {dependency : Dependency} {verb : VerbPhrase} {m : OptionMap}

/-! ## The grammar -/

/-- Nothing but blanks. -/
def IsGap (t : Text) : Prop := ∀ c ∈ t, Text.isBlank c = true

/-- An entity name in closed brackets, which tell the dependency. -/
def IsNameGroup (t name : Text) (dependency : Dependency) : Prop :=
  ∃ kind ∈ Bracket.entity, IsClosedGroup kind t ∧
    name = Quoting.unquote (Text.strip t.inner) ∧ name ≠ [] ∧ dependency = kind.dependency

/-- A verb phrase in closed brackets with blanks behind it, or no verb phrase. -/
inductive VerbText : Text → VerbPhrase → Prop where
  | absent : VerbText [] {}
  | present {t blanks : Text} {verb : VerbPhrase} (hclosed : IsClosedGroup .angle t)
      (hread : readVerbPhrase t.inner = .ok verb) (hblanks : IsGap blanks) :
      VerbText (t ++ blanks) verb

/-- An option list in closed brackets, or no option list. -/
inductive OptionText (allowed : List OptionName) (line : Line) : Text → OptionMap → Prop where
  | absent : OptionText allowed line [] (OptionMap.ofNames allowed)
  | present {t : Text} {m : OptionMap} (hclosed : IsClosedGroup .curly t)
      (hread : (readOptions t.inner allowed (some line)).result = .ok m) :
      OptionText allowed line t m

/-- A body that names an entity, and what it says. -/
inductive EntityText (line : Line) : Text → EntityLine → Prop where
  | intro {g blanks o : Text} {read : EntityLine} (hname : IsNameGroup g read.name read.dependency)
      (hblanks : IsGap blanks) (hoptions : OptionText OptionName.ofEntity line o read.options) :
      EntityText line (g ++ (blanks ++ o)) read

/-- A body that relates two entities, and what it says. -/
inductive RelationshipText (line : Line) : Text → RelationshipLine → Prop where
  | intro {g1 blanks1 blanks2 g2 blanks3 v o : Text} {token : CardinalityToken}
      {read : RelationshipLine} (hname1 : IsNameGroup g1 read.entity1 read.dependency1)
      (hblanks1 : IsGap blanks1) (htoken : read.cardinality = token.toCardinality)
      (hblanks2 : IsGap blanks2) (hname2 : IsNameGroup g2 read.entity2 read.dependency2)
      (hblanks3 : IsGap blanks3) (hverb : VerbText v read.verb)
      (hoptions : OptionText OptionName.ofRelationship line o read.options)
      (hallowed : allowsDependencies read.cardinality.first.count read.cardinality.second.count
        read.dependency1 read.dependency2 = true) :
      RelationshipText line
        (g1 ++ (blanks1 ++ (token.written ++ (blanks2 ++ (g2 ++ (blanks3 ++ (v ++ o))))))) read

/-! ## Readers of parts and the blanks around them -/

theorem readVerbPhrase_strip (t : Text) : readVerbPhrase (Text.strip t) = readVerbPhrase t := by
  rw [readVerbPhrase, Text.strip_strip, readVerbPhrase]

theorem readOptions_strip (t : Text) (allowed : List OptionName) (line : Option Line) :
    readOptions (Text.strip t) allowed line = readOptions t allowed line := by
  rw [readOptions, readOptionList, Quoting.pieces, Text.strip_strip]
  rfl

/-! ## Closed groups -/

theorem encloses_of_isClosedGroup (h : IsClosedGroup kind t) : kind.encloses t = true := by
  obtain ⟨inner, rfl, -⟩ := Field.isClosedGroup_iff.mp h
  exact Field.encloses_group kind inner

theorem ne_nil_of_isClosedGroup (h : IsClosedGroup kind t) : t ≠ [] := by
  obtain ⟨inner, rfl, -⟩ := Field.isClosedGroup_iff.mp h
  exact Field.group_ne_nil kind inner

theorem strip_of_isClosedGroup (h : IsClosedGroup kind t) : Text.strip t = t := by
  obtain ⟨inner, rfl, -⟩ := Field.isClosedGroup_iff.mp h
  exact Field.strip_group kind inner

theorem opensWith_of_isClosedGroup (h : IsClosedGroup kind t) (hkind : kind ∈ kinds) :
    opensWith t kinds = true :=
  opensWith_of_isEnclosed (List.any_eq_true.mpr ⟨kind, hkind, encloses_of_isClosedGroup h⟩)

/-- Between closed brackets, an entity part is read exactly if it is a name in brackets. -/
theorem readEntityPart_eq_ok_iff_isNameGroup {role : Part} (hclosed : ∃ kind, IsClosedGroup kind t) :
    readEntityPart t role = .ok (name, dependency) ↔ IsNameGroup t name dependency := by
  rw [readEntityPart_eq_ok]
  constructor
  · rintro ⟨kind, hkind, ⟨henclosed, hname⟩, hdependency⟩
    obtain ⟨other, hother⟩ := hclosed
    obtain rfl := Bracket.eq_of_encloses henclosed (encloses_of_isClosedGroup hother)
    obtain ⟨hname, hne⟩ := readEntityName_eq_ok.mp hname
    rw [Text.strip_strip] at hname
    exact ⟨kind, hkind, hother, hname, hne, hdependency⟩
  · rintro ⟨kind, hkind, hgroup, hname, hne, hdependency⟩
    refine ⟨kind, hkind, ⟨encloses_of_isClosedGroup hgroup, ?_⟩, hdependency⟩
    rw [readEntityName_eq_ok, Text.strip_strip]
    exact ⟨hname, hne⟩

theorem IsNameGroup.isClosedGroup (h : IsNameGroup t name dependency) :
    ∃ kind ∈ Bracket.entity, IsClosedGroup kind t := by
  obtain ⟨kind, hkind, hclosed, -⟩ := h
  exact ⟨kind, hkind, hclosed⟩

/-! ## What stands behind a field -/

/-- The fields are what is left of a body with paired double quotes, from one of its fields on. -/
structure IsRemainder (fields : List Text) : Prop where
  row : Row Bracket.all fields
  paired : after false fields.flatten = false
  last : ∀ c, fields.flatten.getLast? = some c → Text.isBlank c = false

namespace IsRemainder

theorem cut_body (line : Line) (hpaired : line.body.count Quoting.quote % 2 = 0) :
    IsRemainder (cut line.body Bracket.all) := by
  constructor
  case row => exact Field.row_cut line.body Bracket.all
  case paired =>
    rw [Field.flatten_cut]
    exact after_of_even hpaired
  case last =>
    rw [Field.flatten_cut]
    exact (Text.trimmed_stripOf Text.isBlank line.code).last

theorem of_append (h : IsRemainder (before ++ rest)) : IsRemainder rest := by
  constructor
  case row => exact h.row.of_append
  case paired =>
    cases rest with
    | nil => rfl
    | cons field rest =>
      have hpaired := h.paired
      rwa [List.flatten_append, Quoting.after_append, h.row.after_flatten] at hpaired
  case last =>
    intro c hc
    refine h.last c ?_
    rw [List.flatten_append, List.getLast?_append, hc]
    rfl

theorem tail (h : IsRemainder (field :: rest)) : IsRemainder rest :=
  @of_append [field] rest h

/-- Blanks do not stand at the end of a body. -/
theorem flatten_eq_nil (h : IsRemainder fields) (hblank : IsGap fields.flatten) :
    fields.flatten = [] := by
  rcases List.eq_nil_or_concat fields.flatten with hnil | ⟨front, c, hconcat⟩
  · exact hnil
  · rw [List.concat_eq_append] at hconcat
    have hc := h.last c (by rw [hconcat, List.getLast?_concat])
    rw [hblank c (by simp [hconcat])] at hc
    cases hc

/-- A field that is enclosed once its blanks are off is a closed group: an open one would end in a quoted
bracket. -/
theorem isClosedGroup (h : IsRemainder (field :: rest))
    (henclosed : kind.encloses (Text.strip field) = true) : IsClosedGroup kind field := by
  have hany : isEnclosed (Text.strip field) Bracket.all = true :=
    List.any_eq_true.mpr ⟨kind, kind.mem_all, henclosed⟩
  rcases h.row.head_cases with hclosed | ⟨hfree, -⟩ | ⟨hopen, rfl⟩
  · obtain ⟨other, -, hother⟩ := Field.isClosed_iff.mp hclosed
    rw [strip_of_isClosed hclosed] at henclosed
    exact Bracket.eq_of_encloses henclosed (encloses_of_isClosedGroup hother) ▸ hother
  · have hopens := h.row.opensWith_of_isEnclosed List.mem_cons_self hany
    rw [(not_opensWith_of_isFree hfree _).1] at hopens
    cases hopens
  · have hodd := after_of_isUnclosed hopen hany
    have hpaired := h.paired
    rw [List.flatten_singleton, hodd] at hpaired
    cases hpaired

end IsRemainder

theorem isGap_of_joined (h : joined fields = []) : IsGap fields.flatten :=
  Text.stripOf_eq_nil_iff.mp h

theorem TakesOptional.isRemainder (h : TakesOptional kind fields gap part rest)
    (hfields : IsRemainder fields) : IsRemainder rest := by
  cases h with
  | absent => exact hfields
  | @present before _ field hsplit =>
    obtain ⟨rfl, -, -⟩ := splitAtGroup_eq_some_iff.mp hsplit
    exact hfields.of_append.tail

/-- Of a remainder, a part that may be left out is a closed group behind a gap, or it is missing. -/
theorem TakesOptional.cases_of_isRemainder (h : TakesOptional kind fields [] part rest)
    (hfields : IsRemainder fields) (hpart : part = [] ∨ kind.encloses part = true) :
    (part = [] ∧ rest = fields) ∨ (IsClosedGroup kind part ∧
      ∃ blanks, IsGap blanks ∧ fields.flatten = blanks ++ (part ++ rest.flatten)) := by
  generalize hgap : ([] : Text) = gap at h
  cases h with
  | absent => exact .inl ⟨rfl, rfl⟩
  | @present before _ field hsplit =>
    obtain ⟨rfl, -, -⟩ := splitAtGroup_eq_some_iff.mp hsplit
    have henclosed := hpart.resolve_left (strip_ne_nil_of_split hsplit)
    have hclosed := hfields.of_append.isClosedGroup henclosed
    rw [strip_of_isClosedGroup hclosed]
    refine .inr ⟨hclosed, before.flatten, isGap_of_joined hgap.symm, ?_⟩
    rw [List.flatten_append, List.flatten_cons]

/-! ## From the readers to the grammar -/

/-- What is read as the end of a line is an option list behind a gap, or a gap. -/
theorem TakesOptional.exists_optionText (h : TakesOptional .curly fields [] part behind)
    (hfields : IsRemainder fields) (hread : (readOptionPart part allowed line).result = .ok m)
    (hbehind : joined behind = []) :
    ∃ blanks o, fields.flatten = blanks ++ o ∧ IsGap blanks ∧ OptionText allowed line o m := by
  have hblank := isGap_of_joined hbehind
  rcases h.cases_of_isRemainder hfields (options_of_readOptionPart hread) with
    ⟨rfl, rfl⟩ | ⟨hclosed, blanks, hblanks, hflatten⟩
  · rcases readOptionPart_eq_ok.mp hread with ⟨-, rfl⟩ | ⟨hne, -⟩
    · exact ⟨behind.flatten, [], (List.append_nil _).symm, hblank, .absent⟩
    · exact absurd rfl hne
  · rcases readOptionPart_eq_ok.mp hread with ⟨hnil, -⟩ | ⟨-, -, hoptions⟩
    · exact absurd hnil (ne_nil_of_isClosedGroup hclosed)
    · rw [readOptions_strip] at hoptions
      rw [(h.isRemainder hfields).flatten_eq_nil hblank, List.append_nil] at hflatten
      exact ⟨blanks, part, hflatten, hblanks, .present hclosed hoptions⟩

/-- In front of that, a verb phrase is read behind a gap, or nothing but a gap. -/
theorem TakesOptional.exists_verbText (h : TakesOptional .angle fields [] part rest)
    (hfields : IsRemainder fields) (hread : readVerbPart part = .ok verb)
    {o : Text} (hrest : rest.flatten = blanks ++ o) (hblanks : IsGap blanks) :
    ∃ blanks' v, fields.flatten = blanks' ++ (v ++ o) ∧ IsGap blanks' ∧ VerbText v verb := by
  rcases h.cases_of_isRemainder hfields (verb_of_readVerbPart hread) with
    ⟨rfl, rfl⟩ | ⟨hclosed, blanks', hblanks', hflatten⟩
  · rcases readVerbPart_eq_ok.mp hread with ⟨-, rfl⟩ | ⟨hne, -⟩
    · exact ⟨blanks, [], hrest, hblanks, .absent⟩
    · exact absurd rfl hne
  · rcases readVerbPart_eq_ok.mp hread with ⟨hnil, -⟩ | ⟨-, -, hphrase⟩
    · exact absurd hnil (ne_nil_of_isClosedGroup hclosed)
    · rw [readVerbPhrase_strip] at hphrase
      refine ⟨blanks', part ++ blanks, ?_, hblanks', .present hclosed hphrase hblanks⟩
      rw [hflatten, hrest, List.append_assoc]

/-- Nothing stands in front of the first group of a body, not even blanks, if nothing but blanks does. -/
theorem flatten_eq_nil_of_joined (hfields : cut line.body Bracket.all = before ++ rest)
    (hgap : joined before = []) : before.flatten = [] := by
  cases hbefore : before.flatten with
  | nil => rfl
  | cons c cs =>
    have hbody : line.body.head? = some c := by
      rw [← Field.flatten_cut line.body Bracket.all, hfields, List.flatten_append, hbefore]
      rfl
    have hc := (Text.trimmed_stripOf Text.isBlank line.code).head c hbody
    rw [isGap_of_joined hgap c (hbefore ▸ List.mem_cons_self)] at hc
    cases hc

/-- The first field looked for in a remainder is read as a name exactly if it is a name in brackets. -/
theorem IsRemainder.isNameGroup {role : Part} (h : IsRemainder (field :: rest))
    (hread : readEntityPart (Text.strip field) role = .ok (name, dependency)) :
    IsNameGroup field name dependency := by
  obtain ⟨kind, -, ⟨henclosed, -⟩, -⟩ := readEntityPart_eq_ok.mp hread
  have hclosed := h.isClosedGroup henclosed
  rw [strip_of_isClosedGroup hclosed] at hread
  exact (readEntityPart_eq_ok_iff_isNameGroup ⟨kind, hclosed⟩).mp hread

theorem entityText_of_readEntityLine (hpaired : line.body.count Quoting.quote % 2 = 0)
    {read : EntityLine} (h : (readEntityLine line).result = .ok read) :
    EntityText line line.body read := by
  have hparts := readEntityLine_eq_ok.mp h
  rw [line.entityParts_eq] at hparts
  obtain ⟨hbefore, hentity, hbetween, hoptions, hafter⟩ := hparts
  have hbody := IsRemainder.cut_body line hpaired
  cases hsplit : splitAtGroup Bracket.entity (cut line.body Bracket.all) with
  | none =>
    have henclosed := isEnclosed_of_readEntityPart hentity
    rw [EntityParts.ofFields_of_split_none hsplit, isEnclosed_nil] at henclosed
    cases henclosed
  | some split =>
    obtain ⟨before, field, rest⟩ := split
    obtain ⟨hgap, hpart, behind, htakes, hgapAfter⟩ := EntityParts.ofFields_of_split hsplit
    rw [hbefore] at hgap
    rw [hpart] at hentity
    rw [hbetween] at htakes
    obtain ⟨hfields, -, -⟩ := splitAtGroup_eq_some_iff.mp hsplit
    rw [hfields] at hbody
    have hrest : IsRemainder rest := hbody.of_append.tail
    obtain ⟨blanks, o, hflatten, hblanks, ho⟩ :=
      htakes.exists_optionText hrest hoptions (hgapAfter.symm.trans hafter)
    have htext : line.body = field ++ (blanks ++ o) := by
      rw [← Field.flatten_cut line.body Bracket.all, hfields, List.flatten_append,
        flatten_eq_nil_of_joined hfields hgap.symm, List.nil_append, List.flatten_cons, hflatten]
    rw [htext]
    exact .intro (hbody.of_append.isNameGroup hentity) hblanks ho

theorem relationshipText_of_readRelationshipLine
    (hpaired : line.body.count Quoting.quote % 2 = 0) {read : RelationshipLine}
    (h : (readRelationshipLine line).result = .ok read) :
    RelationshipText line line.body read := by
  have hparts := readRelationshipLine_eq_ok.mp h
  rw [line.relationshipParts_eq] at hparts
  obtain ⟨hbefore, hentity1, hcardinality, hentity2, hverbGap, hverb, hoptionGap, hoptions, hafter,
    hallowed⟩ := hparts
  have hbody := IsRemainder.cut_body line hpaired
  cases hsplit1 : splitAtGroup Bracket.entity (cut line.body Bracket.all) with
  | none =>
    have henclosed := isEnclosed_of_readEntityPart hentity1
    rw [RelationshipParts.ofFields_of_split_none_first hsplit1, isEnclosed_nil] at henclosed
    cases henclosed
  | some split1 =>
    obtain ⟨before, field1, rest1⟩ := split1
    cases hsplit2 : splitAtGroup Bracket.entity rest1 with
    | none =>
      have henclosed := isEnclosed_of_readEntityPart hentity2
      rw [RelationshipParts.ofFields_of_split_none hsplit1 hsplit2, isEnclosed_nil] at henclosed
      cases henclosed
    | some split2 =>
      obtain ⟨between, field2, rest2⟩ := split2
      obtain ⟨hgap, hpart1, hpart, hpart2, rest3, hverbTakes, behind, htakes, hgapAfter⟩ :=
        RelationshipParts.ofFields_of_split hsplit1 hsplit2
      rw [hbefore] at hgap
      rw [hpart1] at hentity1
      rw [hpart] at hcardinality
      rw [hpart2] at hentity2
      rw [hverbGap] at hverbTakes
      rw [hoptionGap] at htakes
      obtain ⟨hfields, -, -⟩ := splitAtGroup_eq_some_iff.mp hsplit1
      obtain ⟨rfl, -, -⟩ := splitAtGroup_eq_some_iff.mp hsplit2
      rw [hfields] at hbody
      have hrest1 : IsRemainder (between ++ field2 :: rest2) := hbody.of_append.tail
      have hrest2 : IsRemainder rest2 := hrest1.of_append.tail
      obtain ⟨blanks, o, hflatten3, hblanks, ho⟩ :=
        htakes.exists_optionText (hverbTakes.isRemainder hrest2) hoptions (hgapAfter.symm.trans hafter)
      obtain ⟨blanks3, v, hflatten2, hblanks3, hv⟩ :=
        hverbTakes.exists_verbText hrest2 hverb hflatten3 hblanks
      obtain ⟨token, htoken, hcardinality⟩ := CardinalityToken.exists_token_of_readCardinality hcardinality
      obtain ⟨blanks1, blanks2, hbetween, hblanks1, hblanks2⟩ :=
        Text.exists_stripOf_append Text.isBlank between.flatten
      have htext : line.body = field1 ++ (blanks1 ++ (token.written ++ (blanks2 ++
          (field2 ++ (blanks3 ++ (v ++ o)))))) := by
        rw [joined, Text.strip_strip] at htoken
        change between.flatten = blanks1 ++ (Text.strip between.flatten ++ blanks2) at hbetween
        rw [← Field.flatten_cut line.body Bracket.all, hfields, List.flatten_append,
          flatten_eq_nil_of_joined hfields hgap.symm, List.nil_append, List.flatten_cons,
          List.flatten_append, List.flatten_cons, hbetween, htoken, hflatten2]
        simp only [List.append_assoc]
      rw [htext]
      exact .intro (hbody.of_append.isNameGroup hentity1) hblanks1 hcardinality hblanks2
        (hrest1.of_append.isNameGroup hentity2) hblanks3 hv ho hallowed

/-! ## From the grammar to the readers -/

theorem cut_append_of_isClosedGroup (h : IsClosedGroup kind part) (t : Text) :
    cut (part ++ t) Bracket.all = part :: cut t Bracket.all := by
  obtain ⟨inner, rfl, hinner⟩ := Field.isClosedGroup_iff.mp h
  exact Field.cut_group (Field.opened?_left kind) hinner t

/-- What hides the opening brackets is one field, if it is there. -/
theorem cut_of_hides (hfree : Hides (opens Bracket.all) free) :
    cut free Bracket.all = nonEmpty [free] := by
  by_cases hne : free = []
  · rw [hne]
    rfl
  · rw [Field.cut_free hfree hne, nonEmpty_cons hne]
    rfl

theorem cut_append_of_hides (hfree : Hides (opens Bracket.all) free) (h : IsClosedGroup kind part)
    (t : Text) :
    cut (free ++ (part ++ t)) Bracket.all = nonEmpty [free] ++ part :: cut t Bracket.all := by
  by_cases hne : free = []
  · rw [hne]
    exact cut_append_of_isClosedGroup h t
  · obtain ⟨inner, rfl, hinner⟩ := Field.isClosedGroup_iff.mp h
    rw [Field.cut_free_group hfree hne (Field.opened?_left kind) hinner, nonEmpty_cons hne]
    rfl

theorem not_opensWith_of_mem_nonEmpty (hfree : Hides (opens Bracket.all) free)
    (hfield : field ∈ nonEmpty [free]) : opensWith field kinds = false := by
  obtain ⟨hmem, hne⟩ := List.mem_filter.mp hfield
  obtain rfl := List.mem_singleton.mp hmem
  exact (not_opensWith_of_isFree ⟨by simpa using hne, hfree.find_eq⟩ kinds).1

theorem joined_nonEmpty (free : Text) : joined (nonEmpty [free]) = Text.strip free := by
  rw [joined, nonEmpty, List.flatten_filter_not_isEmpty, List.flatten_singleton]

/-- The group that is looked for is found behind a text that hides opening brackets. -/
theorem splitAtGroup_of_hides (hfree : Hides (opens Bracket.all) free) (h : IsClosedGroup kind part)
    (hkind : kind ∈ kinds) (rest : List Text) :
    splitAtGroup kinds (nonEmpty [free] ++ part :: rest) = some (nonEmpty [free], part, rest) :=
  splitAtGroup_eq_some_iff.mpr ⟨rfl, opensWith_of_isClosedGroup h hkind,
    fun _ hf => not_opensWith_of_mem_nonEmpty hfree hf⟩

theorem TakesOptional.eq_of_none (h : TakesOptional kind fields gap part rest)
    (hnone : splitAtGroup [kind] fields = none) : gap = [] ∧ part = [] ∧ rest = fields := by
  cases h with
  | absent => exact ⟨rfl, rfl, rfl⟩
  | present hsplit =>
    rw [hnone] at hsplit
    cases hsplit

theorem TakesOptional.eq_of_some (h : TakesOptional kind fields gap part rest)
    (hsome : splitAtGroup [kind] fields = some (before, field, behind)) :
    gap = joined before ∧ part = Text.strip field ∧ rest = behind := by
  cases h with
  | absent hsplit =>
    rw [hsome] at hsplit
    cases hsplit
  | present hsplit =>
    rw [hsome] at hsplit
    cases hsplit
    exact ⟨rfl, rfl, rfl⟩

/-- Behind a gap, a closed group that may be left out is taken. -/
theorem TakesOptional.eq_of_isClosedGroup (hblanks : IsGap blanks) (hclosed : IsClosedGroup kind t)
    {s : Text} (h : TakesOptional kind (cut (blanks ++ (t ++ s)) Bracket.all) gap part rest) :
    gap = [] ∧ part = t ∧ rest = cut s Bracket.all := by
  have hhides : Hides (opens Bracket.all) blanks := hides_opens_blanks hblanks
  rw [cut_append_of_hides hhides hclosed] at h
  obtain ⟨hgap, hpart, hrest⟩ := h.eq_of_some
    (splitAtGroup_of_hides hhides hclosed (List.mem_singleton_self kind) _)
  rw [joined_nonEmpty, Text.strip, Text.stripOf_eq_nil_iff.mpr hblanks] at hgap
  rw [strip_of_isClosedGroup hclosed] at hpart
  exact ⟨hgap, hpart, hrest⟩

/-- Where there is at most a closed group of another kind behind the gap, nothing is taken. -/
theorem TakesOptional.eq_of_absent (hblanks : IsGap blanks)
    (hother : t = [] ∨ ∃ other, other ≠ kind ∧ IsClosedGroup other t)
    (h : TakesOptional kind (cut (blanks ++ t) Bracket.all) gap part rest) :
    gap = [] ∧ part = [] ∧ rest = cut (blanks ++ t) Bracket.all := by
  refine h.eq_of_none (splitAtGroup_eq_none_iff.mpr ?_)
  have hhides : Hides (opens Bracket.all) blanks := hides_opens_blanks hblanks
  intro f hf
  rcases hother with rfl | ⟨other, hne, hclosed⟩
  · rw [List.append_nil, cut_of_hides hhides] at hf
    exact not_opensWith_of_mem_nonEmpty hhides hf
  · have hcut := cut_append_of_hides hhides hclosed []
    rw [List.append_nil] at hcut
    rw [hcut, Field.cut_nil, List.mem_append, List.mem_singleton] at hf
    rcases hf with hf | rfl
    · exact not_opensWith_of_mem_nonEmpty hhides hf
    · exact not_opensWith_of_not_mem (mt List.mem_singleton.mp hne)
        (opensWith_of_isClosedGroup hclosed (List.mem_singleton_self _))

theorem OptionText.eq_nil_or_isClosedGroup (h : OptionText allowed line t m) :
    t = [] ∨ IsClosedGroup .curly t := by
  cases h with
  | absent => exact .inl rfl
  | present hclosed _ => exact .inr hclosed

/-- The end of a line that the grammar derives is read as what the grammar says. -/
theorem OptionText.read (ho : OptionText allowed line t m) (hblanks : IsGap blanks)
    (h : TakesOptional .curly (cut (blanks ++ t) Bracket.all) gap part behind) :
    gap = [] ∧ (readOptionPart part allowed line).result = .ok m ∧ joined behind = [] := by
  cases ho with
  | absent =>
    obtain ⟨rfl, rfl, rfl⟩ := h.eq_of_absent hblanks (.inl rfl)
    refine ⟨rfl, readOptionPart_eq_ok.mpr (.inl ⟨rfl, rfl⟩), ?_⟩
    rw [List.append_nil, cut_of_hides (hides_opens_blanks hblanks), joined_nonEmpty]
    exact Text.stripOf_eq_nil_iff.mpr hblanks
  | present hclosed hread =>
    rw [← List.append_nil t] at h
    obtain ⟨rfl, rfl, rfl⟩ := h.eq_of_isClosedGroup hblanks hclosed
    refine ⟨rfl, readOptionPart_eq_ok.mpr (.inr ?_), rfl⟩
    rw [readOptions_strip]
    exact ⟨ne_nil_of_isClosedGroup hclosed, encloses_of_isClosedGroup hclosed, hread⟩

/-- In front of such an end, a verb phrase is read as what the grammar says, and the end is left. -/
theorem VerbText.read {v o : Text} (hv : VerbText v verb) (ho : OptionText allowed line o m)
    (hblanks : IsGap blanks)
    (h : TakesOptional .angle (cut (blanks ++ (v ++ o)) Bracket.all) gap part rest) :
    gap = [] ∧ readVerbPart part = .ok verb ∧
      ∃ blanks', IsGap blanks' ∧ rest = cut (blanks' ++ o) Bracket.all := by
  cases hv with
  | absent =>
    have hother := ho.eq_nil_or_isClosedGroup.imp_right fun hclosed =>
      (⟨.curly, by decide, hclosed⟩ : ∃ other, other ≠ .angle ∧ IsClosedGroup other o)
    obtain ⟨rfl, rfl, rfl⟩ := TakesOptional.eq_of_absent hblanks hother h
    exact ⟨rfl, rfl, blanks, hblanks, rfl⟩
  | @present t behind _ hclosed hread hbehind =>
    rw [List.append_assoc] at h
    obtain ⟨rfl, rfl, rfl⟩ := h.eq_of_isClosedGroup hblanks hclosed
    refine ⟨rfl, readVerbPart_eq_ok.mpr (.inr ?_), behind, hbehind, rfl⟩
    rw [readVerbPhrase_strip]
    exact ⟨ne_nil_of_isClosedGroup hclosed, encloses_of_isClosedGroup hclosed, hread⟩

theorem readEntityPart_of_isNameGroup {role : Part} (h : IsNameGroup t name dependency) :
    readEntityPart (Text.strip t) role = .ok (name, dependency) := by
  obtain ⟨kind, -, hclosed⟩ := h.isClosedGroup
  rw [strip_of_isClosedGroup hclosed, readEntityPart_eq_ok_iff_isNameGroup ⟨kind, hclosed⟩]
  exact h

theorem readEntityLine_of_entityText {read : EntityLine} (h : EntityText line line.body read) :
    (readEntityLine line).result = .ok read := by
  rw [readEntityLine_eq_ok, line.entityParts_eq]
  generalize line.body = body at h
  cases h with
  | @intro g blanks o _ hname hblanks hoptions =>
    obtain ⟨kind, hkind, hclosed⟩ := hname.isClosedGroup
    rw [cut_append_of_isClosedGroup hclosed]
    -- the gap in front of the name is the empty text, which makes no field
    have hsplit := splitAtGroup_of_hides Quoting.hides_nil hclosed hkind
      (cut (blanks ++ o) Bracket.all)
    obtain ⟨hgap, hpart, behind, htakes, hgapAfter⟩ := EntityParts.ofFields_of_split hsplit
    obtain ⟨hbetween, hread, hbehind⟩ := hoptions.read hblanks htakes
    exact ⟨hgap, (congrArg (readEntityPart · _) hpart).trans (readEntityPart_of_isNameGroup hname),
      hbetween, hread, hgapAfter.trans hbehind⟩

/-- A token with blanks around it is read. -/
theorem CardinalityToken.readCardinality_strip (token : CardinalityToken) {blanks1 blanks2 : Text}
    (hblanks1 : IsGap blanks1) (hblanks2 : IsGap blanks2) :
    readCardinality (Text.strip (blanks1 ++ (token.written ++ blanks2))) =
      .ok token.toCardinality := by
  have hstrip : Text.strip (blanks1 ++ (token.written ++ blanks2)) = Text.strip token.written :=
    (Text.stripOf_pad_left hblanks1).trans (Text.stripOf_append hblanks2)
  rw [hstrip, readCardinality, Text.strip_strip, ← readCardinality, token.readCardinality_written]

theorem readRelationshipLine_of_relationshipText {read : RelationshipLine}
    (h : RelationshipText line line.body read) : (readRelationshipLine line).result = .ok read := by
  rw [readRelationshipLine_eq_ok, line.relationshipParts_eq]
  generalize line.body = body at h
  cases h with
  | @intro g1 blanks1 blanks2 g2 blanks3 v o token _ hname1 hblanks1 htoken hblanks2 hname2 hblanks3
      hverb hoptions hallowed =>
    obtain ⟨kind1, hkind1, hclosed1⟩ := hname1.isClosedGroup
    obtain ⟨kind2, hkind2, hclosed2⟩ := hname2.isClosedGroup
    have hbetween : Hides (opens Bracket.all) (blanks1 ++ (token.written ++ blanks2)) :=
      (hides_opens_blanks hblanks1).append ((token.hides_written rfl).append (hides_opens_blanks hblanks2))
    have hcut : cut (g1 ++ (blanks1 ++ (token.written ++ (blanks2 ++ (g2 ++ (blanks3 ++ (v ++ o)))))))
          Bracket.all =
        g1 :: (nonEmpty [blanks1 ++ (token.written ++ blanks2)] ++
          g2 :: cut (blanks3 ++ (v ++ o)) Bracket.all) := by
      rw [cut_append_of_isClosedGroup hclosed1, ← cut_append_of_hides hbetween hclosed2]
      simp only [List.append_assoc]
    rw [hcut]
    have hsplit1 := splitAtGroup_of_hides Quoting.hides_nil hclosed1 hkind1
      (nonEmpty [blanks1 ++ (token.written ++ blanks2)] ++
        g2 :: cut (blanks3 ++ (v ++ o)) Bracket.all)
    have hsplit2 := splitAtGroup_of_hides hbetween hclosed2 hkind2
      (cut (blanks3 ++ (v ++ o)) Bracket.all)
    obtain ⟨hgap, hpart1, hpart, hpart2, rest3, hverbTakes, behind, htakes, hgapAfter⟩ :=
      RelationshipParts.ofFields_of_split hsplit1 hsplit2
    obtain ⟨hverbGap, hverbRead, blanks4, hblanks4, rfl⟩ := hverb.read hoptions hblanks3 hverbTakes
    obtain ⟨hoptionGap, hoptionRead, hbehind⟩ := hoptions.read hblanks4 htakes
    rw [joined_nonEmpty] at hpart
    refine ⟨hgap, ?_, ?_, ?_, hverbGap, hverbRead, hoptionGap, hoptionRead, hgapAfter.trans hbehind,
      hallowed⟩
    · exact (congrArg (readEntityPart · _) hpart1).trans (readEntityPart_of_isNameGroup hname1)
    · rw [htoken, ← token.readCardinality_strip hblanks1 hblanks2]
      exact congrArg readCardinality hpart
    · exact (congrArg (readEntityPart · _) hpart2).trans (readEntityPart_of_isNameGroup hname2)

/-- If the double quotes of its body are in pairs, a line is read as naming an entity exactly if the
grammar derives its body as such, and as a relationship likewise; and what is read is what the
derivation says, which accounts for the whole body. -/
theorem read_iff_grammar (hpaired : line.body.count Quoting.quote % 2 = 0) :
    (∀ read, (readEntityLine line).result = .ok read ↔ EntityText line line.body read) ∧
      ∀ read, (readRelationshipLine line).result = .ok read ↔
        RelationshipText line line.body read :=
  ⟨fun _ => ⟨entityText_of_readEntityLine hpaired, readEntityLine_of_entityText⟩,
    fun _ => ⟨relationshipText_of_readRelationshipLine hpaired,
      readRelationshipLine_of_relationshipText⟩⟩

/-- A relationship with blanks in its gaps, brackets between double quotes, and a comment. -/
def markedLine : Line :=
  ⟨3, "  [Track] 1--*\t(\"Al)bum\") < on- >  \x7bn2: \"[5]\"\x7d # sung".toList⟩

/-- The grammar derives the body of a relationship, and it does not derive a name with a word behind it
as the body of a line that names an entity. -/
theorem read_iff_grammar_at_markedLine :
    markedLine.body.count Quoting.quote % 2 = 0 ∧
      RelationshipText markedLine markedLine.body
        ⟨"Track".toList, .independent, "Al)bum".toList, .dependent,
          ⟨⟨.one, .mandatory⟩, ⟨.many, .optional⟩⟩, ⟨"on".toList, .firstToSecond⟩,
          ⟨[(.n1, .text []), (.n2, .text "[5]".toList), (.verbReverse, .flag false)]⟩⟩ ∧
      ∀ read, ¬ EntityText strayLine strayLine.body read := by
  have hpaired : markedLine.body.count Quoting.quote % 2 = 0 := by decide +kernel
  refine ⟨hpaired, ((read_iff_grammar hpaired).2 _).mp (by decide +kernel), fun read h => ?_⟩
  have hread := ((read_iff_grammar (by decide +kernel)).1 read).mpr h
  have hfault : (readEntityLine strayLine).result.toOption = none := by decide +kernel
  rw [hread] at hfault
  cases hfault

end ErDiagram

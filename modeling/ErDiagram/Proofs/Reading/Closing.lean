import ErDiagram.Proofs.Notation.Body
import ErDiagram.Proofs.Reading.Agreement
import ErDiagram.Proofs.Reading.Run

set_option autoImplicit false

/-!
# When the brackets of an accepted line are closed

A group that is never closed takes the rest of a line, and the readers only look at its first and its
last character.  So they accept it if the line happens to end in the right bracket, between double
quotes.  Every group of an accepted line is closed exactly if the double quotes of the line are
balanced, and then the line does not end in an open group.
-/

namespace ErDiagram

open Quoting (Hides after findFrom)
open ErDiagram.Field (Row IsFree IsClosed IsUnclosed opens group)

/-! ## Closed parts -/

/-- The part that a field holds behind a text ends in a right bracket of its kind, at an unquoted
position. -/
def ClosesBehind (front field : Text) : Prop :=
  ∃ kind inner, Text.strip field = group kind inner ∧ after false (front ++ kind.left :: inner) = false

/-- Every group among the fields of the line is closed. -/
def Line.ClosesGroups (line : Line) : Prop :=
  ∀ before field rest, lineFields line.text = before ++ field :: rest →
    opensWith field Bracket.all = true → ClosesBehind before.flatten field

/-- The last field of the line is a group without a right bracket of its kind. -/
def Line.EndsOpen (line : Line) : Prop :=
  ∃ before field, lineFields line.text = before ++ [field] ∧ IsUnclosed Bracket.all field

/-- What brackets that are really closed come to, on a line with these bracketed parts. -/
structure Line.ClosesIfBalanced (line : Line) (parts : List Text) : Prop where
  groups_eq : (groupsOf (lineFields line.text)).map Text.strip = parts
  closes_iff : line.ClosesGroups ↔ Quoting.isBalanced line.code = true
  open_iff : line.EndsOpen ↔ Quoting.isBalanced line.code = false

/-! ## Double quotes and brackets -/

/-- What a bracket encloses stands between two brackets, because no bracket is both of them. -/
theorem exists_group_of_encloses {kind : Bracket} {t : Text} (h : kind.encloses t = true) :
    ∃ inner, t = group kind inner := by
  rw [Bracket.encloses, Bool.and_eq_true, Text.startsWith, Text.endsWith, beq_iff_eq,
    beq_iff_eq] at h
  obtain ⟨hfirst, hlast⟩ := h
  obtain ⟨rest, rfl⟩ := List.head?_eq_some_iff.mp hfirst
  rcases List.eq_nil_or_concat rest with rfl | ⟨inner, last, rfl⟩
  · cases kind <;> cases hlast
  · rw [List.concat_eq_append, ← List.cons_append, List.getLast?_concat, Option.some.injEq] at hlast
    exact ⟨inner, by rw [List.concat_eq_append, hlast, group, List.cons_append]⟩

theorem exists_group_of_isEnclosed {t : Text} {kinds : List Bracket} (h : isEnclosed t kinds = true) :
    ∃ kind ∈ kinds, ∃ inner, t = group kind inner := by
  obtain ⟨kind, hkind, hencloses⟩ := List.any_eq_true.mp h
  obtain ⟨inner, ht⟩ := exists_group_of_encloses hencloses
  exact ⟨kind, hkind, inner, ht⟩

variable {field : Text}

/-- Behind an unquoted position, an enclosed part is closed exactly if its double quotes are
balanced. -/
theorem closesBehind_iff {front : Text} (hfront : after false front = false)
    (henclosed : isEnclosed (Text.strip field) Bracket.all = true) :
    ClosesBehind front field ↔ after false field = false := by
  have hinside : ∀ {kind : Bracket} {inner : Text}, Text.strip field = group kind inner →
      after false (front ++ kind.left :: inner) = after false field := by
    intro kind inner hstrip
    rw [Quoting.after_append, hfront, Field.after_left, ← Field.after_group kind, ← hstrip,
      Quoting.after_strip]
  constructor
  · rintro ⟨kind, inner, hstrip, hafter⟩
    rw [← hinside hstrip, hafter]
  · intro hafter
    obtain ⟨kind, -, inner, hstrip⟩ := exists_group_of_isEnclosed henclosed
    exact ⟨kind, inner, hstrip, (hinside hstrip).trans hafter⟩

/-- A part that is enclosed although its group is never closed ends in a quoted bracket. -/
theorem after_of_isUnclosed (hopen : IsUnclosed Bracket.all field)
    (henclosed : isEnclosed (Text.strip field) Bracket.all = true) : after false field = true := by
  obtain ⟨kind, -, t, rfl, hnone⟩ := hopen
  obtain ⟨other, -, inner, hstrip⟩ := exists_group_of_isEnclosed henclosed
  obtain ⟨front, back, hfield, hfront, -⟩ :=
    Text.exists_stripOf_append Text.isBlank (kind.left :: t)
  -- nothing is stripped off in front of the bracket
  obtain rfl : front = [] := by
    cases front with
    | nil => rfl
    | cons c cs =>
      have hc : c = kind.left := (List.cons.inj hfield).1.symm
      have hblank := hfront c List.mem_cons_self
      rw [hc, (Field.isBlank_bracket kind).1] at hblank
      cases hblank
  change kind.left :: t = Text.strip (kind.left :: t) ++ back at hfield
  rw [← Quoting.after_strip, hstrip, Field.after_group]
  rw [hstrip, group, List.cons_append, List.cons_append, List.cons.injEq, List.append_assoc] at hfield
  obtain ⟨hleft, rfl⟩ := hfield
  obtain rfl := Field.left_injective hleft
  rw [Quoting.findFrom_append, Option.or_eq_none_iff, Option.map_eq_none_iff, List.singleton_append,
    findFrom] at hnone
  by_contra hunquoted
  rw [Bool.not_eq_true] at hunquoted
  simp [hunquoted] at hnone

/-! ## Accepted lines -/

theorem isEnclosed_all {t : Text} {kinds : List Bracket} (h : isEnclosed t kinds = true) :
    isEnclosed t Bracket.all = true := by
  obtain ⟨kind, -, hencloses⟩ := List.any_eq_true.mp h
  exact List.any_eq_true.mpr ⟨kind, kind.mem_all, hencloses⟩

theorem isEnclosed_of_optional {part : Text} {kind : Bracket}
    (h : part = [] ∨ kind.encloses part = true) (hne : (!part.isEmpty) = true) :
    isEnclosed part Bracket.all = true := by
  rcases h with rfl | hencloses
  · cases hne
  · exact List.any_eq_true.mpr ⟨kind, kind.mem_all, hencloses⟩

namespace Line

variable {line : Line} {parts : List Text} {before rest : List Text}

/-- The quotes of the code are those of its last field. -/
theorem after_code (hfields : lineFields line.text = before ++ [field]) :
    after false line.code = after false field := by
  have hrow := line.row_lineFields
  rw [hfields] at hrow
  rw [← Field.flatten_cut line.code Bracket.all, ← lineFields_eq, hfields, List.flatten_append,
    List.flatten_singleton, Quoting.after_append, hrow.after_flatten]

/-- On a line that holds only enclosed parts, the groups are closed exactly if the double quotes are
balanced, and otherwise the last of them is open. -/
theorem HoldsOnly.closesIfBalanced (h : line.HoldsOnly parts)
    (henclosed : ∀ part ∈ parts, isEnclosed part Bracket.all = true) :
    line.ClosesIfBalanced parts := by
  have hrow := line.row_lineFields
  have hgroup : ∀ f ∈ lineFields line.text, opensWith f Bracket.all = true →
      isEnclosed (Text.strip f) Bracket.all = true := by
    intro f hf hopens
    refine henclosed _ ?_
    rw [← h.groups_eq]
    exact List.mem_map_of_mem (List.mem_filter.mpr ⟨hf, hopens⟩)
  have hplain : ∀ f ∈ lineFields line.text, opensWith f Bracket.all = false →
      after false f = false := fun f hf hopens =>
    Quoting.after_of_not_mem (h.plain f hf hopens) false
  refine ⟨h.groups_eq, ?_, ?_⟩
  · rw [isBalanced_iff]
    constructor
    · intro hcloses
      rcases List.eq_nil_or_concat (lineFields line.text) with hnil | ⟨before, last, hlast⟩
      · rw [← Field.flatten_cut line.code Bracket.all, ← lineFields_eq, hnil]
        rfl
      · rw [List.concat_eq_append] at hlast
        have hmem : last ∈ lineFields line.text := by simp [hlast]
        rw [after_code hlast]
        cases hopens : opensWith last Bracket.all with
        | false => exact hplain last hmem hopens
        | true =>
          have hfront := (hlast ▸ hrow).after_flatten
          exact (closesBehind_iff hfront (hgroup last hmem hopens)).mp
            (hcloses before last [] hlast hopens)
    · intro hbalanced before field rest hfields hopens
      have hmem : field ∈ lineFields line.text := by simp [hfields]
      rw [hfields] at hrow
      refine (closesBehind_iff hrow.after_flatten (hgroup field hmem hopens)).mpr ?_
      rcases hrow.of_append.head_cases with hclosed | ⟨-, hafter | rfl⟩ | ⟨-, rfl⟩
      · exact hclosed.after_eq
      · exact hafter
      · rw [← after_code hfields, hbalanced]
      · rw [← after_code hfields, hbalanced]
  · rw [Quoting.isBalanced, Bool.not_eq_false']
    constructor
    · rintro ⟨before, field, hfields, hopen⟩
      have hopens : opensWith field Bracket.all = true := by
        obtain ⟨kind, hkind, t, rfl, -⟩ := hopen
        exact opensWith_eq_true_iff.mpr ⟨kind, hkind, t, rfl⟩
      rw [after_code hfields]
      exact after_of_isUnclosed hopen (hgroup field (by simp [hfields]) hopens)
    · intro hodd
      rcases List.eq_nil_or_concat (lineFields line.text) with hnil | ⟨before, last, hlast⟩
      · rw [← Field.flatten_cut line.code Bracket.all, ← lineFields_eq, hnil] at hodd
        cases hodd
      · rw [List.concat_eq_append] at hlast
        have hmem : last ∈ lineFields line.text := by simp [hlast]
        rw [after_code hlast] at hodd
        rcases hrow.isFree_or_isClosed_or_isUnclosed hmem with hfree | hclosed | hopen
        · rw [hplain last hmem (not_opensWith_of_isFree hfree _).1] at hodd
          cases hodd
        · rw [hclosed.after_eq] at hodd
          cases hodd
        · exact ⟨before, last, hlast, hopen⟩

theorem closesIfBalanced_of_readEntityLine {read : EntityLine}
    (h : (readEntityLine line).result = .ok read) :
    line.ClosesIfBalanced (EntityParts.ofText line.text).bracketed := by
  refine (holdsOnly_of_readEntityLine h).closesIfBalanced ?_
  obtain ⟨-, hentity, -, hoptions, -⟩ := readEntityLine_eq_ok.mp h
  intro part hpart
  obtain ⟨hmem, hne⟩ := List.mem_filter.mp hpart
  simp only [List.mem_cons, List.not_mem_nil, or_false] at hmem
  rcases hmem with rfl | rfl
  · exact isEnclosed_all (isEnclosed_of_readEntityPart hentity)
  · exact isEnclosed_of_optional (options_of_readOptionPart hoptions) hne

theorem closesIfBalanced_of_readRelationshipLine {read : RelationshipLine}
    (h : (readRelationshipLine line).result = .ok read) :
    line.ClosesIfBalanced (RelationshipParts.ofText line.text).bracketed := by
  refine (holdsOnly_of_readRelationshipLine h).closesIfBalanced ?_
  obtain ⟨-, hentity1, -, hentity2, -, hverb, -, hoptions, -⟩ := readRelationshipLine_eq_ok.mp h
  intro part hpart
  obtain ⟨hmem, hne⟩ := List.mem_filter.mp hpart
  simp only [List.mem_cons, List.not_mem_nil, or_false] at hmem
  rcases hmem with rfl | rfl | rfl | rfl
  · exact isEnclosed_all (isEnclosed_of_readEntityPart hentity1)
  · exact isEnclosed_all (isEnclosed_of_readEntityPart hentity2)
  · exact isEnclosed_of_optional (verb_of_readVerbPart hverb) hne
  · exact isEnclosed_of_optional (options_of_readOptionPart hoptions) hne

end Line

/-- The lines of an accepted document that name an entity or relate two are accepted by their readers. -/
theorem AcceptedAs.reads_line {ids : IdSource} {lines : List Line} {d : Diagram} {g : Grouping}
    {options : OptionMap} {named : EntityStage} {built : RelationshipStage}
    (h : AcceptedAs ids lines d g options named built) {line : Line} (hline : line ∈ lines) :
    (line.kind = .entityName → ∃ read, (readEntityLine line).result = .ok read) ∧
      (line.kind = .relationship → ∃ read, (readRelationshipLine line).result = .ok read) := by
  constructor
  · intro hkind
    have hhead : line ∈ g.blocks.map (·.head) := by
      rw [h.sorts.heads_eq]
      exact mem_linesOfKind.mpr ⟨hline, hkind⟩
    obtain ⟨b, hb, rfl⟩ := List.mem_map.mp hhead
    obtain ⟨e, -, hread⟩ := exists_of_mem_left h.namedFrom.read hb
    exact ⟨_, (Block.read_eq_ok.mp hread).2.2.2⟩
  · intro hkind
    have hmem : line ∈ g.relationships := by
      rw [h.sorts.relationships_eq]
      exact mem_linesOfKind.mpr ⟨hline, hkind⟩
    obtain ⟨r, -, read, hread, -⟩ := exists_of_mem_left h.builtFrom.read hmem
    exact ⟨read, hread⟩

/-- On a line that the reader of entity lines or of relationships accepts, and on every such line of
an accepted document, the bracketed parts are closed exactly if the double quotes of the line without
its comment are balanced, and otherwise the line ends in an open group. -/
theorem closed_iff_balanced_of_accepted (line : Line) :
    (∀ read, (readEntityLine line).result = .ok read →
      line.ClosesIfBalanced (EntityParts.ofText line.text).bracketed) ∧
    (∀ read, (readRelationshipLine line).result = .ok read →
      line.ClosesIfBalanced (RelationshipParts.ofText line.text).bracketed) ∧
    ∀ (c : Catalog) (ids : IdSource) (lines : List (Option Text)) (d : Diagram),
      (readLines c ids lines).result = .ok (.ok d) →
      line ∈ Line.ofTexts (lines.map fun l => l.getD []) →
      (line.kind = .entityName →
        line.ClosesIfBalanced (EntityParts.ofText line.text).bracketed) ∧
      (line.kind = .relationship →
        line.ClosesIfBalanced (RelationshipParts.ofText line.text).bracketed) := by
  refine ⟨fun _ => Line.closesIfBalanced_of_readEntityLine,
    fun _ => Line.closesIfBalanced_of_readRelationshipLine, ?_⟩
  intro c ids lines d h hline
  obtain ⟨g, options, named, built, haccepted⟩ := readDocument_eq_diagram_iff.mp h
  obtain ⟨hentity, hrelationship⟩ := haccepted.reads_line hline
  constructor
  · intro hkind
    obtain ⟨read, hread⟩ := hentity hkind
    exact Line.closesIfBalanced_of_readEntityLine hread
  · intro hkind
    obtain ⟨read, hread⟩ := hrelationship hkind
    exact Line.closesIfBalanced_of_readRelationshipLine hread

/-- A relationship whose verb phrase holds a right bracket between double quotes. -/
def closedLine : Line := ⟨2, "[Track]1--*(Album) <\"on>\">  # sung".toList⟩

/-- An entity name whose only right bracket stands behind an odd double quote. -/
def openLine : Line := ⟨1, "[a\"]".toList⟩

theorem closed_iff_balanced_at_closedLine :
    (closedLine.ClosesGroups ∧ ¬ closedLine.EndsOpen) ∧ openLine.EndsOpen := by
  constructor
  · have hread : (readRelationshipLine closedLine).result =
        .ok ⟨"Track".toList, .independent, "Album".toList, .dependent,
          ⟨⟨.one, .mandatory⟩, ⟨.many, .optional⟩⟩, ⟨"on>".toList, .unspecified⟩,
          OptionMap.ofNames OptionName.ofRelationship⟩ := by
      decide +kernel
    obtain ⟨-, hcloses, hopen⟩ := (closed_iff_balanced_of_accepted closedLine).2.1 _ hread
    have hbalanced : Quoting.isBalanced closedLine.code = true := by decide +kernel
    refine ⟨hcloses.mpr hbalanced, fun h => ?_⟩
    rw [hopen.mp h] at hbalanced
    cases hbalanced
  · have haccepted : (readLines Catalog.english {} [some openLine.text]).result =
        .ok (.ok { entities := [{ id := "entity_1".toList, name := "a\"".toList }] }) := by
      decide +kernel
    have hline : openLine ∈ Line.ofTexts ([some openLine.text].map fun l => l.getD []) := by
      decide +kernel
    obtain ⟨hentity, -⟩ :=
      (closed_iff_balanced_of_accepted openLine).2.2 _ _ _ _ haccepted hline
    exact (hentity (by decide +kernel)).open_iff.mpr (by decide +kernel)

/-- An open bracket can go unnoticed: a document of one line is accepted, and its only group is never
closed. -/
theorem openLine_accepted :
    (readEntityLine openLine).result =
        .ok ⟨"a\"".toList, .independent, OptionMap.ofNames OptionName.ofEntity⟩ ∧
      (readLines Catalog.english {} [some openLine.text]).result =
        .ok (.ok { entities := [{ id := "entity_1".toList, name := "a\"".toList }] }) ∧
      openLine.EndsOpen ∧ ¬ openLine.ClosesGroups := by
  have hread : (readEntityLine openLine).result =
      .ok ⟨"a\"".toList, .independent, OptionMap.ofNames OptionName.ofEntity⟩ := by
    decide +kernel
  obtain ⟨-, hcloses, hopen⟩ := Line.closesIfBalanced_of_readEntityLine hread
  have hodd : Quoting.isBalanced openLine.code = false := by decide +kernel
  refine ⟨hread, by decide +kernel, hopen.mpr hodd, fun h => ?_⟩
  rw [hcloses.mp h] at hodd
  cases hodd

end ErDiagram

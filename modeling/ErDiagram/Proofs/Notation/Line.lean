import ErDiagram.Proofs.Notation.Group
import ErDiagram.Proofs.Notation.Position

set_option autoImplicit false

/-!
# The kind of a line by its fields

The kind of a line is told from its body, which has no blanks at its end, and the parts of a line are
found in the fields of its code, which may have some.  Blanks at the end of a text are a field of
their own or belong to the last one, so both see the same fields but for these blanks.  A line names
an entity or relates two of them exactly if its code opens with an entity bracket and one or two of
its fields are enclosed by entity brackets, blanks around them aside.
-/

namespace ErDiagram

open Quoting (Hides after findFrom)
open ErDiagram.Field (Row IsFree IsClosed IsUnclosed opens group)

variable {kinds : List Bracket} {field : Text} {fields : List Text}

/-! ## Blanks at the end -/

/-- The same fields but for blanks behind them, which lengthen the last one or are a field of their own. -/
inductive Field.Padded : List Text → List Text → Prop where
  | same (fields : List Text) : Padded fields fields
  | blank {pad : Text} (hpad : ∀ c ∈ pad, Text.isBlank c = true) : Padded [] [pad]
  | last {field pad : Text} (hne : field ≠ []) (hpad : ∀ c ∈ pad, Text.isBlank c = true) :
      Padded [field] [field ++ pad]
  | cons (field : Text) {fields fields' : List Text} (hrest : Padded fields fields') :
      Padded (field :: fields) (field :: fields')

/-- Blanks behind a text lengthen its last field or are a field of their own. -/
theorem Field.Row.padded (h : Row kinds fields) {pad : Text}
    (hpad : ∀ c ∈ pad, Text.isBlank c = true) :
    Padded fields (Field.cut (fields.flatten ++ pad) kinds) := by
  have hsearch : ∀ (p : Char → Bool) (t : Text), (∀ c, Text.isBlank c = true → p c = false) →
      findFrom p false t = none → findFrom p false (t ++ pad) = none := by
    intro p t hclass ht
    have hnone := Quoting.findFrom_eq_none_of_forall (fun c hc => hclass c (hpad c hc))
      (after false t)
    rw [Quoting.findFrom_append, ht, hnone]
    rfl
  induction h with
  | nil =>
    by_cases hne : pad = []
    · rw [hne]
      exact .same []
    · rw [List.flatten_nil, List.nil_append,
        Field.cut_eq_singleton (hides_opens_blanks hpad).find_eq hne]
      exact .blank hpad
  | @free t hne hfree =>
    have hall := hsearch (opens kinds) t (fun _ => not_opens_of_isBlank) hfree
    rw [List.flatten_singleton, Field.cut_eq_singleton hall (by simp [hne])]
    exact .last hne hpad
  | @unclosed kind t hkind hopen =>
    have hblank : ∀ c, Text.isBlank c = true → (c == kind.right) = false := by
      intro c hc
      refine beq_false_of_ne ?_
      rintro rfl
      simp [Field.isBlank_bracket] at hc
    rw [List.flatten_singleton, List.cons_append,
      Field.cut_unclosed hkind (hsearch (· == kind.right) t hblank hopen)]
    exact .last (List.cons_ne_nil kind.left t) hpad
  | @group kind inner rest hkind hinner _ ih =>
    rw [List.flatten_cons, List.append_assoc,
      Field.cut_group (Field.opened?_eq_some_iff.mpr ⟨hkind, rfl⟩) hinner]
    exact .cons _ ih
  | @freeGroup free t kind rest hne hfree hkind _ ih =>
    rw [List.flatten_cons, List.flatten_cons, List.append_assoc, List.append_assoc, List.cons_append,
      Field.cut_free_append hfree hne hkind]
    rw [List.flatten_cons, List.append_assoc, List.cons_append] at ih
    exact .cons _ ih

/-- Blanks behind the fields add blank ones at most, blanks around the fields aside. -/
theorem Field.Padded.map_strip {fields' : List Text} (h : Padded fields fields') :
    ∃ blanks, fields'.map Text.strip = fields.map Text.strip ++ blanks ∧ ∀ b ∈ blanks, b = [] := by
  induction h with
  | same fields => exact ⟨[], by simp, by simp⟩
  | @blank pad hpad =>
    have hblank : Text.strip pad = [] := Text.stripOf_eq_nil_iff.mpr hpad
    exact ⟨[[]], by simp [hblank], by simp⟩
  | @last field pad _ hpad =>
    have hstrip : Text.strip (field ++ pad) = Text.strip field := Text.stripOf_append hpad
    exact ⟨[], by simp [hstrip], by simp⟩
  | cons field _ ih =>
    obtain ⟨blanks, hblanks, hnil⟩ := ih
    exact ⟨blanks, by rw [List.map_cons, hblanks, List.map_cons, List.cons_append], hnil⟩

/-! ## The code of a line -/

/-- The text of a line without its comment. -/
def Line.code (line : Line) : Text := Quoting.removeComment (Text.strip line.text)

namespace Line

variable {line : Line}

theorem lineFields_eq (line : Line) : lineFields line.text = Field.cut line.code Bracket.all := rfl

theorem row_lineFields (line : Line) : Row Bracket.all (lineFields line.text) :=
  Field.row_cut line.code Bracket.all

/-- No blank stands at the beginning of the code. -/
theorem not_isBlank_of_code_eq_cons {c : Char} {cs : Text} (h : line.code = c :: cs) :
    Text.isBlank c = false := by
  obtain ⟨comment, hcomment⟩ := Quoting.isPrefix_removeComment (Text.strip line.text)
  change line.code ++ comment = Text.strip line.text at hcomment
  refine (Text.trimmed_stripOf Text.isBlank line.text).head c ?_
  change (Text.strip line.text).head? = some c
  rw [← hcomment, h]
  rfl

/-- The code is the body with blanks behind it. -/
theorem exists_code_eq_body_append (line : Line) :
    ∃ pad, line.code = line.body ++ pad ∧ ∀ c ∈ pad, Text.isBlank c = true := by
  have hleft : Text.stripLeftOf Text.isBlank line.code = line.code := by
    refine Text.stripLeftOf_eq_self ?_
    cases hcode : line.code with
    | nil => simp
    | cons c cs =>
      intro d hd
      obtain rfl := Option.some.inj hd
      exact not_isBlank_of_code_eq_cons hcode
  obtain ⟨pad, hpad, hblank⟩ := Text.exists_stripRightOf_append Text.isBlank line.code
  refine ⟨pad, ?_, hblank⟩
  have hbody : line.body = Text.stripRightOf Text.isBlank line.code := by
    change Text.stripRightOf Text.isBlank (Text.stripLeftOf Text.isBlank line.code) = _
    rw [hleft]
  rw [hbody]
  exact hpad

theorem opensWith_body (line : Line) (kinds : List Bracket) :
    opensWith line.body kinds = opensWith line.code kinds := by
  obtain ⟨pad, hcode, hblank⟩ := exists_code_eq_body_append line
  cases hbody : line.body with
  | cons c cs => rw [hcode, hbody, Field.opensWith_append (List.cons_ne_nil c cs)]
  | nil =>
    rw [hbody, List.nil_append] at hcode
    cases hpad : pad with
    | nil => rw [hcode, hpad]
    | cons c cs =>
      have hc := hblank c (hpad ▸ List.mem_cons_self)
      rw [not_isBlank_of_code_eq_cons (hcode.trans hpad)] at hc
      cases hc

/-- The fields of the body keep their place among entity groups when their blanks are taken off: only
the last one could have blanks at its end, and the body has none. -/
theorem isEnclosed_strip_of_mem_cut_body (hmem : field ∈ Field.cut line.body Bracket.all) :
    isEnclosed (Text.strip field) Bracket.entity = isEnclosed field Bracket.entity := by
  obtain ⟨before, rest, hfields⟩ := List.append_of_mem hmem
  have hrow := Field.row_cut line.body Bracket.all
  rw [hfields] at hrow
  rcases hrow.of_append.head_cases with hclosed | ⟨hfree, -⟩ | ⟨⟨kind, -, t, rfl, -⟩, hlast⟩
  · rw [strip_of_isClosed hclosed]
  · obtain ⟨hfield, hstrip⟩ := not_opensWith_of_isFree hfree Bracket.entity
    rw [Field.isEnclosed_of_not_opens hfield, Field.isEnclosed_of_not_opens hstrip]
  · have htext : line.body = before.flatten ++ kind.left :: t := by
      rw [← Field.flatten_cut line.body Bracket.all, hfields, hlast]
      simp
    have htrimmed : Text.Trimmed Text.isBlank (kind.left :: t) := by
      constructor
      · intro c hc
        obtain rfl := Option.some.inj hc
        exact (Field.isBlank_bracket kind).1
      · intro c hc
        refine (Text.trimmed_stripOf Text.isBlank line.code).last c ?_
        change line.body.getLast? = some c
        rw [htext, List.getLast?_append, hc]
        rfl
    rw [Text.strip, Text.stripOf_eq_self htrimmed]

/-- The entity groups of the body are those among the fields of the line. -/
theorem entityGroups_body (line : Line) :
    entityGroups line.body = entityCount (lineFields line.text) := by
  obtain ⟨pad, hcode, hblank⟩ := exists_code_eq_body_append line
  obtain ⟨blanks, hblanks, hnil⟩ :=
    ((Field.row_cut line.body Bracket.all).padded hblank).map_strip
  rw [Field.flatten_cut, ← hcode] at hblanks
  have hcount : ∀ fields : List Text, entityCount fields =
      (fields.map Text.strip).countP fun field => isEnclosed field Bracket.entity := by
    intro fields
    rw [List.countP_map]
    rfl
  have hadded : blanks.countP (fun field => isEnclosed field Bracket.entity) = 0 := by
    rw [List.countP_eq_zero]
    intro b hb
    simp [hnil b hb, isEnclosed_nil]
  calc entityGroups line.body
      = entityCount (Field.cut line.body Bracket.all) := by
        refine List.countP_congr fun field hfield => ?_
        rw [isEntityGroup_eq, isEnclosed_strip_of_mem_cut_body hfield]
    _ = entityCount (lineFields line.text) := by
        rw [hcount, hcount, lineFields_eq, hblanks, List.countP_append, hadded, Nat.add_zero]

/-- The kind of a line that opens with an entity bracket is told from its entity groups. -/
theorem kind_of_opensWith (h : opensWith line.code Bracket.entity = true) :
    line.kind = match entityCount (lineFields line.text) with
      | 1 => .entityName
      | 2 => .relationship
      | _ => .unknown := by
  have hbody : opensWith line.body Bracket.entity = true := by rw [opensWith_body, h]
  obtain ⟨kind, hkind, rest, hrest⟩ := opensWith_eq_true_iff.mp hbody
  have hcurly : isEnclosed line.body [.curly] = false := by
    by_contra hcurly
    rw [Bool.not_eq_false] at hcurly
    have hopens := not_opensWith_of_not_mem (by decide : Bracket.curly ∉ Bracket.entity)
      (opensWith_of_isEnclosed hcurly)
    rw [hbody] at hopens
    cases hopens
  have hstrip : (Text.strip line.text).isEmpty = false := by
    by_contra hempty
    rw [Bool.not_eq_false, List.isEmpty_iff] at hempty
    simp [Line.body, hempty, Quoting.removeComment, Quoting.index?, findFrom] at hrest
  have hne : line.body.isEmpty = false := by rw [hrest]; rfl
  rw [Line.kind, hstrip, hne, LineKind.ofBody, hcurly, hbody, entityGroups_body]
  rfl

theorem opensWith_of_kind (h : line.kind = .entityName ∨ line.kind = .relationship) :
    opensWith line.code Bracket.entity = true := by
  rw [← opensWith_body]
  by_contra hopens
  rw [Bool.not_eq_true] at hopens
  have hother : line.kind ≠ .entityName ∧ line.kind ≠ .relationship := by
    rw [Line.kind, LineKind.ofBody, hopens]
    split
    · exact ⟨nofun, nofun⟩
    · split
      · exact ⟨nofun, nofun⟩
      · split
        · exact ⟨nofun, nofun⟩
        · exact ⟨nofun, nofun⟩
  exact h.elim hother.1 hother.2

/-- A line names an entity exactly if its code opens with an entity bracket and has one entity group. -/
theorem kind_eq_entityName_iff : line.kind = .entityName ↔
    opensWith line.code Bracket.entity = true ∧ entityCount (lineFields line.text) = 1 := by
  constructor
  · intro h
    have hopens := opensWith_of_kind (.inl h)
    refine ⟨hopens, ?_⟩
    rw [kind_of_opensWith hopens] at h
    split at h
    · assumption
    · cases h
    · cases h
  · rintro ⟨hopens, hcount⟩
    rw [kind_of_opensWith hopens, hcount]
    rfl

/-- A line is a relationship exactly if its code opens with an entity bracket and has two entity
groups. -/
theorem kind_eq_relationship_iff : line.kind = .relationship ↔
    opensWith line.code Bracket.entity = true ∧ entityCount (lineFields line.text) = 2 := by
  constructor
  · intro h
    have hopens := opensWith_of_kind (.inr h)
    refine ⟨hopens, ?_⟩
    rw [kind_of_opensWith hopens] at h
    split at h
    · cases h
    · assumption
    · cases h
  · rintro ⟨hopens, hcount⟩
    rw [kind_of_opensWith hopens, hcount]
    rfl

end Line

end ErDiagram

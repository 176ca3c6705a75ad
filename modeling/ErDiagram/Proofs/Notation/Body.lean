import ErDiagram.Proofs.Notation.Line

set_option autoImplicit false

/-!
# What is read of a line is its body

Blanks around a line and a comment behind it leave no trace in its body, and nothing else of a line is
ever looked at: the parts of a line, and its kind if it has something to say, are functions of its
body.  The parts are cut from a text that may still have blanks behind it, which can only lengthen a
field or add a blank one, and so they are gone when the parts are taken out of their fields.
-/

namespace ErDiagram

open Quoting (Hides after findFrom)
open ErDiagram.Field (Padded)

/-! ## Comments -/

/-- A comment that a text opens goes on behind the text. -/
theorem removeComment_append_of_some {s : Text} {n : Nat}
    (h : Quoting.index? s Quoting.commentMark = some n) (t : Text) :
    Quoting.removeComment (s ++ t) = Quoting.removeComment s := by
  have hfound : Quoting.index? (s ++ t) Quoting.commentMark = some n := by
    rw [Quoting.index?, Quoting.findFrom_append, show findFrom _ false s = some n from h]
    rfl
  simp only [Quoting.removeComment, hfound, h]
  exact List.take_append_of_le_length (Nat.le_of_lt (Quoting.findFrom_lt_length h))

/-- Behind a text that hides comment marks, a comment is what it is on its own. -/
theorem removeComment_append_of_hides {s : Text} (h : Hides (· == Quoting.commentMark) s) (t : Text) :
    Quoting.removeComment (s ++ t) = s ++ Quoting.removeComment t := by
  have hfind : Quoting.index? (s ++ t) Quoting.commentMark =
      (Quoting.index? t Quoting.commentMark).map (· + s.length) := by
    rw [Quoting.index?, Quoting.findFrom_append, h.find_eq, h.after_eq, Option.none_or]
    rfl
  rw [Quoting.removeComment, hfind, Quoting.removeComment]
  cases Quoting.index? t Quoting.commentMark with
  | none => rfl
  | some n =>
    change (s ++ t).take (n + s.length) = s ++ t.take n
    rw [Nat.add_comm, List.take_length_add_append]

/-- A comment mark at an unquoted position takes off what follows it, and what it follows is as if it
stood alone. -/
theorem removeComment_append_mark {t : Text} (h : after false t = false) (s : Text) :
    Quoting.removeComment (t ++ Quoting.commentMark :: s) = Quoting.removeComment t := by
  cases hfound : Quoting.index? t Quoting.commentMark with
  | some n => exact removeComment_append_of_some hfound _
  | none =>
    have hmark : Quoting.removeComment (Quoting.commentMark :: s) = [] := rfl
    rw [removeComment_append_of_hides ⟨hfound, h⟩, hmark, List.append_nil, Quoting.removeComment, hfound]

/-- Blanks behind a text with balanced double quotes are gone with its comment, or with the other blanks
around it. -/
theorem strip_removeComment_append {t pad : Text} (h : after false t = false)
    (hpad : ∀ c ∈ pad, Text.isBlank c = true) :
    Text.strip (Quoting.removeComment (t ++ pad)) = Text.strip (Quoting.removeComment t) := by
  cases hfound : Quoting.index? t Quoting.commentMark with
  | some n => rw [removeComment_append_of_some hfound]
  | none =>
    have hblank : Hides (· == Quoting.commentMark) pad := by
      refine hides_blanks hpad fun c hc => beq_false_of_ne ?_
      rintro rfl
      exact absurd hc (by decide)
    have ht : Quoting.removeComment t = t := Quoting.removeComment_of_hides ⟨hfound, h⟩
    rw [removeComment_append_of_hides ⟨hfound, h⟩, Quoting.removeComment_of_hides hblank, ht]
    exact Text.stripOf_append hpad

/-! ## The body of a line -/

namespace Line

theorem body_eq_of_text_eq {line line' : Line} (h : line.text = line'.text) :
    line.body = line'.body := by
  rw [body, body, h]

variable {t left right : Text}

/-- Blanks around a line leave its body as it is. -/
theorem body_pad (hleft : ∀ c ∈ left, Text.isBlank c = true)
    (hright : ∀ c ∈ right, Text.isBlank c = true) (n m : Int) :
    (⟨n, left ++ (t ++ right)⟩ : Line).body = (⟨m, t⟩ : Line).body := by
  have hstrip : Text.strip (left ++ (t ++ right)) = Text.strip t :=
    (Text.stripOf_pad_left hleft).trans (Text.stripOf_append hright)
  rw [body, body, hstrip]

/-- A comment behind a line whose double quotes are balanced leaves its body as it is.  The blanks in
front of the comment outlast the first strip, and go with the second. -/
theorem body_comment (h : after false t = false) (s : Text) (n m : Int) :
    (⟨n, t ++ Quoting.commentMark :: s⟩ : Line).body = (⟨m, t⟩ : Line).body := by
  have hmark : Text.isBlank Quoting.commentMark = false := by decide
  obtain ⟨rest, hrest⟩ := Text.exists_stripOf_append_cons hmark t s
  obtain ⟨gap, hgap, hblank⟩ :=
    Text.exists_stripRightOf_append Text.isBlank (Text.stripLeftOf Text.isBlank t)
  change Text.stripLeftOf Text.isBlank t = Text.strip t ++ gap at hgap
  have hstrip : after false (Text.strip t) = false := by rw [Quoting.after_strip, h]
  have hleft : after false (Text.strip t ++ gap) = false := by
    rw [Quoting.after_append, hstrip, Quoting.after_of_blanks hblank]
  calc (⟨n, t ++ Quoting.commentMark :: s⟩ : Line).body
      = Text.strip (Quoting.removeComment (Text.strip t ++ gap ++ Quoting.commentMark :: rest)) := by
        rw [← hgap, ← hrest]
        rfl
    _ = Text.strip (Quoting.removeComment (Text.strip t ++ gap)) := by
        rw [removeComment_append_mark hleft]
    _ = (⟨m, t⟩ : Line).body := strip_removeComment_append hstrip hblank

end Line

/-! ## The kind of a line -/

/-- The kind of a line that is blank or holds nothing but a comment. -/
def LineKind.isSkipped : LineKind → Bool
  | .blank | .commentOnly => true
  | _ => false

theorem LineKind.isSkipped_ofBody (body : Text) : (ofBody body).isSkipped = false := by
  unfold ofBody
  split
  · rfl
  · split
    · rfl
    · split <;> rfl

namespace Line

theorem kind_eq_of_text_eq {line line' : Line} (h : line.text = line'.text) :
    line.kind = line'.kind := by
  rw [kind, kind, body_eq_of_text_eq h, h]

/-- The line is blank or holds nothing but a comment. -/
def isSkipped (line : Line) : Bool := line.kind.isSkipped

theorem kind_of_body_ne_nil {line : Line} (h : line.body ≠ []) :
    line.kind = LineKind.ofBody line.body := by
  have hstrip : (Text.strip line.text).isEmpty = false := by
    rw [List.isEmpty_eq_false_iff]
    intro hblank
    refine h ?_
    rw [body, hblank]
    rfl
  rw [kind, hstrip, List.isEmpty_eq_false_iff.mpr h]
  rfl

/-- A line is passed over exactly if its body is empty. -/
theorem isSkipped_eq (line : Line) : line.isSkipped = line.body.isEmpty := by
  cases hbody : line.body with
  | nil =>
    unfold isSkipped kind
    rw [hbody]
    cases (Text.strip line.text).isEmpty <;> rfl
  | cons c cs =>
    have hne : line.body ≠ [] := hbody ▸ List.cons_ne_nil c cs
    rw [isSkipped, kind_of_body_ne_nil hne, LineKind.isSkipped_ofBody]
    rfl

/-- Lines of the same body, of which one is not passed over, are of the same kind. -/
theorem kind_eq_of_body_eq {line line' : Line} (h : line.body = line'.body)
    (hread : line.isSkipped = false) : line.kind = line'.kind := by
  rw [isSkipped_eq, List.isEmpty_eq_false_iff] at hread
  rw [kind_of_body_ne_nil hread, kind_of_body_ne_nil (h ▸ hread), h]

end Line

/-! ## The parts of a line -/

theorem opensWith_of_blanks {pad : Text} (hpad : ∀ c ∈ pad, Text.isBlank c = true)
    (kinds : List Bracket) : opensWith pad kinds = false := by
  by_contra hopens
  rw [Bool.not_eq_false] at hopens
  obtain ⟨kind, -, rest, rfl⟩ := opensWith_eq_true_iff.mp hopens
  have hleft := hpad kind.left List.mem_cons_self
  simp [Field.isBlank_bracket] at hleft

namespace Field.Padded

variable {kinds : List Bracket} {fields fields' : List Text}

/-- Blanks behind fields are gone when the fields are joined. -/
theorem joined_eq (h : Padded fields fields') : joined fields' = joined fields := by
  have hflatten : ∃ pad, fields'.flatten = fields.flatten ++ pad ∧
      ∀ c ∈ pad, Text.isBlank c = true := by
    induction h with
    | same fields => exact ⟨[], by simp, by simp⟩
    | @blank pad hpad => exact ⟨pad, by simp, hpad⟩
    | @last field pad _ hpad => exact ⟨pad, by simp, hpad⟩
    | cons field _ ih =>
      obtain ⟨pad, heq, hpad⟩ := ih
      exact ⟨pad, by rw [List.flatten_cons, heq, List.flatten_cons, List.append_assoc], hpad⟩
  obtain ⟨pad, heq, hpad⟩ := hflatten
  rw [joined, heq, joined]
  exact Text.stripOf_append hpad

/-- With blanks behind the fields, the group that is looked for is found in the same place, or again
there is none. -/
theorem splitAtGroup_cases (h : Padded fields fields') :
    (splitAtGroup kinds fields = none ∧ splitAtGroup kinds fields' = none) ∨
      ∃ before field field' rest rest', splitAtGroup kinds fields = some (before, field, rest) ∧
        splitAtGroup kinds fields' = some (before, field', rest') ∧
        Text.strip field' = Text.strip field ∧ Padded rest rest' := by
  induction h with
  | same fields =>
    cases hsplit : splitAtGroup kinds fields with
    | none => exact .inl ⟨rfl, rfl⟩
    | some s => exact .inr ⟨s.1, s.2.1, s.2.1, s.2.2, s.2.2, rfl, rfl, rfl, .same _⟩
  | @blank pad hpad =>
    refine .inl ⟨rfl, ?_⟩
    rw [splitAtGroup, opensWith_of_blanks hpad kinds]
    rfl
  | @last field pad hne hpad =>
    have hopens : opensWith (field ++ pad) kinds = opensWith field kinds :=
      Field.opensWith_append hne pad kinds
    simp only [splitAtGroup, hopens]
    split
    · exact .inr ⟨[], field, field ++ pad, [], [], rfl, rfl, Text.stripOf_append hpad, .same []⟩
    · exact .inl ⟨rfl, rfl⟩
  | @cons field rest rest' hrest ih =>
    simp only [splitAtGroup]
    split
    · exact .inr ⟨[], field, field, rest, rest', rfl, rfl, rfl, hrest⟩
    · rcases ih with ⟨hnone, hnone'⟩ | ⟨before, group, group', after, after', hsome, hsome', hgroup⟩
      · exact .inl ⟨by rw [hnone]; rfl, by rw [hnone']; rfl⟩
      · exact .inr ⟨field :: before, group, group', after, after', by rw [hsome]; rfl,
          by rw [hsome']; rfl, hgroup⟩

theorem entityParts_eq (h : Padded fields fields') :
    EntityParts.ofFields fields' = EntityParts.ofFields fields := by
  unfold EntityParts.ofFields
  rcases @splitAtGroup_cases Bracket.entity _ _ h with
    ⟨hnone, hnone'⟩ | ⟨before, entity, entity', rest, rest', hsome, hsome', hentity, hrest⟩
  · simp only [hnone, hnone', h.joined_eq]
  · simp only [hsome, hsome', hentity]
    rcases @splitAtGroup_cases [.curly] _ _ hrest with
      ⟨hnone, hnone'⟩ | ⟨between, options, options', after, after', hsome, hsome', hoptions, hafter⟩
    · simp only [hnone, hnone', hrest.joined_eq]
    · simp only [hsome, hsome', hoptions, hafter.joined_eq]

theorem attributeParts_eq (h : Padded fields fields') :
    AttributeParts.ofFields fields' = AttributeParts.ofFields fields := by
  unfold AttributeParts.ofFields
  rcases @splitAtGroup_cases [.curly] _ _ h with
    ⟨hnone, hnone'⟩ | ⟨name, options, options', after, after', hsome, hsome', hoptions, hafter⟩
  · simp only [hnone, hnone', h.joined_eq]
  · simp only [hsome, hsome', hoptions, hafter.joined_eq]

theorem withTail_eq (h : Padded fields fields') (parts : RelationshipParts) :
    parts.withTail fields' = parts.withTail fields := by
  unfold RelationshipParts.withTail
  rcases @splitAtGroup_cases [.curly] _ _ h with
    ⟨hnone, hnone'⟩ | ⟨between, options, options', after, after', hsome, hsome', hoptions, hafter⟩
  · simp only [hnone, hnone', h.joined_eq]
  · simp only [hsome, hsome', hoptions, hafter.joined_eq]

theorem relationshipParts_eq (h : Padded fields fields') :
    RelationshipParts.ofFields fields' = RelationshipParts.ofFields fields := by
  unfold RelationshipParts.ofFields
  rcases @splitAtGroup_cases Bracket.entity _ _ h with
    ⟨hnone, hnone'⟩ | ⟨before, first, first', rest1, rest1', hsome, hsome', hfirst, hrest1⟩
  · simp only [hnone, hnone', h.joined_eq]
  · simp only [hsome, hsome', hfirst]
    rcases @splitAtGroup_cases Bracket.entity _ _ hrest1 with
      ⟨hnone, hnone'⟩ | ⟨cardinality, second, second', rest2, rest2', hsome, hsome', hsecond, hrest2⟩
    · simp only [hnone, hnone', hrest1.joined_eq]
    · have hsides : RelationshipParts.ofSides before first' cardinality second' =
          RelationshipParts.ofSides before first cardinality second := by
        rw [RelationshipParts.ofSides, hfirst, hsecond, RelationshipParts.ofSides]
      simp only [hsome, hsome', hsides]
      rcases @splitAtGroup_cases [.angle] _ _ hrest2 with
        ⟨hnone, hnone'⟩ | ⟨between, verb, verb', rest3, rest3', hsome, hsome', hverb, hrest3⟩
      · simp only [hnone, hnone', hrest2.withTail_eq]
      · simp only [hsome, hsome', RelationshipParts.withVerb, hverb, hrest3.withTail_eq]

end Field.Padded

namespace Line

/-- The fields of a line are those of its body, with blanks behind them at most. -/
theorem padded_lineFields (line : Line) :
    Padded (Field.cut line.body Bracket.all) (lineFields line.text) := by
  obtain ⟨pad, hcode, hpad⟩ := exists_code_eq_body_append line
  have hpadded := (Field.row_cut line.body Bracket.all).padded hpad
  rwa [Field.flatten_cut, ← hcode] at hpadded

theorem entityParts_eq (line : Line) :
    EntityParts.ofText line.text = EntityParts.ofFields (Field.cut line.body Bracket.all) := by
  rw [EntityParts.ofText, line.padded_lineFields.entityParts_eq]

theorem attributeParts_eq (line : Line) :
    AttributeParts.ofText line.text = AttributeParts.ofFields (Field.cut line.body Bracket.all) := by
  rw [AttributeParts.ofText, line.padded_lineFields.attributeParts_eq]

theorem relationshipParts_eq (line : Line) :
    RelationshipParts.ofText line.text =
      RelationshipParts.ofFields (Field.cut line.body Bracket.all) := by
  rw [RelationshipParts.ofText, line.padded_lineFields.relationshipParts_eq]

variable {line line' : Line}

theorem entityParts_eq_of_body_eq (h : line.body = line'.body) :
    EntityParts.ofText line.text = EntityParts.ofText line'.text := by
  rw [entityParts_eq, entityParts_eq, h]

theorem attributeParts_eq_of_body_eq (h : line.body = line'.body) :
    AttributeParts.ofText line.text = AttributeParts.ofText line'.text := by
  rw [attributeParts_eq, attributeParts_eq, h]

theorem relationshipParts_eq_of_body_eq (h : line.body = line'.body) :
    RelationshipParts.ofText line.text = RelationshipParts.ofText line'.text := by
  rw [relationshipParts_eq, relationshipParts_eq, h]

end Line

end ErDiagram

import ErDiagram.Notation.Field
import ErDiagram.Proofs.Notation.Quoting

set_option autoImplicit false

/-!
# A line made of fields falls into these fields

Free text that hides every opening bracket, and groups whose inner text hides the closing bracket,
are the fields of the line that they form, as long as two free texts never meet.
-/

namespace ErDiagram.Field

open Quoting (Hides after findFrom quote)

variable {kinds : List Bracket} {kind : Bracket} {free inner t : Text}

/-- The character opens a group. -/
def opens (kinds : List Bracket) (c : Char) : Bool := (opened? kinds c).isSome

theorem opened?_left (kind : Bracket) : opened? Bracket.all kind.left = some kind := by
  cases kind <;> rfl

/-- The text between brackets of a kind. -/
def group (kind : Bracket) (inner : Text) : Text := kind.left :: inner ++ [kind.right]

theorem cutFrom_free_skip {quoted : Bool} {c : Char} (h : ¬(!quoted && opens kinds c) = true)
    (collected t : Text) :
    cutFrom kinds (.free quoted) collected (c :: t) =
      cutFrom kinds (.free (Quoting.afterChar quoted c)) (c :: collected) t := by
  unfold opens at h
  cases quoted with
  | true => simp [cutFrom]
  | false =>
    cases hopened : opened? kinds c with
    | none => simp [cutFrom, hopened]
    | some kind => simp [hopened] at h

theorem cutFrom_free_open {c : Char} (h : opened? kinds c = some kind) (collected t : Text) :
    cutFrom kinds (.free false) collected (c :: t) =
      close collected ++ cutFrom kinds (.group kind false) [c] t := by
  simp [cutFrom, h]

theorem group_ne_nil (kind : Bracket) (inner : Text) : group kind inner ≠ [] := List.cons_ne_nil _ _

theorem getLast?_group (kind : Bracket) (inner : Text) :
    (group kind inner).getLast? = some kind.right :=
  List.getLast?_concat

@[simp] theorem inner_group (kind : Bracket) (inner : Text) : (group kind inner).inner = inner := by
  rw [group, Text.inner, List.cons_append, List.tail_cons, List.dropLast_concat]

@[simp] theorem encloses_group (kind : Bracket) (inner : Text) :
    kind.encloses (group kind inner) = true := by
  rw [Bracket.encloses, Text.endsWith, getLast?_group, beq_self_eq_true, Bool.and_true]
  simp [Text.startsWith, group]

theorem opensWith_cons (c : Char) (t : Text) (kinds : List Bracket) :
    opensWith (c :: t) kinds = kinds.any fun b => c == b.left := by
  simp [opensWith, Text.startsWith]

theorem opensWith_append {s : Text} (hs : s ≠ []) (t : Text) (kinds : List Bracket) :
    opensWith (s ++ t) kinds = opensWith s kinds := by
  simp only [opensWith, Text.startsWith_append hs]

theorem isEnclosed_of_not_opens {t : Text} {kinds : List Bracket}
    (h : opensWith t kinds = false) : isEnclosed t kinds = false := by
  rw [opensWith, List.any_eq_false] at h
  rw [isEnclosed, List.any_eq_false]
  intro kind hkind
  rw [Bracket.encloses, Bool.and_eq_true, not_and_or]
  exact .inl (h kind hkind)

/-- A group opens with its own bracket and no other. -/
theorem opensWith_group (kind : Bracket) (inner : Text) (kinds : List Bracket) :
    opensWith (group kind inner) kinds = kinds.contains kind := by
  have hleft : ∀ b : Bracket, (kind.left == b.left) = (kind == b) := by
    intro b
    cases kind <;> cases b <;> rfl
  rw [group, List.cons_append, opensWith_cons, List.contains_eq_any_beq]
  simp only [hleft]

theorem trimmed_group {p : Char → Bool} (kind : Bracket) (inner : Text) (hleft : p kind.left = false)
    (hright : p kind.right = false) : Text.Trimmed p (group kind inner) := by
  constructor
  · intro c hc
    cases hc
    exact hleft
  · intro c hc
    rw [getLast?_group, Option.some.injEq] at hc
    exact hc ▸ hright

theorem isBlank_bracket (kind : Bracket) :
    Text.isBlank kind.left = false ∧ Text.isBlank kind.right = false := by
  cases kind <;> decide

theorem strip_group (kind : Bracket) (inner : Text) :
    Text.strip (group kind inner) = group kind inner :=
  Text.stripOf_eq_self
    (trimmed_group kind inner (isBlank_bracket kind).1 (isBlank_bracket kind).2)

/-- A group hides what neither its brackets nor its inside show. -/
theorem hides_group {p : Char → Bool} (kind : Bracket) (hleft : p kind.left = false)
    (hright : p kind.right = false) (h : Hides p inner) : Hides p (group kind inner) := by
  have hplain : ∀ c, c = kind.left ∨ c = kind.right → c ≠ quote := by
    rintro c (rfl | rfl) <;> cases kind <;> decide
  have hopen : Hides p [kind.left] := Quoting.hides_singleton (hplain _ (.inl rfl)) hleft
  have hclose : Hides p [kind.right] := Quoting.hides_singleton (hplain _ (.inr rfl)) hright
  exact (hopen.append h).append hclose

/-! ## Cutting -/

/-- Free text that opens no group is collected as a whole. -/
theorem cutFrom_free (kinds : List Bracket) (s t : Text) :
    ∀ (quoted : Bool) (collected : Text), findFrom (opens kinds) quoted s = none →
      cutFrom kinds (.free quoted) collected (s ++ t) =
        cutFrom kinds (.free (after quoted s)) (s.reverse ++ collected) t := by
  induction s with
  | nil =>
    intro quoted collected _
    rfl
  | cons c cs ih =>
    intro quoted collected h
    rw [findFrom] at h
    split at h
    · cases h
    · rename_i hopens
      have hrest := ih (Quoting.afterChar quoted c) (c :: collected) (Option.map_eq_none_iff.mp h)
      rw [List.cons_append, cutFrom_free_skip hopens, hrest, List.reverse_cons, List.append_assoc]
      rfl

/-- The inside of a group is collected up to its closing bracket. -/
theorem cutFrom_group (kinds : List Bracket) (kind : Bracket) (s t : Text) :
    ∀ (quoted : Bool) (collected : Text), findFrom (· == kind.right) quoted s = none →
      cutFrom kinds (.group kind quoted) collected (s ++ t) =
        cutFrom kinds (.group kind (after quoted s)) (s.reverse ++ collected) t := by
  induction s with
  | nil =>
    intro quoted collected _
    rfl
  | cons c cs ih =>
    intro quoted collected h
    rw [findFrom] at h
    split at h
    · cases h
    · rename_i hcloses
      have hrest := ih (Quoting.afterChar quoted c) (c :: collected) (Option.map_eq_none_iff.mp h)
      rw [List.cons_append, cutFrom, if_neg hcloses, hrest, List.reverse_cons, List.append_assoc]
      rfl

theorem close_of_ne_nil {collected : Text} (h : collected ≠ []) :
    close collected = [collected.reverse] := by
  cases collected with
  | nil => exact absurd rfl h
  | cons c cs => rfl

/-- A group whose inside hides the closing bracket closes what is collected in front of it. -/
theorem cutFrom_free_group (hkind : opened? kinds kind.left = some kind)
    (h : Hides (· == kind.right) inner) (collected t : Text) :
    cutFrom kinds (.free false) collected (group kind inner ++ t) =
      close collected ++ group kind inner :: cut t kinds := by
  have hgroup : group kind inner ++ t = kind.left :: (inner ++ kind.right :: t) := by simp [group]
  rw [hgroup, cutFrom_free_open hkind, cutFrom_group kinds kind inner _ false _ h.find_eq,
    h.after_eq, cutFrom]
  simp [close, group, cut]

/-- A group is the first field of what it begins. -/
theorem cut_group (hkind : opened? kinds kind.left = some kind)
    (h : Hides (· == kind.right) inner) (t : Text) :
    cut (group kind inner ++ t) kinds = group kind inner :: cut t kinds :=
  cutFrom_free_group hkind h [] t

/-- Free text is the first field of what it begins, if a group follows. -/
theorem cut_free_group (hfree : Hides (opens kinds) free) (hne : free ≠ [])
    (hkind : opened? kinds kind.left = some kind) (h : Hides (· == kind.right) inner) (t : Text) :
    cut (free ++ (group kind inner ++ t)) kinds = free :: group kind inner :: cut t kinds := by
  rw [cut, cutFrom_free kinds free _ false [] hfree.find_eq, hfree.after_eq, List.append_nil,
    cutFrom_free_group hkind h, close_of_ne_nil (by simpa using hne), List.reverse_reverse]
  rfl

/-- Free text up to the end is one field. -/
theorem cut_free (hfree : Hides (opens kinds) free) (hne : free ≠ []) : cut free kinds = [free] := by
  have hall := cutFrom_free kinds free [] false [] hfree.find_eq
  rw [List.append_nil, List.append_nil] at hall
  rw [cut, hall, cutFrom, close_of_ne_nil (by simpa using hne), List.reverse_reverse]

@[simp] theorem cut_nil (kinds : List Bracket) : cut [] kinds = [] := rfl

end ErDiagram.Field

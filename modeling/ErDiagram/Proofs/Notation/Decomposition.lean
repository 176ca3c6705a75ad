import ErDiagram.Proofs.Notation.Position
import ErDiagram.Proofs.Notation.Row

set_option autoImplicit false

/-!
# The fields of a text are its only decomposition

What the fields of a text are can be said without a way to find them: free texts and groups, told
apart by the unquoted brackets that they show, such that only the last group may be open, no two free
texts meet, and every field but the last has its double quotes in pairs.  The cut of a text is such a
decomposition, and there is no other.  As every cut lies behind an even number of double quotes, a
character is quoted in its field exactly if it is quoted in the text.
-/

namespace ErDiagram.Field

open Quoting (Hides after findFrom quote IsUnquoted ShowsAt)

variable {kinds : List Bracket} {kind : Bracket} {t field next : Text} {fields before rest : List Text}

/-! ## Free texts and groups -/

/-- The text shows no opening bracket of the kinds. -/
def IsFreeText (kinds : List Bracket) (t : Text) : Prop :=
  ∀ kind ∈ kinds, ∀ n, ¬ ShowsAt t n kind.left

/-- The text opens with a bracket and shows its closing bracket at the last position and no other. -/
def IsClosedGroup (kind : Bracket) (t : Text) : Prop :=
  t.head? = some kind.left ∧ ∀ n, ShowsAt t n kind.right ↔ n + 1 = t.length

/-- The text opens with a bracket and shows its closing bracket nowhere. -/
def IsOpenGroup (kind : Bracket) (t : Text) : Prop :=
  t.head? = some kind.left ∧ ∀ n, ¬ ShowsAt t n kind.right

theorem isFreeText_iff : IsFreeText kinds t ↔ findFrom (opens kinds) false t = none := by
  rw [Quoting.not_shows_iff]
  constructor
  · intro h n c hshows
    by_contra hopens
    rw [Bool.not_eq_false, opens_eq_true_iff] at hopens
    obtain ⟨kind, hkind, rfl⟩ := hopens
    exact h kind hkind n hshows
  · intro h kind hkind n hshows
    have := h n kind.left hshows
    rw [opens_left hkind] at this
    cases this

theorem left_ne_right (kind : Bracket) : kind.left ≠ kind.right := by
  cases kind <;> decide

/-- The opening bracket has no part in a search for the closing one. -/
theorem findFrom_left_cons (kind : Bracket) (t : Text) :
    findFrom (· == kind.right) false (kind.left :: t) = none ↔
      findFrom (· == kind.right) false t = none := by
  have hleft : Hides (· == kind.right) [kind.left] :=
    Quoting.hides_singleton (by cases kind <;> decide) (beq_false_of_ne (left_ne_right kind))
  rw [← List.singleton_append, Quoting.findFrom_append, hleft.find_eq, hleft.after_eq]
  simp

theorem isOpenGroup_iff : IsOpenGroup kind t ↔
    ∃ rest, t = kind.left :: rest ∧ findFrom (· == kind.right) false rest = none := by
  rw [IsOpenGroup, ← Quoting.not_showsAt_iff, List.head?_eq_some_iff]
  constructor
  · rintro ⟨⟨rest, rfl⟩, hopen⟩
    exact ⟨rest, rfl, (findFrom_left_cons kind rest).mp hopen⟩
  · rintro ⟨rest, rfl, hopen⟩
    exact ⟨⟨rest, rfl⟩, (findFrom_left_cons kind rest).mpr hopen⟩

/-- What a group shows of its closing bracket: the last position, if the inside hides the bracket. -/
theorem showsAt_group_iff {inner : Text} (h : Hides (· == kind.right) inner) (n : Nat) :
    ShowsAt (group kind inner) n kind.right ↔ n + 1 = (group kind inner).length := by
  have hfront : findFrom (· == kind.right) false (kind.left :: inner) = none :=
    (findFrom_left_cons kind inner).mpr h.find_eq
  have hafter : after false (kind.left :: inner) = false := by rw [after_left, h.after_eq]
  have hlength : (group kind inner).length = (kind.left :: inner).length + 1 := by simp [group]
  rw [hlength, Nat.add_right_cancel_iff]
  constructor
  · intro hshows
    have hle : n < (group kind inner).length := (List.getElem?_eq_some_iff.mp hshows.1).1
    rcases Nat.lt_or_eq_of_le (Nat.le_of_lt_succ (hlength ▸ hle)) with hlt | heq
    · -- in front of the last position the search would have stopped
      exact absurd ((Quoting.showsAt_append_left hlt [kind.right] _).mp hshows)
        (Quoting.not_showsAt_iff.mp hfront n)
    · exact heq
  · rintro rfl
    refine ⟨?_, ?_⟩
    · rw [group, List.getElem?_concat_length]
    · rw [group, Quoting.isUnquoted_append_of_le le_rfl, Quoting.isUnquoted_iff, List.take_length,
        hafter]

theorem isClosedGroup_iff : IsClosedGroup kind t ↔
    ∃ inner, t = group kind inner ∧ Hides (· == kind.right) inner := by
  constructor
  · rintro ⟨hhead, hshows⟩
    obtain ⟨rest, rfl⟩ := List.head?_eq_some_iff.mp hhead
    obtain ⟨hlast, hunquoted⟩ := (hshows rest.length).mpr rfl
    rcases List.eq_nil_or_concat rest with rfl | ⟨inner, last, rfl⟩
    · exact absurd (Option.some.inj hlast) (left_ne_right kind)
    · rw [List.concat_eq_append] at hlast hunquoted hshows ⊢
      have hlength : (inner ++ [last]).length = (kind.left :: inner).length := by simp
      rw [hlength, ← List.cons_append] at hlast hunquoted
      rw [List.getElem?_concat_length, Option.some.injEq] at hlast
      rw [Quoting.isUnquoted_append_of_le le_rfl, Quoting.isUnquoted_iff, List.take_length,
        after_left] at hunquoted
      refine ⟨inner, by rw [hlast]; rfl, ?_, hunquoted⟩
      rw [← findFrom_left_cons, Quoting.not_showsAt_iff]
      intro n hn
      have hlt : n < (kind.left :: inner).length := (List.getElem?_eq_some_iff.mp hn.1).1
      have hend := (hshows n).mp ((Quoting.showsAt_append_left hlt [last] _).mpr hn)
      simp at hend hlt
      omega
  · rintro ⟨inner, rfl, hinner⟩
    exact ⟨rfl, showsAt_group_iff hinner⟩

/-! ## Decompositions -/

/-- The fields are a decomposition of the text. -/
structure IsDecomposition (kinds : List Bracket) (t : Text) (fields : List Text) : Prop where
  flatten_eq : fields.flatten = t
  ne_nil : ∀ field ∈ fields, field ≠ []
  shape : ∀ field ∈ fields, IsFreeText kinds field ∨
    (∃ kind ∈ kinds, IsClosedGroup kind field) ∨ ∃ kind ∈ kinds, IsOpenGroup kind field
  open_last : ∀ before field rest, fields = before ++ field :: rest →
    (∃ kind ∈ kinds, IsOpenGroup kind field) → rest = []
  free_apart : ∀ before field next rest, fields = before ++ field :: next :: rest →
    ¬ (IsFreeText kinds field ∧ IsFreeText kinds next)
  paired : ∀ before field rest, fields = before ++ field :: rest → rest ≠ [] →
    field.count quote % 2 = 0

theorem isFree_iff : IsFree kinds field ↔ field ≠ [] ∧ IsFreeText kinds field := by
  rw [IsFree, isFreeText_iff]

theorem isClosed_iff : IsClosed kinds field ↔ ∃ kind ∈ kinds, IsClosedGroup kind field := by
  simp only [IsClosed, isClosedGroup_iff]

theorem isUnclosed_iff : IsUnclosed kinds field ↔ ∃ kind ∈ kinds, IsOpenGroup kind field := by
  simp only [IsUnclosed, isOpenGroup_iff]

/-- A text that opens with a bracket is not free. -/
theorem not_isFreeText_cons (hkind : kind ∈ kinds) (t : Text) :
    ¬ IsFreeText kinds (kind.left :: t) := fun h =>
  h kind hkind 0 (Quoting.showsAt_zero_cons _ _)

/-- A row is a decomposition of the text that it puts together. -/
theorem Row.isDecomposition (h : Row kinds fields) : IsDecomposition kinds fields.flatten fields := by
  constructor
  case flatten_eq => rfl
  case ne_nil => exact fun field hfield => h.ne_nil hfield
  case shape =>
    intro field hfield
    rw [← isClosed_iff, ← isUnclosed_iff]
    exact (h.isFree_or_isClosed_or_isUnclosed hfield).imp_left fun hfree => (isFree_iff.mp hfree).2
  case open_last =>
    rintro before field rest rfl hopen
    rw [← isUnclosed_iff] at hopen
    rcases h.of_append.head_cases with hclosed | ⟨hfree, -⟩ | ⟨-, hlast⟩
    · exact absurd hopen hclosed.not_isUnclosed
    · obtain ⟨kind, hkind, t, rfl, -⟩ := hopen
      exact absurd (isFree_iff.mp hfree).2 (not_isFreeText_cons hkind t)
    · exact hlast
  case free_apart =>
    rintro before field next rest rfl ⟨hfree, hnext⟩
    cases h.of_append with
    | group hkind _ _ => exact not_isFreeText_cons hkind _ hfree
    | freeGroup _ _ hkind _ => exact not_isFreeText_cons hkind _ hnext
  case paired =>
    rintro before field rest rfl hrest
    rw [← after_eq_false_iff]
    rcases h.of_append.head_cases with hclosed | ⟨-, hafter | hlast⟩ | ⟨-, hlast⟩
    · exact hclosed.after_eq
    · exact hafter
    · exact absurd hlast hrest
    · exact absurd hlast hrest

theorem IsDecomposition.tail (h : IsDecomposition kinds t (field :: rest)) :
    IsDecomposition kinds rest.flatten rest := by
  constructor
  case flatten_eq => rfl
  case ne_nil => exact fun f hf => h.ne_nil f (List.mem_cons_of_mem _ hf)
  case shape => exact fun f hf => h.shape f (List.mem_cons_of_mem _ hf)
  case open_last =>
    rintro before f others rfl
    exact h.open_last (field :: before) f others rfl
  case free_apart =>
    rintro before f next others rfl
    exact h.free_apart (field :: before) f next others rfl
  case paired =>
    rintro before f others rfl
    exact h.paired (field :: before) f others rfl

/-- A decomposition is a row.  The induction is on the fields: what follows free text opens with a
bracket, because it is not free. -/
theorem IsDecomposition.row (h : IsDecomposition kinds t fields) : Row kinds fields := by
  induction fields generalizing t with
  | nil => exact .nil
  | cons field rest ih =>
    have hrow := ih h.tail
    have hne := h.ne_nil field List.mem_cons_self
    rcases h.shape field List.mem_cons_self with hfree | ⟨kind, hkind, hclosed⟩ | ⟨kind, hkind, hopen⟩
    · rw [isFreeText_iff] at hfree
      cases rest with
      | nil => exact .free hne hfree
      | cons next rest =>
        have hafter : after false field = false :=
          after_of_even (h.paired [] field (next :: rest) rfl (List.cons_ne_nil _ _))
        have hnext : ∃ kind ∈ kinds, next.head? = some kind.left := by
          rcases h.shape next (by simp) with hnext | ⟨kind, hkind, hnext⟩ | ⟨kind, hkind, hnext⟩
          · exact absurd ⟨isFreeText_iff.mpr hfree, hnext⟩ (h.free_apart [] field next rest rfl)
          · exact ⟨kind, hkind, hnext.1⟩
          · exact ⟨kind, hkind, hnext.1⟩
        obtain ⟨kind, hkind, hhead⟩ := hnext
        obtain ⟨s, rfl⟩ := List.head?_eq_some_iff.mp hhead
        exact .freeGroup hne ⟨hfree, hafter⟩ hkind hrow
    · obtain ⟨inner, rfl, hinner⟩ := isClosedGroup_iff.mp hclosed
      exact .group hkind hinner hrow
    · obtain rfl := h.open_last [] field rest rfl ⟨kind, hkind, hopen⟩
      obtain ⟨s, rfl, hsearch⟩ := isOpenGroup_iff.mp hopen
      exact .unclosed hkind hsearch

/-- Whatever kinds of brackets count, a text has exactly one decomposition into fields, its cut; and a
position is unquoted in a field of the decomposition exactly if it is unquoted in the text. -/
theorem isDecomposition_iff_eq_cut (kinds : List Bracket) (t : Text) :
    (∀ fields, IsDecomposition kinds t fields ↔ fields = cut t kinds) ∧
      ∀ before field rest, cut t kinds = before ++ field :: rest → ∀ n, n ≤ field.length →
        (IsUnquoted field n ↔ IsUnquoted t (before.flatten.length + n)) := by
  constructor
  · intro fields
    constructor
    · intro h
      rw [← h.flatten_eq, h.row.cut_flatten]
    · rintro rfl
      have hcut := (row_cut t kinds).isDecomposition
      rwa [flatten_cut] at hcut
  · intro before field rest hfields n hn
    have hrow := row_cut t kinds
    have htext : t = before.flatten ++ (field ++ rest.flatten) := by
      rw [← flatten_cut t kinds, hfields, List.flatten_append, List.flatten_cons]
    rw [hfields] at hrow
    rw [htext, Quoting.isUnquoted_append hrow.after_flatten,
      Quoting.isUnquoted_append_of_le hn]

/-- A group that holds a quoted bracket and one of another kind, between free texts of which one is a
quoted bracket, and a group that is never closed. -/
def nestedFields : List Text :=
  ["x".toList, "[a \"]\" (b]".toList, "\"\x7b\"".toList, "\x7bc]".toList]

/-- With round and angle brackets left out, these are the fields of their text, and the second bracket
in the group is quoted in the text as it is in the group. -/
theorem isDecomposition_nestedFields :
    IsDecomposition [.square, .curly] nestedFields.flatten nestedFields ∧
      ¬ IsUnquoted "[a \"]\" (b]".toList 4 ∧ ¬ IsUnquoted nestedFields.flatten (1 + 4) := by
  have hcut : nestedFields = cut nestedFields.flatten [.square, .curly] := by decide
  obtain ⟨hunique, hposition⟩ :=
    isDecomposition_iff_eq_cut [.square, .curly] nestedFields.flatten
  have hquoted : ¬ IsUnquoted "[a \"]\" (b]".toList 4 := by decide
  refine ⟨(hunique nestedFields).mpr hcut, hquoted, ?_⟩
  exact mt (hposition ["x".toList] _ _ hcut.symm 4 (by decide)).mpr hquoted

end ErDiagram.Field

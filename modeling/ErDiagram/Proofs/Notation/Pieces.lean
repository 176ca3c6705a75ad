import ErDiagram.Proofs.Notation.Position

set_option autoImplicit false

/-!
# The pieces between the delimiters of a text

A cut at a delimiter leaves pieces that show no delimiter, each but the last with its double quotes in
pairs, and the pieces joined by the delimiter are the text again; no other pieces are so.  What a text
shows is therefore what its pieces show, each from the position where it begins, and the delimiters
between them.  Blanks at the ends of the text go to the ends of the outer pieces.
-/

namespace ErDiagram.Quoting

variable {delimiter : Char} {p : Char → Bool} {s t : Text} {pieces rest : List Text} {quoted : Bool}

/-! ## Cutting and joining -/

/-- Pieces in a row as a cut at the delimiter leaves them, from a position that is quoted or not. -/
inductive CutFrom (delimiter : Char) : Bool → List Text → Prop where
  | last {quoted : Bool} {t : Text} (hfind : findFrom (· == delimiter) quoted t = none) :
      CutFrom delimiter quoted [t]
  /-- a piece in front of a delimiter -/
  | cons {quoted : Bool} {t : Text} {rest : List Text}
      (hfind : findFrom (· == delimiter) quoted t = none) (hafter : after quoted t = false)
      (hrest : CutFrom delimiter false rest) : CutFrom delimiter quoted (t :: rest)

theorem CutFrom.ne_nil (h : CutFrom delimiter quoted pieces) : pieces ≠ [] := by
  cases h <;> exact List.cons_ne_nil _ _

theorem piecesFrom_ne_nil (delimiter : Char) (quoted : Bool) (t : Text) :
    piecesFrom delimiter quoted t ≠ [] := by
  cases t with
  | nil => exact List.cons_ne_nil _ _
  | cons c cs =>
    rw [piecesFrom]
    split
    · exact List.cons_ne_nil _ _
    · cases piecesFrom delimiter (afterChar quoted c) cs <;> exact List.cons_ne_nil _ _

theorem join_cons_of_ne_nil (h : rest ≠ []) (t : Text) :
    Text.join [delimiter] (t :: rest) = t ++ delimiter :: Text.join [delimiter] rest := by
  obtain ⟨next, others, rfl⟩ := List.exists_cons_of_ne_nil h
  exact Text.join_cons_cons _ _ _ _

theorem join_consPiece (c : Char) (h : pieces ≠ []) :
    Text.join [delimiter] (consPiece c pieces) = c :: Text.join [delimiter] pieces := by
  obtain ⟨t, rest, rfl⟩ := List.exists_cons_of_ne_nil h
  cases rest with
  | nil => simp [consPiece]
  | cons next rest => simp [consPiece, Text.join_cons_cons]

/-- The pieces joined by the delimiter are the text. -/
theorem join_piecesFrom (delimiter : Char) (t : Text) : ∀ quoted,
    Text.join [delimiter] (piecesFrom delimiter quoted t) = t := by
  induction t with
  | nil => exact fun _ => Text.join_singleton _ _
  | cons c cs ih =>
    intro quoted
    rw [piecesFrom]
    split
    · rename_i hdelimiter
      rw [join_cons_of_ne_nil (piecesFrom_ne_nil _ _ _), ih, hdelimiter.2.2]
      rfl
    · rw [join_consPiece c (piecesFrom_ne_nil _ _ _), ih]

/-- A character that is no delimiter where it stands goes to the first piece. -/
theorem CutFrom.consPiece {c : Char} (hc : ¬(quoted = false ∧ c = delimiter))
    (h : CutFrom delimiter (afterChar quoted c) pieces) :
    CutFrom delimiter quoted (consPiece c pieces) := by
  have hkeep : ¬(!quoted && c == delimiter) = true := by simpa using hc
  have hfind : ∀ t, findFrom (· == delimiter) (afterChar quoted c) t = none →
      findFrom (· == delimiter) quoted (c :: t) = none := by
    intro t ht
    rw [findFrom, if_neg hkeep, ht]
    rfl
  cases h with
  | last h => exact .last (hfind _ h)
  | cons h hafter hrest => exact .cons (hfind _ h) hafter hrest

/-- The pieces of a text are as a cut leaves them. -/
theorem cutFrom_piecesFrom (hdelimiter : delimiter ≠ quote) (t : Text) : ∀ quoted,
    CutFrom delimiter quoted (piecesFrom delimiter quoted t) := by
  induction t with
  | nil => exact fun _ => .last rfl
  | cons c cs ih =>
    intro quoted
    rw [piecesFrom]
    split
    · rename_i hcut
      rw [hcut.2.1]
      exact .cons rfl rfl (ih false)
    · rename_i hkeep
      refine (ih _).consPiece fun hc => hkeep ⟨?_, hc⟩
      rw [hc.2]
      exact hdelimiter

/-- Pieces as a cut leaves them are the pieces of the text that joins them. -/
theorem CutFrom.piecesFrom_join (hdelimiter : delimiter ≠ quote)
    (h : CutFrom delimiter quoted pieces) :
    piecesFrom delimiter quoted (Text.join [delimiter] pieces) = pieces := by
  induction h with
  | last hfind =>
    rename_i quoted t
    have happend := piecesFrom_append hdelimiter t [] quoted hfind
    rw [List.append_nil] at happend
    rw [Text.join_singleton, happend]
    exact (foldr_consPiece t [] []).trans (by rw [List.append_nil])
  | cons hfind hafter hrest ih =>
    rw [join_cons_of_ne_nil hrest.ne_nil, piecesFrom_append hdelimiter _ _ _ hfind, hafter,
      piecesFrom, if_pos ⟨hdelimiter, rfl, rfl⟩, ih, foldr_consPiece, List.append_nil]

/-- No piece shows the delimiter. -/
theorem CutFrom.not_showsAt (h : CutFrom delimiter false pieces) (ht : t ∈ pieces) (n : Nat) :
    ¬ ShowsAt t n delimiter := by
  refine not_showsAt_iff.mp ?_ n
  induction pieces with
  | nil => cases ht
  | cons first rest ih =>
    cases h with
    | last hfind => rwa [List.mem_singleton.mp ht]
    | cons hfind _ hrest =>
      rcases List.mem_cons.mp ht with rfl | hmem
      · exact hfind
      · exact ih hrest hmem

/-- Texts that hide the delimiter are as a cut leaves them. -/
theorem cutFrom_of_hides (hne : pieces ≠ []) (h : ∀ t ∈ pieces, Hides (· == delimiter) t) :
    CutFrom delimiter false pieces := by
  induction pieces with
  | nil => exact absurd rfl hne
  | cons t rest ih =>
    obtain ⟨hfind, hafter⟩ := h t List.mem_cons_self
    by_cases hrest : rest = []
    · rw [hrest]
      exact .last hfind
    · exact .cons hfind hafter (ih hrest fun s hs => h s (List.mem_cons_of_mem _ hs))

/-! ## What the pieces show -/

/-- Where a piece begins that stands behind other pieces and their delimiters. -/
def offset : List Text → Nat
  | [] => 0
  | t :: rest => t.length + 1 + offset rest

@[simp] theorem offset_nil : offset [] = 0 := rfl

@[simp] theorem offset_cons (t : Text) (rest : List Text) :
    offset (t :: rest) = t.length + 1 + offset rest := rfl

theorem ShowsAt.lt_length {n : Nat} {c : Char} (h : ShowsAt t n c) : n < t.length :=
  (List.getElem?_eq_some_iff.mp h.1).1

/-- Two texts, the first with balanced double quotes, show what either of them shows. -/
theorem showsAt_append_iff (h : after false s = false) {n : Nat} {c : Char} :
    ShowsAt (s ++ t) n c ↔ ShowsAt s n c ∨ ∃ k, n = s.length + k ∧ ShowsAt t k c := by
  by_cases hn : n < s.length
  · rw [showsAt_append_left hn]
    refine ⟨.inl, fun hshows => hshows.resolve_right ?_⟩
    rintro ⟨k, rfl, -⟩
    omega
  · obtain ⟨k, rfl⟩ := Nat.exists_eq_add_of_le (Nat.le_of_not_lt hn)
    rw [showsAt_append_right h]
    constructor
    · exact fun hshows => .inr ⟨k, rfl, hshows⟩
    · rintro (hshows | ⟨j, hj, hshows⟩)
      · exact absurd hshows.lt_length hn
      · rwa [Nat.add_left_cancel hj]

/-- Two texts around a delimiter show it between them. -/
theorem showsAt_append_cons_iff (hdelimiter : delimiter ≠ quote) (h : after false s = false) {n : Nat}
    {c : Char} :
    ShowsAt (s ++ delimiter :: t) n c ↔ ShowsAt s n c ∨ n = s.length ∧ c = delimiter ∨
      ∃ k, n = s.length + 1 + k ∧ ShowsAt t k c := by
  have hmark : after false [delimiter] = false := if_neg hdelimiter
  have hone : ∀ k, ShowsAt [delimiter] k c ↔ k = 0 ∧ c = delimiter := by
    intro k
    constructor
    · intro hshows
      have hk : k = 0 := by simpa using hshows.lt_length
      rw [hk] at hshows
      exact ⟨hk, (Option.some.inj hshows.1).symm⟩
    · rintro ⟨rfl, rfl⟩
      exact showsAt_zero_cons _ _
  rw [← List.singleton_append, showsAt_append_iff h]
  refine or_congr_right ?_
  simp only [showsAt_append_iff hmark, hone, List.length_singleton]
  constructor
  · rintro ⟨_, rfl, ⟨rfl, hc⟩ | ⟨k, rfl, hshows⟩⟩
    · exact .inl ⟨rfl, hc⟩
    · exact .inr ⟨k, by omega, hshows⟩
  · rintro (⟨rfl, hc⟩ | ⟨k, rfl, hshows⟩)
    · exact ⟨0, rfl, .inl ⟨rfl, hc⟩⟩
    · exact ⟨1 + k, by omega, .inr ⟨k, rfl, hshows⟩⟩

/-- A text shows what its pieces show, and the delimiters in front of all pieces but the first. -/
theorem CutFrom.showsAt_join_iff (hdelimiter : delimiter ≠ quote) (h : CutFrom delimiter false pieces)
    {n : Nat} {c : Char} :
    ShowsAt (Text.join [delimiter] pieces) n c ↔
      (∃ i t k, pieces[i]? = some t ∧ n = offset (pieces.take i) + k ∧ ShowsAt t k c) ∨
        c = delimiter ∧ ∃ i, i + 1 < pieces.length ∧ n + 1 = offset (pieces.take (i + 1)) := by
  induction pieces generalizing n with
  | nil => exact absurd rfl h.ne_nil
  | cons t rest ih =>
    cases h with
    | last hfind =>
      rw [Text.join_singleton]
      constructor
      · exact fun hshows => .inl ⟨0, t, n, rfl, by simp, hshows⟩
      · rintro (⟨i, s, k, hi, rfl, hshows⟩ | ⟨-, i, hi, -⟩)
        · cases i with
          | zero =>
            cases hi
            simpa using hshows
          | succ i => cases hi
        · simp at hi
    | cons hfind hafter hrest =>
      rw [join_cons_of_ne_nil hrest.ne_nil, showsAt_append_cons_iff hdelimiter hafter]
      simp only [ih hrest]
      have hlength : 0 < rest.length := List.length_pos_of_ne_nil hrest.ne_nil
      constructor
      · rintro (hshows | ⟨rfl, rfl⟩ | ⟨k, rfl, ⟨i, s, j, hi, rfl, hshows⟩ | ⟨rfl, i, hi, hn⟩⟩)
        · exact .inl ⟨0, t, n, rfl, by simp, hshows⟩
        · exact .inr ⟨rfl, 0, by simpa using hlength, by simp⟩
        · exact .inl ⟨i + 1, s, j, hi, by simp [Nat.add_assoc], hshows⟩
        · exact .inr ⟨rfl, i + 1, by simpa using hi, by simp [← hn, Nat.add_assoc]⟩
      · rintro (⟨i, s, k, hi, rfl, hshows⟩ | ⟨rfl, i, hi, hn⟩)
        · cases i with
          | zero =>
            cases hi
            exact .inl (by simpa using hshows)
          | succ i =>
            refine .inr (.inr ⟨offset (rest.take i) + k, by simp [Nat.add_assoc], .inl ?_⟩)
            exact ⟨i, s, k, hi, rfl, hshows⟩
        · cases i with
          | zero => exact .inr (.inl ⟨by simpa using hn, rfl⟩)
          | succ i =>
            rw [List.take_succ_cons, offset_cons] at hn
            have hpositive : 0 < offset (rest.take (i + 1)) := by
              obtain ⟨next, others, rfl⟩ := List.exists_cons_of_ne_nil hrest.ne_nil
              rw [List.take_succ_cons, offset_cons]
              omega
            refine .inr (.inr ⟨n - (t.length + 1), by omega, .inr ⟨rfl, i, by simpa using hi, ?_⟩⟩)
            omega

/-! ## Blanks around a text -/

/-- Stripping leaves everything to be found but blanks. -/
theorem findFrom_strip (hp : ∀ c, Text.isBlank c = true → p c = false) (t : Text) :
    findFrom p false (Text.strip t) = none ↔ findFrom p false t = none := by
  obtain ⟨front, back, ht, hfront, hback⟩ := Text.exists_stripOf_append Text.isBlank t
  have hpassed : ∀ {pad : Text}, (∀ c ∈ pad, Text.isBlank c = true) → ∀ quoted,
      findFrom p quoted pad = none := fun hpad =>
    findFrom_eq_none_of_forall fun c hc => hp c (hpad c hc)
  conv_rhs => rw [ht]
  rw [findFrom_append, hpassed hfront, Option.none_or, Option.map_eq_none_iff,
    after_of_blanks hfront, findFrom_append, hpassed hback]
  simp [Text.strip]

/-- Blanks behind a text go to its last piece. -/
theorem exists_piecesFrom_append (hblank : Text.isBlank delimiter = false) {pad : Text}
    (hpad : ∀ c ∈ pad, Text.isBlank c = true) (t : Text) : ∀ quoted, ∃ front last,
    piecesFrom delimiter quoted t = front ++ [last] ∧
      piecesFrom delimiter quoted (t ++ pad) = front ++ [last ++ pad] := by
  induction t with
  | nil =>
    intro quoted
    refine ⟨[], [], rfl, ?_⟩
    induction pad generalizing quoted with
    | nil => rfl
    | cons c cs ih =>
      obtain ⟨hc, hcs⟩ := List.forall_mem_cons.mp hpad
      have hkeep : ¬(c ≠ quote ∧ quoted = false ∧ c = delimiter) := fun hcut =>
        ne_of_isBlank hc hblank hcut.2.2
      rw [List.nil_append, piecesFrom, if_neg hkeep]
      exact congrArg (consPiece c) (ih hcs _)
  | cons c cs ih =>
    intro quoted
    rw [List.cons_append, piecesFrom, piecesFrom]
    split
    · obtain ⟨front, last, hcut, hpadded⟩ := ih quoted
      exact ⟨[] :: front, last, by rw [hcut]; rfl, by rw [hpadded]; rfl⟩
    · obtain ⟨front, last, hcut, hpadded⟩ := ih (afterChar quoted c)
      rw [hcut, hpadded]
      cases front with
      | nil => exact ⟨[], c :: last, rfl, rfl⟩
      | cons first front => exact ⟨(c :: first) :: front, last, rfl, rfl⟩

/-- As all pieces are stripped, it does not matter whether the text was. -/
theorem map_strip_piecesFrom_strip (hdelimiter : delimiter ≠ quote)
    (hblank : Text.isBlank delimiter = false) (t : Text) :
    (piecesFrom delimiter false (Text.strip t)).map Text.strip =
      (piecesFrom delimiter false t).map Text.strip := by
  obtain ⟨front, back, ht, hfront, hback⟩ := Text.exists_stripOf_append Text.isBlank t
  have hpassed : findFrom (· == delimiter) false front = none :=
    findFrom_eq_none_of_forall (fun c hc => beq_false_of_ne (ne_of_isBlank (hfront c hc) hblank)) _
  obtain ⟨outer, last, hcut, hpadded⟩ := exists_piecesFrom_append hblank hback (Text.strip t) false
  have hlast : Text.strip (last ++ back) = Text.strip last := Text.stripOf_append hback
  have hbehind : (piecesFrom delimiter false (Text.strip t ++ back)).map Text.strip =
      (piecesFrom delimiter false (Text.strip t)).map Text.strip := by
    rw [hcut, hpadded, List.map_append, List.map_append, List.map_singleton, List.map_singleton, hlast]
  conv_rhs => rw [ht]
  rw [piecesFrom_append hdelimiter _ _ _ hpassed, after_of_blanks hfront, ← hbehind]
  obtain ⟨first, rest, hfirst⟩ :=
    List.exists_cons_of_ne_nil (piecesFrom_ne_nil delimiter false (Text.strip t ++ back))
  have hstrip : Text.strip (front ++ first) = Text.strip first := Text.stripOf_pad_left hfront
  rw [show Text.stripOf Text.isBlank t = Text.strip t from rfl, hfirst, foldr_consPiece, List.map_cons,
    List.map_cons, hstrip]

theorem pieces_strip (t : Text) (delimiter : Char) :
    Quoting.pieces (Text.strip t) delimiter = Quoting.pieces t delimiter := by
  rw [Quoting.pieces, Text.strip_strip, Quoting.pieces]

theorem pieces_of_blank (h : Text.strip t = []) (delimiter : Char) : Quoting.pieces t delimiter = [] := by
  rw [Quoting.pieces, h]
  rfl

/-- A text that is not blank has its pieces, stripped. -/
theorem pieces_eq (hdelimiter : delimiter ≠ quote) (hblank : Text.isBlank delimiter = false)
    (h : Text.strip t ≠ []) :
    Quoting.pieces t delimiter = (piecesFrom delimiter false t).map Text.strip := by
  have hnot : (Text.strip t).isEmpty = false := List.isEmpty_eq_false_iff.mpr h
  simp only [Quoting.pieces, hnot, Bool.false_eq_true, if_false]
  exact map_strip_piecesFrom_strip hdelimiter hblank t

end ErDiagram.Quoting

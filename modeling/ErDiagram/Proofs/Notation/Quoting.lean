import ErDiagram.Notation.Quoting
import ErDiagram.Proofs.Text.Blank

set_option autoImplicit false

/-!
# Double quotes hide what stands between them

A text hides a class of characters if a search from an unquoted position finds none of the class in it
and leaves it at an unquoted position.  A text between double quotes hides everything, plain characters
outside the class hide it as well, and hiding texts in a row hide it again.  Searches and cuts of the
notation therefore treat a hiding text as one block, whatever it holds.
-/

namespace ErDiagram.Quoting

variable {p : Char → Bool} {s t : Text}

/-! ## Searching -/

@[simp] theorem after_nil (quoted : Bool) : after quoted [] = quoted := rfl

theorem after_append (quoted : Bool) (s t : Text) :
    after quoted (s ++ t) = after (after quoted s) t :=
  List.foldl_append

/-- A search goes through the first text, and then from its end through the second. -/
theorem findFrom_append (p : Char → Bool) (s t : Text) :
    ∀ quoted, findFrom p quoted (s ++ t) =
      (findFrom p quoted s).or ((findFrom p (after quoted s) t).map (· + s.length)) := by
  induction s with
  | nil =>
    intro quoted
    simp [findFrom]
  | cons c cs ih =>
    intro quoted
    rw [List.cons_append, findFrom, findFrom]
    split
    · rfl
    · rw [ih]
      change _ = ((findFrom p (afterChar quoted c) cs).map (· + 1)).or
        ((findFrom p (after (afterChar quoted c) cs) t).map (· + (cs.length + 1)))
      cases findFrom p (afterChar quoted c) cs with
      | some n => rfl
      | none => simp [Function.comp_def, Nat.add_assoc]

/-- A search stops where it has passed everything in front and stands at an unquoted character of the
class. -/
theorem findFrom_eq_some_iff (p : Char → Bool) (t : Text) : ∀ quoted n,
    findFrom p quoted t = some n ↔ findFrom p quoted (t.take n) = none ∧
      after quoted (t.take n) = false ∧ ∃ c, t[n]? = some c ∧ p c = true := by
  induction t with
  | nil =>
    intro quoted n
    simp [findFrom]
  | cons d ds ih =>
    intro quoted n
    cases n with
    | zero => cases quoted <;> cases hd : p d <;> simp [findFrom, hd]
    | succ n =>
      have hafter : after quoted (d :: ds.take n) = after (afterChar quoted d) (ds.take n) := rfl
      rw [List.take_succ_cons, List.getElem?_cons_succ, hafter, findFrom, findFrom]
      split
      · simp
      · rw [Option.map_eq_none_iff, ← ih]
        simp

theorem findFrom_lt_length {quoted : Bool} {n : Nat} (h : findFrom p quoted t = some n) :
    n < t.length := by
  obtain ⟨-, -, c, hc, -⟩ := (findFrom_eq_some_iff p t quoted n).mp h
  exact (List.getElem?_eq_some_iff.mp hc).1

/-- From an unquoted position, no unquoted character of the class stands in the text, and the position
behind the text is unquoted. -/
structure Hides (p : Char → Bool) (t : Text) : Prop where
  find_eq : findFrom p false t = none
  after_eq : after false t = false

theorem hides_nil : Hides p [] := ⟨rfl, rfl⟩

theorem Hides.append (hs : Hides p s) (ht : Hides p t) : Hides p (s ++ t) := by
  constructor
  · rw [findFrom_append, hs.find_eq, hs.after_eq, ht.find_eq]
    rfl
  · rw [after_append, hs.after_eq, ht.after_eq]

/-- Plain characters outside the class hide it. -/
theorem hides_of_plain (h : ∀ c ∈ t, c ≠ quote ∧ p c = false) : Hides p t := by
  induction t with
  | nil => exact hides_nil
  | cons c cs ih =>
    obtain ⟨hquote, hclass⟩ := h c List.mem_cons_self
    have hrest := ih fun d hd => h d (List.mem_cons_of_mem c hd)
    have hafter : afterChar false c = false := if_neg hquote
    constructor
    · rw [findFrom, hclass, hafter, hrest.find_eq]
      rfl
    · change after (afterChar false c) cs = false
      rw [hafter, hrest.after_eq]

theorem hides_singleton {c : Char} (hquote : c ≠ quote) (hclass : p c = false) : Hides p [c] :=
  hides_of_plain (List.forall_mem_singleton.mpr ⟨hquote, hclass⟩)

theorem hides_blank (hblank : p ' ' = false) : Hides p [' '] :=
  hides_singleton (by decide) hblank

/-- A mark with a blank behind it hides what neither of them is. -/
theorem hides_separator {c : Char} (hquote : c ≠ quote) (hclass : p c = false)
    (hblank : p ' ' = false) : Hides p [c, ' '] :=
  (hides_singleton hquote hclass).append (hides_blank hblank)

/-- Hiding texts joined by a hiding separator hide. -/
theorem Hides.join {separator : Text} (hseparator : Hides p separator) {pieces : List Text}
    (h : ∀ piece ∈ pieces, Hides p piece) : Hides p (Text.join separator pieces) := by
  induction pieces with
  | nil => exact hides_nil
  | cons piece rest ih =>
    have hpiece := h piece List.mem_cons_self
    have hrest := ih fun t ht => h t (List.mem_cons_of_mem _ ht)
    cases rest with
    | nil =>
      rw [Text.join_singleton]
      exact hpiece
    | cons next rest =>
      rw [Text.join_cons_cons]
      exact hpiece.append (hseparator.append hrest)

/-! ## Texts between double quotes -/

/-- The text between double quotes. -/
def enquote (t : Text) : Text := quote :: t ++ [quote]

theorem after_of_not_mem (h : quote ∉ t) (quoted : Bool) : after quoted t = quoted := by
  induction t generalizing quoted with
  | nil => rfl
  | cons c cs ih =>
    rw [List.mem_cons, not_or] at h
    change after (afterChar quoted c) cs = quoted
    rw [ih h.2, afterChar, if_neg (Ne.symm h.1)]

theorem findFrom_quoted (h : quote ∉ t) : findFrom p true t = none := by
  induction t with
  | nil => rfl
  | cons c cs ih =>
    rw [List.mem_cons, not_or] at h
    have hafter : afterChar true c = true := if_neg (Ne.symm h.1)
    rw [findFrom, hafter, ih h.2]
    rfl

/-- Between double quotes everything is hidden but the double quote. -/
theorem hides_enquote (hclass : p quote = false) (h : quote ∉ t) : Hides p (enquote t) := by
  have hopen : afterChar false quote = true := rfl
  have hclose : afterChar true quote = false := rfl
  constructor
  · rw [enquote, List.cons_append, findFrom, hclass, hopen, findFrom_append, findFrom_quoted h,
      after_of_not_mem h]
    rfl
  · rw [enquote, after_append]
    change after (after (afterChar false quote) t) [quote] = false
    rw [hopen, after_of_not_mem h]
    exact hclose

theorem getLast?_enquote (t : Text) : (enquote t).getLast? = some quote :=
  List.getLast?_concat

@[simp] theorem startsWith_enquote (t : Text) (c : Char) :
    (enquote t).startsWith c = (quote == c) :=
  Text.startsWith_cons quote _ c

@[simp] theorem endsWith_enquote (t : Text) (c : Char) :
    (enquote t).endsWith c = (quote == c) :=
  Text.endsWith_concat (quote :: t) quote c

theorem isQuoted_enquote (t : Text) : isQuoted (enquote t) = true := by
  have hfirst : (enquote t).startsWith quote = true := by simp
  have hlast : (enquote t).endsWith quote = true := by simp
  have hlength : 2 ≤ (enquote t).length := by simp [enquote]
  simp [isQuoted, hfirst, hlast, hlength]

/-- Unquoting gives back what was put between double quotes. -/
theorem unquote_enquote (t : Text) : unquote (enquote t) = t := by
  rw [unquote, if_pos (isQuoted_enquote t), enquote, Text.inner, List.cons_append, List.tail_cons,
    List.dropLast_concat]

theorem enquote_ne_nil (t : Text) : enquote t ≠ [] := List.cons_ne_nil _ _

theorem trimmed_enquote (hclass : p quote = false) (t : Text) : Text.Trimmed p (enquote t) := by
  constructor
  · intro c hc
    cases hc
    exact hclass
  · intro c hc
    rw [getLast?_enquote, Option.some.injEq] at hc
    exact hc ▸ hclass

/-! ## Words and marks -/

/-- A letter, a digit or a dash: what stands in the words of the notation. -/
def isWord (c : Char) : Bool := c.isAlphanum || c == '-'

/-- The class holds marks alone: neither the double quote nor what stands in words. -/
structure IsMarks (p : Char → Bool) : Prop where
  quote : p quote = false
  word : ∀ c, isWord c = true → p c = false

theorem isMarks_beq {mark : Char} (hquote : mark ≠ quote) (hword : isWord mark = false) :
    IsMarks (· == mark) := by
  refine ⟨beq_false_of_ne hquote.symm, fun c hc => beq_false_of_ne ?_⟩
  rintro rfl
  rw [hc] at hword
  cases hword

theorem toNat_of_isWord {c : Char} (h : isWord c = true) :
    c.toNat = 45 ∨ (48 ≤ c.toNat ∧ c.toNat ≤ 57) ∨ (65 ≤ c.toNat ∧ c.toNat ≤ 90) ∨
      (97 ≤ c.toNat ∧ c.toNat ≤ 122) := by
  rcases Bool.or_eq_true_iff.mp h with hplain | hdash
  · rcases Bool.or_eq_true_iff.mp hplain with hletter | hdigit
    · rcases Bool.or_eq_true_iff.mp hletter with hupper | hlower
      · obtain ⟨hlow, hhigh⟩ := of_decide_eq_true hupper
        exact .inr (.inr (.inl ⟨hlow, hhigh⟩))
      · obtain ⟨hlow, hhigh⟩ := Bool.and_eq_true_iff.mp hlower
        exact .inr (.inr (.inr ⟨of_decide_eq_true hlow, of_decide_eq_true hhigh⟩))
    · obtain ⟨hlow, hhigh⟩ := Bool.and_eq_true_iff.mp hdigit
      exact .inr (.inl ⟨of_decide_eq_true hlow, of_decide_eq_true hhigh⟩)
  · rw [beq_iff_eq.mp hdash]
    exact .inl rfl

theorem isMarks_isBlank : IsMarks Text.isBlank := by
  refine ⟨by decide, fun c hc => ?_⟩
  have hcode := toNat_of_isWord hc
  unfold Text.isBlank
  generalize c.toNat = n at hcode
  simp only [Bool.or_eq_false_iff, Bool.and_eq_false_iff, decide_eq_false_iff_not,
    beq_eq_false_iff_ne]
  omega

theorem hides_word (hp : IsMarks p) (h : ∀ c ∈ t, isWord c = true) : Hides p t := by
  refine hides_of_plain fun c hc => ⟨?_, hp.word c (h c hc)⟩
  rintro rfl
  exact absurd (h quote hc) (by decide)

theorem trimmed_word (hp : IsMarks p) (h : ∀ c ∈ t, isWord c = true) : Text.Trimmed p t :=
  ⟨fun c hc => hp.word c (h c (List.mem_of_head? hc)),
    fun c hc => hp.word c (h c (List.mem_of_getLast? hc))⟩

/-! ## Blanks -/

theorem ne_of_isBlank {c d : Char} (hc : Text.isBlank c = true) (hd : Text.isBlank d = false) :
    c ≠ d := by
  rintro rfl
  rw [hc] at hd
  cases hd

theorem quote_not_mem_of_blank (h : ∀ c ∈ t, Text.isBlank c = true) : quote ∉ t := fun hmem =>
  ne_of_isBlank (h _ hmem) isMarks_isBlank.quote rfl

/-- Blanks are no double quotes. -/
theorem after_of_blanks (h : ∀ c ∈ t, Text.isBlank c = true) (quoted : Bool) :
    after quoted t = quoted :=
  after_of_not_mem (quote_not_mem_of_blank h) quoted

theorem after_strip (t : Text) (quoted : Bool) : after quoted (Text.strip t) = after quoted t := by
  obtain ⟨front, back, ht, hfront, hback⟩ := Text.exists_stripOf_append Text.isBlank t
  conv_rhs => rw [ht]
  rw [after_append, after_append, after_of_blanks hfront, after_of_blanks hback]
  rfl

/-! ## Cutting -/

theorem isPrefix_removeComment (t : Text) : removeComment t <+: t := by
  unfold removeComment
  split
  · exact List.prefix_rfl
  · exact List.take_prefix _ _

theorem removeComment_of_index?_none (h : index? t commentMark = none) : removeComment t = t := by
  rw [removeComment, h]

theorem removeComment_of_hides (h : Hides (· == commentMark) t) : removeComment t = t :=
  removeComment_of_index?_none h.find_eq

/-- None of several characters is found exactly if no search for one of them succeeds. -/
theorem firstChar?_eq_none_iff {chars : List Char} :
    firstChar? t chars = none ↔ ∀ c ∈ chars, findFrom (· == c) false t = none := by
  constructor
  · intro h
    rw [firstChar?, Option.bind_eq_none_iff] at h
    by_contra hsome
    have hne : chars.filterMap (index? t) ≠ [] := by
      intro hnil
      exact hsome fun c hc => List.filterMap_eq_nil_iff.mp hnil c hc
    obtain ⟨n, hn⟩ := Option.ne_none_iff_exists'.mp (mt List.min?_eq_none_iff.mp hne)
    obtain ⟨c, -, hfound⟩ := List.mem_filterMap.mp (List.min?_mem hn)
    obtain ⟨-, -, d, hd, -⟩ := (findFrom_eq_some_iff _ _ _ _).mp hfound
    rw [h n hn] at hd
    cases hd
  · intro h
    have hnone : chars.filterMap (index? t) = [] := List.filterMap_eq_nil_iff.mpr h
    rw [firstChar?, firstIndex?, hnone]
    rfl

/-- No character of several is found in a text that hides them. -/
theorem firstChar?_of_hides {chars : List Char} (h : ∀ c ∈ chars, Hides (· == c) t) :
    firstChar? t chars = none :=
  firstChar?_eq_none_iff.mpr fun c hc => (h c hc).find_eq

theorem foldr_consPiece (s piece : Text) (rest : List Text) :
    s.foldr consPiece (piece :: rest) = (s ++ piece) :: rest := by
  induction s with
  | nil => rfl
  | cons c cs ih =>
    rw [List.foldr_cons, ih]
    rfl

theorem piecesFrom_append {delimiter : Char} (hdelimiter : delimiter ≠ quote) (s t : Text) :
    ∀ quoted, findFrom (· == delimiter) quoted s = none →
      piecesFrom delimiter quoted (s ++ t) =
        s.foldr consPiece (piecesFrom delimiter (after quoted s) t) := by
  induction s with
  | nil =>
    intro quoted _
    rfl
  | cons c cs ih =>
    intro quoted h
    rw [findFrom] at h
    split at h
    · cases h
    · rename_i hclass
      have hkeep : ¬(c ≠ quote ∧ quoted = false ∧ c = delimiter) := by
        rintro ⟨-, rfl, rfl⟩
        simp at hclass
      rw [List.cons_append, piecesFrom, if_neg hkeep, List.foldr_cons]
      exact congrArg (consPiece c) (ih _ (Option.map_eq_none_iff.mp h))

/-- A text that hides the delimiter is one piece. -/
theorem piecesFrom_of_hides {delimiter : Char} (hdelimiter : delimiter ≠ quote)
    (h : Hides (· == delimiter) t) : piecesFrom delimiter false t = [t] := by
  have happend := piecesFrom_append hdelimiter t [] false h.find_eq
  rw [List.append_nil] at happend
  rw [happend]
  exact (foldr_consPiece t [] []).trans (by rw [List.append_nil])

/-- A text that hides the delimiter is cut off at the delimiter behind it. -/
theorem piecesFrom_hides_delimiter {delimiter : Char} (hdelimiter : delimiter ≠ quote)
    (h : Hides (· == delimiter) s) (t : Text) :
    piecesFrom delimiter false (s ++ delimiter :: t) = s :: piecesFrom delimiter false t := by
  rw [piecesFrom_append hdelimiter s _ false h.find_eq, h.after_eq, piecesFrom,
    if_pos ⟨hdelimiter, rfl, rfl⟩, foldr_consPiece, List.append_nil]

/-! ## Joining -/

variable {delimiter : Char}

/-- Pieces that hide the delimiter, joined by it and a blank, fall apart at the delimiters. -/
theorem piecesFrom_join (hdelimiter : delimiter ≠ quote) (hblank : (' ' == delimiter) = false)
    {pieces : List Text} :
    ∀ {piece : Text}, (∀ t ∈ piece :: pieces, Hides (· == delimiter) t) →
      piecesFrom delimiter false (Text.join [delimiter, ' '] (piece :: pieces)) =
        piece :: pieces.map ([' '] ++ ·) := by
  induction pieces with
  | nil =>
    intro piece h
    rw [Text.join_singleton]
    exact piecesFrom_of_hides hdelimiter (h piece List.mem_cons_self)
  | cons next rest ih =>
    intro piece h
    have hrest := ih fun t ht => h t (List.mem_cons_of_mem _ ht)
    have hgap : Hides (· == delimiter) [' '] := hides_blank hblank
    have hcut := piecesFrom_hides_delimiter hdelimiter (h piece List.mem_cons_self)
      ([' '] ++ Text.join [delimiter, ' '] (next :: rest))
    rw [piecesFrom_append hdelimiter [' '] _ false hgap.find_eq, hgap.after_eq, hrest,
      foldr_consPiece] at hcut
    rw [Text.join_cons_cons]
    exact hcut

/-- Trimmed pieces that hide the delimiter come back from the text that joins them by the delimiter and
a blank. -/
theorem pieces_join (hdelimiter : delimiter ≠ quote) (hblank : (' ' == delimiter) = false)
    {texts : List Text}
    (h : ∀ t ∈ texts, t ≠ [] ∧ Text.Trimmed Text.isBlank t ∧ Hides (· == delimiter) t) :
    pieces (Text.join [delimiter, ' '] texts) delimiter = texts := by
  obtain ⟨htrimmed, hne⟩ := @Text.trimmed_join Text.isBlank [delimiter, ' '] texts
    fun t ht => ⟨(h t ht).1, (h t ht).2.1⟩
  have hstrip : Text.strip (Text.join [delimiter, ' '] texts) = Text.join [delimiter, ' '] texts :=
    Text.stripOf_eq_self htrimmed
  cases texts with
  | nil => rfl
  | cons piece rest =>
    have hnot : (Text.join [delimiter, ' '] (piece :: rest)).isEmpty = false := by
      rw [List.isEmpty_eq_false_iff]
      exact hne (List.cons_ne_nil _ _)
    have hself : Text.strip piece = piece :=
      Text.stripOf_eq_self (h piece List.mem_cons_self).2.1
    have hothers : ∀ t ∈ rest, (Text.strip ∘ ([' '] ++ ·)) t = t := by
      intro t ht
      change Text.stripOf Text.isBlank ([' '] ++ t) = t
      rw [Text.stripOf_pad_left (List.forall_mem_singleton.mpr rfl)]
      exact Text.stripOf_eq_self (h t (List.mem_cons_of_mem _ ht)).2.1
    simp only [pieces, hstrip, hnot, Bool.false_eq_true, if_false]
    rw [piecesFrom_join hdelimiter hblank fun t ht => (h t ht).2.2, List.map_cons, List.map_map,
      hself, List.map_congr_left hothers, List.map_id']

end ErDiagram.Quoting

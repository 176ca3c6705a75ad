import ErDiagram.Proofs.Notation.Pieces

set_option autoImplicit false

/-!
# Searches and cuts by counted double quotes

Searches and cuts each carry a flag of their own through a text, and they read it alike: a position
counts for them if an even number of double quotes stands in front of it.  So a search finds the least
position that shows what is sought, and a search for several characters at once finds the same as one
search for each of them.  A text without its comment is its longest beginning that shows no comment
mark, and the pieces of a text are what stands between the positions that show the delimiter.
-/

namespace ErDiagram.Quoting

variable {p : Char → Bool} {s t : Text} {n : Nat} {c delimiter : Char} {pieces : List Text}

/-! ## The least position -/

/-- The least position at which the text shows a character of the class, if there is one. -/
def IsFirst (p : Char → Bool) (t : Text) : Option Nat → Prop
  | none => ∀ k c, ShowsAt t k c → p c = false
  | some n => (∃ c, ShowsAt t n c ∧ p c = true) ∧ ∀ k c, ShowsAt t k c → p c = true → n ≤ k

theorem IsFirst.unique {found found' : Option Nat} (h : IsFirst p t found) (h' : IsFirst p t found') :
    found = found' := by
  cases found with
  | none =>
    cases found' with
    | none => rfl
    | some n =>
      obtain ⟨⟨c, hshows, hc⟩, -⟩ := h'
      rw [h n c hshows] at hc
      cases hc
  | some n =>
    obtain ⟨⟨c, hshows, hc⟩, hleast⟩ := h
    cases found' with
    | none =>
      rw [h' n c hshows] at hc
      cases hc
    | some m =>
      obtain ⟨⟨d, hshows', hd⟩, hleast'⟩ := h'
      exact congrArg some (le_antisymm (hleast m d hshows' hd) (hleast' n c hshows hc))

/-- In front of a position, a text shows what its beginning up to there shows. -/
theorem showsAt_take_iff {k : Nat} (hk : k < n) : ShowsAt (t.take n) k c ↔ ShowsAt t k c := by
  rw [ShowsAt, ShowsAt, List.getElem?_take_of_lt hk, IsUnquoted, IsUnquoted, List.take_take,
    min_eq_left hk.le]

/-- A search from the beginning finds the least position. -/
theorem isFirst_findFrom (p : Char → Bool) (t : Text) : IsFirst p t (findFrom p false t) := by
  cases hfound : findFrom p false t with
  | none => exact not_shows_iff.mp hfound
  | some n =>
    obtain ⟨hfront, hafter, c, hc, hclass⟩ := (findFrom_eq_some_iff p t false n).mp hfound
    refine ⟨⟨c, ⟨hc, isUnquoted_iff.mpr hafter⟩, hclass⟩, ?_⟩
    intro k d hshows hd
    by_contra hlt
    have hnone := not_shows_iff.mp hfront k d ((showsAt_take_iff (Nat.lt_of_not_le hlt)).mpr hshows)
    rw [hnone] at hd
    cases hd

theorem isFirst_index? (t : Text) (c : Char) : IsFirst (· == c) t (index? t c) :=
  isFirst_findFrom (· == c) t

/-- The least of the positions that are found for several characters is the least position that shows
one of them. -/
theorem isFirst_firstIndex? (t : Text) (chars : List Char) :
    IsFirst chars.contains t (firstIndex? t chars) := by
  cases hfound : firstIndex? t chars with
  | none =>
    have hnil : chars.filterMap (index? t) = [] := List.min?_eq_none_iff.mp hfound
    intro k c hshows
    by_contra hc
    rw [Bool.not_eq_false, List.contains_iff_mem] at hc
    exact not_showsAt_iff.mp (List.filterMap_eq_nil_iff.mp hnil c hc) k hshows
  | some n =>
    obtain ⟨hmem, hleast⟩ := List.min?_eq_some_iff.mp hfound
    obtain ⟨c, hc, hindex⟩ := List.mem_filterMap.mp hmem
    have hfirst := isFirst_index? t c
    rw [hindex] at hfirst
    obtain ⟨⟨d, hshows, hd⟩, -⟩ := hfirst
    obtain rfl := beq_iff_eq.mp hd
    refine ⟨⟨d, hshows, List.contains_iff_mem.mpr hc⟩, ?_⟩
    intro k e hshows' he
    have hother := isFirst_index? t e
    cases hindex' : index? t e with
    | none => exact absurd hshows' (not_showsAt_iff.mp hindex' k)
    | some m =>
      rw [hindex'] at hother
      have hm : m ∈ chars.filterMap (index? t) :=
        List.mem_filterMap.mpr ⟨e, List.contains_iff_mem.mp he, hindex'⟩
      exact (hleast m hm).trans (hother.2 k e hshows' (beq_self_eq_true e))

/-- Searching for each of several characters finds what one search for all of them finds. -/
theorem firstIndex?_eq_findFrom (t : Text) (chars : List Char) :
    firstIndex? t chars = findFrom chars.contains false t :=
  (isFirst_firstIndex? t chars).unique (isFirst_findFrom chars.contains t)

/-- The first unquoted character out of several is what the text shows at the least position. -/
theorem firstChar?_eq_some_iff {chars : List Char} :
    firstChar? t chars = some c ↔ ∃ n, firstIndex? t chars = some n ∧ ShowsAt t n c := by
  rw [firstChar?, Option.bind_eq_some_iff]
  refine exists_congr fun n => and_congr_right fun hfound => ?_
  have hfirst := isFirst_firstIndex? t chars
  rw [hfound] at hfirst
  obtain ⟨⟨d, hshows, -⟩, -⟩ := hfirst
  exact (and_iff_left hshows.2).symm

/-! ## Comments -/

/-- The longest beginning of the text that shows no comment mark. -/
structure IsUncommented (t code : Text) : Prop where
  begins : code <+: t
  clean : ∀ n, ¬ ShowsAt code n commentMark
  longest : ∀ s, s <+: t → (∀ n, ¬ ShowsAt s n commentMark) → s <+: code

theorem removeComment_of_index?_some (h : index? t commentMark = some n) :
    removeComment t = t.take n := by
  rw [removeComment, h]

theorem isUncommented_removeComment (t : Text) : IsUncommented t (removeComment t) := by
  cases hfound : index? t commentMark with
  | none =>
    rw [removeComment_of_index?_none hfound]
    exact ⟨List.prefix_rfl, not_showsAt_iff.mp hfound, fun s hs _ => hs⟩
  | some n =>
    obtain ⟨hfront, hafter, c, hc, hmark⟩ := (findFrom_eq_some_iff _ t false n).mp hfound
    obtain rfl := beq_iff_eq.mp hmark
    rw [removeComment_of_index?_some hfound]
    refine ⟨List.take_prefix n t, not_showsAt_iff.mp hfront, ?_⟩
    intro s hs hclean
    refine List.prefix_take_iff.mpr ⟨hs, ?_⟩
    obtain ⟨rest, rfl⟩ := hs
    -- a longer beginning would show the mark at which the search has stopped
    by_contra hlong
    have hshows := (showsAt_append_left (Nat.lt_of_not_le hlong) rest _).mp
      ⟨hc, isUnquoted_iff.mpr hafter⟩
    exact hclean n hshows

/-- A text without its comment has none. -/
theorem removeComment_removeComment (t : Text) :
    removeComment (removeComment t) = removeComment t :=
  removeComment_of_index?_none (not_showsAt_iff.mpr (isUncommented_removeComment t).clean)

/-! ## Segments -/

/-- The positions at which the text shows the character, in order. -/
def shownPositions (t : Text) (c : Char) : List Nat :=
  (List.range t.length).filter fun n => ShowsAt t n c

/-- What stands from one position of a text up to another. -/
def between (t : Text) (start stop : Nat) : Text := (t.take stop).drop start

/-- What stands between consecutive positions that show the delimiter; the first segment begins with the
text and the last one ends with it. -/
def segments (t : Text) (delimiter : Char) : List Text :=
  let cuts := shownPositions t delimiter
  List.zipWith (between t) (0 :: cuts.map (· + 1)) (cuts ++ [t.length])

theorem length_segments (t : Text) (delimiter : Char) :
    (segments t delimiter).length = (shownPositions t delimiter).length + 1 := by
  simp [segments]

theorem between_append (s t : Text) (start stop : Nat) :
    between (s ++ t) (s.length + start) (s.length + stop) = between t start stop := by
  rw [between, List.take_length_add_append, List.drop_length_add_append, between]

theorem shownPositions_eq_nil (h : findFrom (· == c) false t = none) : shownPositions t c = [] := by
  rw [shownPositions, List.filter_eq_nil_iff]
  intro n _ hshows
  exact not_showsAt_iff.mp h n (of_decide_eq_true hshows)

@[simp] theorem shownPositions_singleton (c : Char) : shownPositions [c] c = [0] :=
  List.filter_cons_of_pos (decide_eq_true (showsAt_zero_cons c []))

/-- Behind a text with balanced double quotes, the positions of the rest are moved by its length. -/
theorem shownPositions_append (h : after false s = false) (t : Text) (c : Char) :
    shownPositions (s ++ t) c = shownPositions s c ++ (shownPositions t c).map (s.length + ·) := by
  have hfront : ∀ n ∈ List.range s.length, decide (ShowsAt (s ++ t) n c) = decide (ShowsAt s n c) := by
    intro n hn
    exact decide_eq_decide.mpr (showsAt_append_left (List.mem_range.mp hn) t c)
  have hback : ∀ k ∈ List.range t.length,
      decide (ShowsAt (s ++ t) (s.length + k) c) = decide (ShowsAt t k c) := by
    intro k _
    exact decide_eq_decide.mpr (showsAt_append_right h t k c)
  rw [shownPositions, List.length_append, List.range_add, List.filter_append, List.filter_map,
    List.filter_congr hfront]
  exact congrArg (shownPositions s c ++ List.map (s.length + ·) ·) (List.filter_congr hback)

/-- A text that shows no delimiter is one segment. -/
theorem segments_of_not_shown (h : findFrom (· == delimiter) false t = none) :
    segments t delimiter = [t] := by
  simp [segments, shownPositions_eq_nil h, between]

/-- A delimiter behind a text that shows none ends the first segment. -/
theorem segments_append_cons (hdelimiter : delimiter ≠ quote)
    (hfind : findFrom (· == delimiter) false s = none) (hafter : after false s = false) (t : Text) :
    segments (s ++ delimiter :: t) delimiter = s :: segments t delimiter := by
  have hmark : after false [delimiter] = false := if_neg hdelimiter
  have hcuts : shownPositions (s ++ delimiter :: t) delimiter =
      s.length :: (shownPositions t delimiter).map (s.length + 1 + ·) := by
    rw [shownPositions_append hafter, shownPositions_eq_nil hfind, ← List.singleton_append (l := t),
      shownPositions_append hmark]
    simp [Function.comp_def, Nat.add_assoc]
  -- behind the delimiter all bounds are those of the rest, moved by what stands in front
  have hstarts : (shownPositions (s ++ delimiter :: t) delimiter).map (· + 1) =
      (0 :: (shownPositions t delimiter).map (· + 1)).map (s.length + 1 + ·) := by
    simp [hcuts, Function.comp_def, Nat.add_assoc]
  have hstops : shownPositions (s ++ delimiter :: t) delimiter ++ [(s ++ delimiter :: t).length] =
      s.length :: (shownPositions t delimiter ++ [t.length]).map (s.length + 1 + ·) := by
    simp [hcuts, Nat.add_assoc, Nat.add_comm 1]
  have hfirst : between (s ++ delimiter :: t) 0 s.length = s := List.take_left
  have hbetween : ∀ start stop, between (s ++ delimiter :: t) (s.length + 1 + start)
      (s.length + 1 + stop) = between t start stop := by
    intro start stop
    simpa using between_append (s ++ [delimiter]) t start stop
  rw [segments, hstarts, hstops, List.zipWith_cons_cons, hfirst, List.zipWith_map]
  simp only [hbetween]
  rfl

/-- Pieces as a cut leaves them are the segments of the text that joins them. -/
theorem CutFrom.segments_join (hdelimiter : delimiter ≠ quote)
    (h : CutFrom delimiter false pieces) :
    segments (Text.join [delimiter] pieces) delimiter = pieces := by
  induction pieces with
  | nil => exact absurd rfl h.ne_nil
  | cons t rest ih =>
    cases h with
    | last hfind =>
      rw [Text.join_singleton]
      exact segments_of_not_shown hfind
    | cons hfind hafter hrest =>
      rw [join_cons_of_ne_nil hrest.ne_nil, segments_append_cons hdelimiter hfind hafter, ih hrest]

/-- A cut at the delimiter leaves the segments. -/
theorem piecesFrom_eq_segments (hdelimiter : delimiter ≠ quote) (t : Text) :
    piecesFrom delimiter false t = segments t delimiter := by
  have hsegments := (cutFrom_piecesFrom hdelimiter t false).segments_join hdelimiter
  rw [join_piecesFrom] at hsegments
  exact hsegments.symm

/-- All pieces but the last have their double quotes in pairs. -/
theorem CutFrom.count_quote_dropLast (h : CutFrom delimiter false pieces) :
    ∀ piece ∈ pieces.dropLast, piece.count quote % 2 = 0 := by
  induction pieces with
  | nil => exact absurd rfl h.ne_nil
  | cons t rest ih =>
    cases h with
    | last _ => simp
    | cons _ hafter hrest =>
      rw [List.dropLast_cons_of_ne_nil hrest.ne_nil]
      exact List.forall_mem_cons.mpr ⟨after_eq_false_iff.mp hafter, ih hrest⟩

/-- The pieces of a text that is not blank are the segments of the stripped text, themselves stripped. -/
theorem pieces_eq_map_segments (hdelimiter : delimiter ≠ quote) (h : Text.strip t ≠ []) :
    Quoting.pieces t delimiter = (segments (Text.strip t) delimiter).map Text.strip := by
  have hnot : (Text.strip t).isEmpty = false := List.isEmpty_eq_false_iff.mpr h
  simp only [Quoting.pieces, hnot, Bool.false_eq_true, if_false]
  rw [piecesFrom_eq_segments hdelimiter]

/-- Stripping the pieces takes no double quote away. -/
theorem count_quote_pieces_dropLast (hdelimiter : delimiter ≠ quote) (h : Text.strip t ≠ []) :
    ∀ piece ∈ (Quoting.pieces t delimiter).dropLast, piece.count quote % 2 = 0 := by
  intro piece hpiece
  rw [pieces_eq_map_segments hdelimiter h, ← piecesFrom_eq_segments hdelimiter, ← List.map_dropLast,
    List.mem_map] at hpiece
  obtain ⟨raw, hraw, rfl⟩ := hpiece
  rw [← after_eq_false_iff, after_strip, after_eq_false_iff]
  exact (cutFrom_piecesFrom hdelimiter _ false).count_quote_dropLast raw hraw

/-! ## One notion of a quoted position -/

/-- What searches and cuts find in a text, told by the positions that stand behind an even number of
double quotes. -/
structure ReadsByParity (t : Text) : Prop where
  index : ∀ c, IsFirst (· == c) t (index? t c)
  first : ∀ chars, firstIndex? t chars = findFrom chars.contains false t ∧
    IsFirst chars.contains t (firstIndex? t chars)
  char : ∀ chars c, firstChar? t chars = some c ↔ ∃ n, firstIndex? t chars = some n ∧ ShowsAt t n c
  uncommented : IsUncommented t (removeComment t)
  idempotent : removeComment (removeComment t) = removeComment t
  pieces : ∀ delimiter, delimiter ≠ quote → Text.strip t ≠ [] →
    Quoting.pieces t delimiter = (segments (Text.strip t) delimiter).map Text.strip
  /-- one piece more than there are delimiters to cut at -/
  length : ∀ delimiter, delimiter ≠ quote → Text.strip t ≠ [] →
    (Quoting.pieces t delimiter).length = (shownPositions (Text.strip t) delimiter).length + 1
  paired : ∀ delimiter, delimiter ≠ quote → Text.strip t ≠ [] →
    ∀ piece ∈ (Quoting.pieces t delimiter).dropLast, piece.count quote % 2 = 0

/-- All searches and cuts of a text share one notion of a quoted position. -/
theorem readsByParity (t : Text) : ReadsByParity t := by
  constructor
  case index => exact isFirst_index? t
  case first => exact fun chars => ⟨firstIndex?_eq_findFrom t chars, isFirst_firstIndex? t chars⟩
  case char => exact fun _ _ => firstChar?_eq_some_iff
  case uncommented => exact isUncommented_removeComment t
  case idempotent => exact removeComment_removeComment t
  case pieces => exact fun _ hdelimiter ht => pieces_eq_map_segments hdelimiter ht
  case length =>
    intro delimiter hdelimiter ht
    rw [pieces_eq_map_segments hdelimiter ht, List.length_map, length_segments]
  case paired => exact fun _ hdelimiter ht => count_quote_pieces_dropLast hdelimiter ht

/-- A text that opens with a delimiter, quotes one together with a comment mark and ends inside double
quotes that are never closed. -/
def oddText : Text := " ;a\";#\"b ; \"c#;".toList

/-- The text is cut at the two delimiters that it shows, and a search for a double quote finds the one
that opens the first quoted run. -/
theorem readsByParity_oddText :
    ';' ≠ quote ∧ Text.strip oddText ≠ [] ∧
      Quoting.pieces oddText ';' = [[], "a\";#\"b".toList, "\"c#;".toList] ∧
      (∀ piece ∈ [[], "a\";#\"b".toList], piece.count quote % 2 = 0) ∧
      IsFirst (· == quote) oddText (some 3) ∧ IsUncommented oddText oddText := by
  have hdelimiter : ';' ≠ quote := by decide
  have hstrip : Text.strip oddText ≠ [] := by decide
  have hreads := readsByParity oddText
  have hpieces : Quoting.pieces oddText ';' = [[], "a\";#\"b".toList, "\"c#;".toList] :=
    (hreads.pieces ';' hdelimiter hstrip).trans (by decide)
  have hpaired := hreads.paired ';' hdelimiter hstrip
  rw [hpieces] at hpaired
  exact ⟨hdelimiter, hstrip, hpieces, hpaired, hreads.index quote, hreads.uncommented⟩

end ErDiagram.Quoting

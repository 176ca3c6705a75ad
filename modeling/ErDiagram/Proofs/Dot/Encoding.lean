import ErDiagram.Proofs.Dot.Escape
import ErDiagram.Proofs.Collection

set_option autoImplicit false

/-!
# Escaping is a substitution that can be undone

Passes run one after the other, so a later one could touch what an earlier one has put in.  In a label
and between double quotes none of them does, because no replacement holds a character that a later pass
looks for; the backslash goes first and the tab behind the blank for that reason.  The passes therefore
do what one substitution of all characters does.  Whatever is put in for a character is escaped
throughout, so what means something stands behind a backslash only, and a text without its escapes is
the text that was escaped, but for the tabs of a label, which have become blanks.
-/

namespace ErDiagram.Dot

variable {passes : List (Char × Text)} {shown : Char → Text} {marks : List Char} {t : Text} {c : Char}

/-! ## Substitution -/

/-- What a table puts in for a character; one that it does not hold stays. -/
def replacement (table : List (Char × Text)) (c : Char) : Text := (table.lookup c).getD [c]

/-- The characters of a text all give way at once to what a table puts in for them. -/
def substitute (table : List (Char × Text)) (t : Text) : Text := t.flatMap (replacement table)

theorem replacement_cons (pass : Char × Text) (passes : List (Char × Text)) (c : Char) :
    replacement (pass :: passes) c = if c = pass.1 then pass.2 else replacement passes c := by
  rw [replacement, Table.lookup_cons, replacement]
  split
  · rfl
  · rfl

theorem replacement_of_not_mem (h : c ∉ passes.map (·.1)) : replacement passes c = [c] := by
  rw [replacement, Table.lookup_eq_none_iff.mpr h]
  rfl

/-- A text without the characters of a table stays as it is. -/
theorem substitute_of_not_mem (h : ∀ pass ∈ passes, pass.1 ∉ t) : substitute passes t = t := by
  have hkept : ∀ c ∈ t, replacement passes c = [c] := by
    intro c hc
    refine replacement_of_not_mem fun hkey => ?_
    obtain ⟨pass, hpass, rfl⟩ := List.mem_map.mp hkey
    exact h pass hpass hc
  calc substitute passes t = t.flatMap (fun c => [c]) := List.flatMap_congr hkept
    _ = t := List.flatMap_singleton' t

/-- Passes none of which looks for what an earlier one has put in are one substitution.  The induction
is on the passes: what the first one puts in stays, and the others see all other characters. -/
theorem runPasses_eq_substitute (h : passes.Pairwise fun first later => later.1 ∉ first.2) (t : Text) :
    runPasses passes t = substitute passes t := by
  induction passes generalizing t with
  | nil => exact (substitute_of_not_mem (List.forall_mem_nil _)).symm
  | cons pass others ih =>
    obtain ⟨hpass, hothers⟩ := List.pairwise_cons.mp h
    calc runPasses (pass :: others) t
        = substitute others (Text.replaceChar pass.1 pass.2 t) := ih hothers _
      _ = t.flatMap fun c => substitute others (if c = pass.1 then pass.2 else [c]) :=
        List.flatMap_assoc
      _ = substitute (pass :: others) t := by
        refine List.flatMap_congr fun c _ => ?_
        rw [replacement_cons]
        split
        · exact substitute_of_not_mem hpass
        · exact List.append_nil _

/-- The other way round, the backslash that is put in for a double quote would be escaped. -/
example : runPasses quotePasses.reverse ['"'] ≠ substitute quotePasses.reverse ['"'] := by decide

/-! ## Reading escapes -/

/-- A character of an escaped text: by itself, or behind a backslash. -/
inductive EscapeUnit where
  | bare (c : Char)
  | escaped (c : Char)
  deriving DecidableEq, Repr, Inhabited

/-- The character without its escape. -/
def EscapeUnit.char : EscapeUnit → Char
  | .bare c => c
  | .escaped c => c

/-- Reads an escaped text, given whether a backslash stands in front of it.  No text ends with the
backslash of an escape. -/
def readEscapesFrom : Bool → Text → Option (List EscapeUnit)
  | false, [] => some []
  | true, [] => none
  | true, c :: rest => (readEscapesFrom false rest).map (.escaped c :: ·)
  | false, c :: rest =>
    if c = escapeMark then readEscapesFrom true rest
    else (readEscapesFrom false rest).map (.bare c :: ·)

/-- Reads an escaped text. -/
def readEscapes (t : Text) : Option (List EscapeUnit) := readEscapesFrom false t

/-- A text with a backslash in front of each character. -/
def escapedText (t : Text) : Text := t.flatMap fun c => [escapeMark, c]

theorem readEscapes_bare (h : c ≠ escapeMark) (rest : Text) :
    readEscapes (c :: rest) = (readEscapes rest).map (.bare c :: ·) :=
  if_neg h

theorem readEscapes_escapedText (t rest : Text) :
    readEscapes (escapedText t ++ rest) = (readEscapes rest).map (t.map .escaped ++ ·) := by
  induction t with
  | nil => simp [escapedText]
  | cons c cs ih =>
    have hcons : readEscapes (escapedText (c :: cs) ++ rest) =
        (readEscapes (escapedText cs ++ rest)).map (.escaped c :: ·) := rfl
    rw [hcons, ih, Option.map_map]
    rfl

/-! ## Tables of escapes -/

/-- No pass of the table touches what an earlier one puts in, and each escapes throughout what is shown
for its character, the backslash among them.  All other characters are shown as they are. -/
structure IsEscapeTable (passes : List (Char × Text)) (shown : Char → Text) : Prop where
  settled : passes.Pairwise fun first later => later.1 ∉ first.2
  escapes : ∀ pass ∈ passes, pass.2 = escapedText (shown pass.1)
  mark : escapeMark ∈ passes.map (·.1)
  others : ∀ c, c ∉ passes.map (·.1) → shown c = [c]

/-- What a table of escapes puts in for a character, told by its units. -/
def tableUnits (passes : List (Char × Text)) (shown : Char → Text) (c : Char) : List EscapeUnit :=
  if c ∈ passes.map (·.1) then (shown c).map .escaped else [.bare c]

theorem replacement_of_mem (h : ∀ pass ∈ passes, pass.2 = escapedText (shown pass.1))
    (hc : c ∈ passes.map (·.1)) : replacement passes c = escapedText (shown c) := by
  cases hlookup : passes.lookup c with
  | none => exact absurd hc (Table.lookup_eq_none_iff.mp hlookup)
  | some new =>
    rw [replacement, hlookup]
    exact h (c, new) (Table.mem_of_lookup_eq_some hlookup)

/-- A substitution by a table of escapes is read character by character. -/
theorem readEscapes_substitute (h : IsEscapeTable passes shown) (t : Text) :
    readEscapes (substitute passes t) = some (t.flatMap (tableUnits passes shown)) := by
  induction t with
  | nil => rfl
  | cons c cs ih =>
    have hcons : substitute passes (c :: cs) = replacement passes c ++ substitute passes cs :=
      List.flatMap_cons
    rw [hcons, List.flatMap_cons, tableUnits]
    split
    · rename_i hkey
      rw [replacement_of_mem h.escapes hkey, readEscapes_escapedText, ih]
      rfl
    · rename_i hkey
      have hmark : c ≠ escapeMark := by
        rintro rfl
        exact hkey h.mark
      rw [replacement_of_not_mem hkey, List.singleton_append, readEscapes_bare hmark, ih]
      rfl

theorem bare_not_mem_tableUnits (hc : c ∈ passes.map (·.1)) (t : Text) :
    .bare c ∉ t.flatMap (tableUnits passes shown) := by
  intro hmem
  obtain ⟨d, -, hd⟩ := List.mem_flatMap.mp hmem
  rw [tableUnits] at hd
  split at hd
  · obtain ⟨e, -, he⟩ := List.mem_map.mp hd
    cases he
  · rename_i hkey
    obtain rfl := EscapeUnit.bare.inj (List.mem_singleton.mp hd)
    exact hkey hc

theorem map_char_tableUnits (h : IsEscapeTable passes shown) (t : Text) :
    (t.flatMap (tableUnits passes shown)).map EscapeUnit.char = t.flatMap shown := by
  rw [List.map_flatMap]
  refine List.flatMap_congr fun c _ => ?_
  rw [tableUnits]
  split
  · rw [List.map_map]
    exact List.map_id _
  · rename_i hkey
    exact (h.others c hkey).symm

/-! ## Escaping and its inverse -/

/-- The passes of a table escape a text as one substitution would, none of the marks stands by itself in
what they make of it, and without its escapes it shows what is meant to be shown. -/
structure Encodes (escape : Text → Text) (passes : List (Char × Text)) (marks : List Char)
    (shown : Text → Text) : Prop where
  eq_substitute : ∀ t, escape t = substitute passes t
  append : ∀ s t, escape (s ++ t) = escape s ++ escape t
  /-- the passes behind one of them leave what it puts in as it is -/
  settled : ∀ front pass behind, passes = front ++ pass :: behind → runPasses behind pass.2 = pass.2
  reads : ∀ t, ∃ units, readEscapes (escape t) = some units ∧ (∀ c ∈ marks, .bare c ∉ units) ∧
    units.map EscapeUnit.char = shown t

theorem IsEscapeTable.encodes (h : IsEscapeTable passes shown)
    (hmarks : marks ⊆ passes.map (·.1)) :
    Encodes (runPasses passes) passes marks (·.flatMap shown) := by
  constructor
  case eq_substitute => exact runPasses_eq_substitute h.settled
  case append => exact runPasses_append passes
  case settled =>
    rintro front pass behind rfl
    obtain ⟨hpass, hbehind⟩ := List.pairwise_cons.mp (List.pairwise_append.mp h.settled).2.1
    rw [runPasses_eq_substitute hbehind, substitute_of_not_mem hpass]
  case reads =>
    intro t
    refine ⟨_, ?_, fun c hc => bare_not_mem_tableUnits (hmarks hc) t, map_char_tableUnits h t⟩
    rw [runPasses_eq_substitute h.settled, readEscapes_substitute h]

/-- The characters that mean something in a label: brackets of all kinds, the bar, the blank and the
tab. -/
def labelMarks : List Char := ['[', ']', '(', ')', '<', '>', '{', '}', '|', ' ', '\t']

/-- A tab is shown as four blanks. -/
def shownInLabel (c : Char) : Text := if c = '\t' then [' ', ' ', ' ', ' '] else [c]

theorem isEscapeTable_labelPasses : IsEscapeTable labelPasses shownInLabel := by
  constructor
  case settled => decide
  case escapes => decide
  case mark => decide
  case others =>
    intro c hc
    refine if_neg ?_
    rintro rfl
    exact hc (by decide)

theorem isEscapeTable_quotePasses : IsEscapeTable quotePasses fun c => [c] := by
  constructor
  case settled => decide
  case escapes => decide
  case mark => decide
  case others => exact fun _ _ => rfl

/-- Escaping a label and escaping between double quotes are substitutions that can be undone, the first
with each tab as four blanks. -/
theorem encodes_escapeLabel_and_quote :
    Encodes escapeLabel labelPasses labelMarks (Text.replaceChar '\t' [' ', ' ', ' ', ' ']) ∧
      (∀ t, quote t = '"' :: runPasses quotePasses t ++ ['"']) ∧
      Encodes (runPasses quotePasses) quotePasses ['"'] id := by
  have hshown : (fun t : Text => t.flatMap fun c => [c]) = id := funext List.flatMap_singleton'
  refine ⟨isEscapeTable_labelPasses.encodes (by decide), fun _ => rfl, ?_⟩
  rw [← hshown]
  exact isEscapeTable_quotePasses.encodes (by decide)

end ErDiagram.Dot

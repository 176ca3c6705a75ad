import ErDiagram.Dot.Render
import ErDiagram.Proofs.Notation.Quoting

set_option autoImplicit false

/-!
# Scanning attribute lists

The attributes of a statement are found again by their delimiters alone: a name ends at its equals
sign, a bare value where its word ends, and a value between double quotes at the first double quote
that no backslash escapes.  The scanner is sound, in that every value it finds closes where it was
found to close, and complete, in that it finds a written list again if all of its values close.  So
a written list is found again exactly if they do.
-/

namespace ErDiagram

namespace Dot

/-! ## Quoted values -/

/-- The character that escapes the one behind it. -/
def escapeMark : Char := '\\'

/-- A text that is followed by a double quote ends there and not before, given whether its first
character is escaped. -/
def closesFrom : Bool → Text → Bool
  | escaped, [] => !escaped
  | true, _ :: cs => closesFrom false cs
  | false, c :: cs => c != Quoting.quote && closesFrom (c == escapeMark) cs

/-- A text between double quotes ends at the second of them and not before. -/
def closes (t : Text) : Bool := closesFrom false t

@[simp] theorem closesFrom_true_cons (c : Char) (t : Text) : closesFrom true (c :: t) = closes t := rfl

theorem closes_cons (c : Char) (t : Text) :
    closes (c :: t) = (c != Quoting.quote && closesFrom (c == escapeMark) t) := rfl

@[simp] theorem closes_nil : closes [] = true := rfl

end Dot

/-- The value of the attribute, if it is quoted, ends where it is meant to. -/
def DotAttribute.closes (a : DotAttribute) : Bool :=
  match a.value with
  | .plain _ => true
  | .quoted body => Dot.closes body

/-- A name or a bare value: some letters, digits and dashes. -/
def IsWordText (t : Text) : Prop := t ≠ [] ∧ ∀ c ∈ t, Quoting.isWord c = true

instance (t : Text) : Decidable (IsWordText t) :=
  @instDecidableAnd _ _ _ (List.decidableBAll _ t)

/-- The name of the attribute is a word, and so is its value if it is bare. -/
structure DotAttribute.Writable (a : DotAttribute) : Prop where
  name : IsWordText a.name
  value : ∀ t, a.value = .plain t → IsWordText t

namespace Dot

/-! ## The scanner -/

/-- What the characters at hand belong to.  What has been collected stands last character first. -/
inductive ScanState where
  | name (front : Text)
  /-- right behind the equals sign -/
  | value (name : Text)
  | bare (name front : Text)
  /-- between double quotes; the flag says whether the character at hand is escaped -/
  | quoted (name front : Text) (escaped : Bool)
  /-- right behind a quoted value -/
  | behind (a : DotAttribute)
  /-- right behind a comma -/
  | gap
  deriving DecidableEq, Repr, Inhabited

/-- Goes on behind an attribute: a comma leads to more of them, and a bracket ends the list. -/
def finish (a : DotAttribute) (c : Char) (more : Option (List DotAttribute × Text)) (cs : Text) :
    Option (List DotAttribute × Text) :=
  if c = ',' then more.map fun found => (a :: found.1, found.2)
  else if c = ']' then some ([a], cs)
  else none

/-- Scans the rest of an attribute list: the attributes from the one at hand on, and what stands
behind the bracket that ends the list. -/
def scanFrom : ScanState → Text → Option (List DotAttribute × Text)
  | _, [] => none
  | .name front, c :: cs =>
    if c = '=' then scanFrom (.value front.reverse) cs
    else if Quoting.isWord c then scanFrom (.name (c :: front)) cs
    else none
  | .value name, c :: cs =>
    if c = Quoting.quote then scanFrom (.quoted name [] false) cs
    else if Quoting.isWord c then scanFrom (.bare name [c]) cs
    else none
  | .bare name front, c :: cs =>
    if Quoting.isWord c then scanFrom (.bare name (c :: front)) cs
    else finish ⟨name, .plain front.reverse⟩ c (scanFrom .gap cs) cs
  | .quoted name front true, c :: cs => scanFrom (.quoted name (c :: front) false) cs
  | .quoted name front false, c :: cs =>
    if c = Quoting.quote then scanFrom (.behind ⟨name, .quoted front.reverse⟩) cs
    else scanFrom (.quoted name (c :: front) (c == escapeMark)) cs
  | .behind a, c :: cs => finish a c (scanFrom .gap cs) cs
  | .gap, c :: cs => if c = ' ' then scanFrom (.name []) cs else none

/-- The attributes of a statement: those between its brackets, behind which nothing but a semicolon
may stand. -/
def scanStatement (line : Text) : Option (List DotAttribute) :=
  match line.dropWhile (· != '[') with
  | [] => none
  | _ :: list =>
    match scanFrom (.name []) list with
    | some (attributes, rest) => if rest = [] ∨ rest = [';'] then some attributes else none
    | none => none

/-! ## Soundness -/

/-- What has been collected of a quoted value has not closed it, and an attribute that is done
closes. -/
def ScanState.Sound : ScanState → Prop
  | .quoted _ front escaped => ∀ t, closes (front.reverse ++ t) = closesFrom escaped t
  | .behind a => a.closes = true
  | _ => True

theorem closes_of_finish {a : DotAttribute} {c : Char} {more : Option (List DotAttribute × Text)}
    {cs rest : Text} {found : List DotAttribute} (ha : a.closes = true)
    (hmore : ∀ found rest, more = some (found, rest) → ∀ b ∈ found, b.closes = true)
    (h : finish a c more cs = some (found, rest)) : ∀ b ∈ found, b.closes = true := by
  unfold finish at h
  split at h
  · obtain ⟨⟨found', rest'⟩, hfound, heq⟩ := Option.map_eq_some_iff.mp h
    cases heq
    exact List.forall_mem_cons.mpr ⟨ha, hmore found' rest' hfound⟩
  · split at h
    · cases h
      simpa using ha
    · cases h

/-- Every attribute that the scanner finds closes where it was found to. -/
theorem closes_of_scanFrom {t : Text} :
    ∀ {state : ScanState} {found : List DotAttribute} {rest : Text}, state.Sound →
      scanFrom state t = some (found, rest) → ∀ a ∈ found, a.closes = true := by
  induction t with
  | nil =>
    intro state found rest _ h
    cases state <;> cases h
  | cons c cs ih =>
    intro state found rest hsound h
    have hgap : ∀ found rest, scanFrom .gap cs = some (found, rest) →
        ∀ a ∈ found, a.closes = true := fun _ _ hscan => ih (by trivial) hscan
    cases state with
    | name front =>
      rw [scanFrom] at h
      split at h
      · exact ih (by trivial) h
      · split at h
        · exact ih (by trivial) h
        · cases h
    | value name =>
      rw [scanFrom] at h
      split at h
      · refine ih ?_ h
        exact fun _ => rfl
      · split at h
        · exact ih (by trivial) h
        · cases h
    | bare name front =>
      rw [scanFrom] at h
      split at h
      · exact ih (by trivial) h
      · exact closes_of_finish rfl hgap h
    | quoted name front escaped =>
      have hcollected : ∀ t, closes ((c :: front).reverse ++ t) = closesFrom escaped (c :: t) := by
        intro t
        rw [List.reverse_cons, List.append_assoc]
        exact hsound (c :: t)
      cases escaped with
      | true =>
        rw [scanFrom] at h
        refine ih ?_ h
        exact fun t => hcollected t
      | false =>
        rw [scanFrom] at h
        split at h
        · refine ih ?_ h
          have hbody := hsound []
          rw [List.append_nil] at hbody
          exact hbody
        · rename_i hquote
          refine ih ?_ h
          intro t
          rw [hcollected t, closesFrom, bne_iff_ne.mpr hquote, Bool.true_and]
    | behind a =>
      rw [scanFrom] at h
      exact closes_of_finish hsound hgap h
    | gap =>
      rw [scanFrom] at h
      split at h
      · exact ih (by trivial) h
      · cases h

/-! ## Completeness -/

theorem scanFrom_name {name : Text} (h : ∀ c ∈ name, Quoting.isWord c = true) (t : Text) :
    ∀ front, scanFrom (.name front) (name ++ '=' :: t) =
      scanFrom (.value (front.reverse ++ name)) t := by
  induction name with
  | nil =>
    intro front
    simp [scanFrom]
  | cons c cs ih =>
    intro front
    obtain ⟨hc, hcs⟩ := List.forall_mem_cons.mp h
    have hequals : c ≠ '=' := by
      rintro rfl
      exact absurd hc (by decide)
    rw [List.cons_append, scanFrom, if_neg hequals, if_pos hc, ih hcs]
    simp

theorem scanFrom_quoted (name : Text) {body : Text} (t : Text) :
    ∀ {front : Text} {escaped : Bool}, closesFrom escaped body = true →
      scanFrom (.quoted name front escaped) (body ++ Quoting.quote :: t) =
        scanFrom (.behind ⟨name, .quoted (front.reverse ++ body)⟩) t := by
  induction body with
  | nil =>
    intro front escaped h
    obtain rfl : escaped = false := by simpa [closesFrom] using h
    simp [scanFrom]
  | cons c cs ih =>
    intro front escaped h
    have hcollected : (c :: front).reverse ++ cs = front.reverse ++ c :: cs := by simp
    cases escaped with
    | true =>
      rw [List.cons_append, scanFrom, ih h, hcollected]
    | false =>
      obtain ⟨hquote, hcs⟩ := Bool.and_eq_true_iff.mp h
      rw [List.cons_append, scanFrom, if_neg (bne_iff_ne.mp hquote), ih hcs, hcollected]

theorem scanFrom_bare (name : Text) {word : Text} (h : ∀ c ∈ word, Quoting.isWord c = true)
    {c : Char} (hc : Quoting.isWord c = false) (cs : Text) :
    ∀ front, scanFrom (.bare name front) (word ++ c :: cs) =
      scanFrom (.behind ⟨name, .plain (front.reverse ++ word)⟩) (c :: cs) := by
  induction word with
  | nil =>
    intro front
    simp [scanFrom, hc]
  | cons d ds ih =>
    intro front
    obtain ⟨hd, hds⟩ := List.forall_mem_cons.mp h
    rw [List.cons_append, scanFrom, if_pos hd, ih hds]
    simp

/-- A written attribute that closes is found again. -/
theorem scanFrom_writeAttribute {a : DotAttribute} (hwritable : a.Writable) (h : a.closes = true)
    {c : Char} (hc : Quoting.isWord c = false) (cs : Text) :
    scanFrom (.name []) (writeAttribute a ++ c :: cs) = scanFrom (.behind a) (c :: cs) := by
  obtain ⟨name, value⟩ := a
  rw [writeAttribute, List.append_assoc, List.cons_append, scanFrom_name hwritable.name.2]
  cases value with
  | plain word =>
    obtain ⟨hne, hword⟩ := hwritable.value word rfl
    obtain ⟨d, ds, rfl⟩ := List.exists_cons_of_ne_nil hne
    obtain ⟨hd, hds⟩ := List.forall_mem_cons.mp hword
    have hquote : d ≠ Quoting.quote := by
      rintro rfl
      exact absurd hd (by decide)
    simp only [List.cons_append]
    rw [scanFrom, if_neg hquote, if_pos hd, scanFrom_bare _ hds hc]
    rfl
  | quoted body =>
    have hbody : closesFrom false body = true := h
    have hend : '"' :: body ++ ['"'] ++ c :: cs =
        Quoting.quote :: (body ++ Quoting.quote :: c :: cs) := by simp [Quoting.quote]
    rw [hend, scanFrom, if_pos rfl, scanFrom_quoted _ _ hbody]
    rfl

theorem trimmed_writeAttribute {a : DotAttribute} (h : a.Writable) :
    writeAttribute a ≠ [] ∧ Text.Trimmed Text.isBlank (writeAttribute a) := by
  have hname := Quoting.trimmed_word Quoting.isMarks_isBlank h.name.2
  obtain ⟨name, value⟩ := a
  refine ⟨by simp [writeAttribute], ?_⟩
  refine Text.trimmed_append h.name.1 (List.cons_ne_nil _ _) hname.head ?_
  intro c hc
  cases value with
  | plain word =>
    obtain ⟨hne, hword⟩ := h.value word rfl
    obtain ⟨d, ds, rfl⟩ := List.exists_cons_of_ne_nil hne
    rw [List.getLast?_cons_cons] at hc
    exact Quoting.isMarks_isBlank.word c (hword c (List.mem_of_getLast? hc))
  | quoted body =>
    have hlast : ('=' :: '"' :: body ++ ['"']).getLast? = some '"' := List.getLast?_concat
    obtain rfl : '"' = c := Option.some.inj (hlast.symm.trans hc)
    rfl

/-- Written attributes stand between commas; none of them is blank, and none has blanks around it. -/
theorem writeAttributes_eq {attributes : List DotAttribute} (h : ∀ a ∈ attributes, a.Writable) :
    writeAttributes attributes = Text.join [',', ' '] (attributes.map writeAttribute) := by
  have hstrip : (attributes.map writeAttribute).map Text.strip = attributes.map writeAttribute := by
    rw [List.map_map]
    refine List.map_congr_left fun a ha => ?_
    exact Text.stripOf_eq_self (trimmed_writeAttribute (h a ha)).2
  have hnonEmpty : (attributes.map writeAttribute).filter (fun t => !t.isEmpty) =
      attributes.map writeAttribute := by
    rw [List.filter_eq_self]
    intro t ht
    obtain ⟨a, ha, rfl⟩ := List.mem_map.mp ht
    simpa using (trimmed_writeAttribute (h a ha)).1
  rw [writeAttributes, joinAttributes, hstrip, hnonEmpty]

/-- Written attributes that close are found again. -/
theorem scanFrom_writeAttributes {attributes : List DotAttribute} (hne : attributes ≠ [])
    (hwritable : ∀ a ∈ attributes, a.Writable) (h : ∀ a ∈ attributes, a.closes = true)
    (rest : Text) :
    scanFrom (.name []) (writeAttributes attributes ++ ']' :: rest) = some (attributes, rest) := by
  rw [writeAttributes_eq hwritable]
  induction attributes with
  | nil => exact absurd rfl hne
  | cons a others ih =>
    obtain ⟨haWritable, hothersWritable⟩ := List.forall_mem_cons.mp hwritable
    obtain ⟨ha, hothers⟩ := List.forall_mem_cons.mp h
    cases others with
    | nil =>
      rw [List.map_singleton, Text.join_singleton,
        scanFrom_writeAttribute haWritable ha (by decide)]
      rfl
    | cons b others =>
      have hrest := ih (List.cons_ne_nil b others) hothersWritable hothers
      rw [List.map_cons, List.map_cons, Text.join_cons_cons, List.append_assoc, List.append_assoc,
        List.cons_append, scanFrom_writeAttribute haWritable ha (by decide), scanFrom, finish,
        if_pos rfl, List.cons_append, List.nil_append, scanFrom, if_pos rfl, ← List.map_cons, hrest]
      rfl

/-! ## Statements -/

/-- The attributes of a written statement are found again exactly if each of them closes. -/
theorem scanStatement_eq_some_iff {front behind : Text} {attributes : List DotAttribute}
    (hfront : '[' ∉ front) (hne : attributes ≠ []) (hwritable : ∀ a ∈ attributes, a.Writable)
    (hbehind : behind = [] ∨ behind = [';']) :
    scanStatement (front ++ '[' :: writeAttributes attributes ++ ']' :: behind) = some attributes ↔
      ∀ a ∈ attributes, a.closes = true := by
  have hdrop : (front ++ '[' :: writeAttributes attributes ++ ']' :: behind).dropWhile (· != '[') =
      '[' :: (writeAttributes attributes ++ ']' :: behind) := by
    have hpass : ∀ c ∈ front, (c != '[') = true := by
      intro c hc
      rw [bne_iff_ne]
      rintro rfl
      exact hfront hc
    rw [List.append_assoc, List.dropWhile_append_of_pos hpass]
    rfl
  constructor
  · intro h
    rw [scanStatement, hdrop] at h
    simp only at h
    split at h
    · rename_i found rest hscan
      split at h
      · cases h
        exact closes_of_scanFrom (by trivial) hscan
      · cases h
    · cases h
  · intro h
    rw [scanStatement, hdrop]
    simp only [scanFrom_writeAttributes hne hwritable h, if_pos hbehind]

end Dot

end ErDiagram

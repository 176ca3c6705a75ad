import ErDiagram.Proofs.Dot.Escape

set_option autoImplicit false

/-!
# A record label is read as the record that is meant

In a label a bar ends a field and braces nest fields, unless a backslash stands in front.  A backslash
takes the next character as it is, except that with an `l` it ends a line.  Escaping gives every
character of a text that means something a backslash of its own, so a text shows itself in its field and
nothing else, with each tab as four blanks.  A label is therefore read as the title of the entity and,
if there are attributes, the two columns of their keys and their names, whatever the texts are.
-/

namespace ErDiagram

/-- What a field shows at one place. -/
inductive RecordGlyph where
  | char (c : Char)
  | lineEnd
  deriving DecidableEq, Repr, Inhabited

/-- A field of a record: what it shows, or a nest of fields. -/
inductive RecordField where
  | text (glyphs : List RecordGlyph)
  | nest (fields : List RecordField)
  deriving Repr, Inhabited

/-- A character of a label, by what it does there. -/
inductive RecordToken where
  | glyph (g : RecordGlyph)
  | bar
  | openBrace
  | closeBrace
  /-- an angle bracket, which would name a port of the field -/
  | angle
  deriving DecidableEq, Repr, Inhabited

namespace RecordToken

/-- What a character does behind a backslash. -/
def ofEscaped (c : Char) : RecordToken := .glyph (if c = 'l' then .lineEnd else .char c)

/-- What a character does without a backslash in front of it. -/
def ofPlain (c : Char) : RecordToken :=
  if c = '|' then .bar
  else if c = '{' then .openBrace
  else if c = '}' then .closeBrace
  else if c = '<' ∨ c = '>' then .angle
  else .glyph (.char c)

/-- The tokens of a label, given whether a backslash stands in front of it.  There are none if a
backslash stands at its end. -/
def ofTextFrom : Bool → Text → Option (List RecordToken)
  | false, [] => some []
  | true, [] => none
  | true, c :: rest => (ofTextFrom false rest).map (ofEscaped c :: ·)
  | false, c :: rest =>
    if c = '\\' then ofTextFrom true rest else (ofTextFrom false rest).map (ofPlain c :: ·)

/-- The tokens of a label. -/
def ofText (t : Text) : Option (List RecordToken) := ofTextFrom false t

end RecordToken

/-- A nest under way: the fields that are complete, and the field that is being read. -/
structure OpenNest where
  before : List RecordField := []
  field : RecordField := .text []
  deriving Repr, Inhabited

/-- All fields of a nest under way. -/
def OpenNest.fields (n : OpenNest) : List RecordField := n.before ++ [n.field]

/-- Reads tokens into the innermost nest under way, inside the others.  A text has no nest in it, and
behind a nest its field ends. -/
def readFields (inner : OpenNest) (outer : List OpenNest) :
    List RecordToken → Option (List RecordField)
  | [] => if outer.isEmpty then some inner.fields else none
  | .glyph g :: rest =>
    match inner.field with
    | .text glyphs => readFields ⟨inner.before, .text (glyphs ++ [g])⟩ outer rest
    | .nest _ => none
  | .bar :: rest => readFields ⟨inner.fields, .text []⟩ outer rest
  | .openBrace :: rest =>
    match inner.field with
    | .text [] => readFields {} (inner :: outer) rest
    | _ => none
  | .closeBrace :: rest =>
    match outer with
    | [] => none
    | next :: others => readFields ⟨next.before, .nest inner.fields⟩ others rest
  | .angle :: _ => none

/-- Reads a label as the fields of a record. -/
def readRecord (label : Text) : Option (List RecordField) :=
  (RecordToken.ofText label).bind (readFields {} [])

/-! ## The record that is meant -/

/-- What a text shows in a field: its characters, a tab as four blanks. -/
def shownGlyphs (t : Text) : List RecordGlyph :=
  t.flatMap fun c => if c = '\t' then List.replicate 4 (.char ' ') else [.char c]

/-- What a mark adds to a name. -/
def markSuffix (mark : Text) : Text := if mark.isEmpty then [] else ' ' :: ' ' :: mark

/-- What is shown of an attribute in the column of the keys: whether it is a primary one. -/
def Attribute.keyGlyphs (a : Attribute) : List RecordGlyph :=
  [.char (if a.isPrimaryKey then '*' else ' ')]

/-- What is shown of an attribute in the column of the names: its name, a foreign key and its mark, on a
line of their own. -/
def Attribute.nameGlyphs (a : Attribute) : List RecordGlyph :=
  shownGlyphs (a.name ++ (if a.isForeignKey then " (FK)".toList else [])
    ++ markSuffix (a.options.text .mark)) ++ [.lineEnd]

/-- The fields that show an entity: its title, and two columns for its attributes, if it has any. -/
def Entity.recordFields (e : Entity) : List RecordField :=
  .text (shownGlyphs (e.name ++ markSuffix (e.options.text .mark))) ::
    if e.attributes.isEmpty then []
    else [.nest [.nest (e.attributes.map fun a => .text a.keyGlyphs),
      .nest (e.attributes.map fun a => .text a.nameGlyphs)]]

/-- The record that shows an entity in a drawing of a direction. -/
def Entity.record (e : Entity) : RankDirection → List RecordField
  | .leftToRight => e.recordFields
  | .topToBottom => [.nest e.recordFields]

/-! ## Tokens of pieces -/

/-- Whatever follows the piece, it has these tokens. -/
def HasTokens (piece : Text) (tokens : List RecordToken) : Prop :=
  ∀ rest, RecordToken.ofText (piece ++ rest) = (RecordToken.ofText rest).map (tokens ++ ·)

section Tokens

variable {s t : Text} {tokens tokens' : List RecordToken}

theorem hasTokens_nil : HasTokens [] [] := fun rest => by simp

theorem HasTokens.append (hs : HasTokens s tokens) (ht : HasTokens t tokens') :
    HasTokens (s ++ t) (tokens ++ tokens') := by
  intro rest
  rw [List.append_assoc, hs, ht, Option.map_map]
  congr 1
  funext more
  exact (List.append_assoc _ _ _).symm

theorem HasTokens.ofText_eq (h : HasTokens s tokens) : RecordToken.ofText s = some tokens := by
  simpa [RecordToken.ofText, RecordToken.ofTextFrom] using h []

theorem hasTokens_plain {c : Char} (h : c ≠ '\\') : HasTokens [c] [RecordToken.ofPlain c] := by
  intro rest
  rw [RecordToken.ofText, List.singleton_append, RecordToken.ofTextFrom, if_neg h]
  rfl

theorem hasTokens_escaped (c : Char) : HasTokens ['\\', c] [RecordToken.ofEscaped c] := by
  intro rest
  rfl

/-- Pieces with bars between them have the tokens of the pieces with bars between them. -/
theorem HasTokens.join {α : Type} {write : α → Text} {tokens : α → List RecordToken}
    (h : ∀ a, HasTokens (write a) (tokens a)) (list : List α) :
    HasTokens (Text.join ['|'] (list.map write))
      (List.intercalate [RecordToken.bar] (list.map tokens)) := by
  induction list with
  | nil => exact hasTokens_nil
  | cons a others ih =>
    cases others with
    | nil => simpa [Text.join] using h a
    | cons b others =>
      have hbar : HasTokens ['|'] [RecordToken.bar] := hasTokens_plain (by decide)
      have hjoined := (h a).append (hbar.append ih)
      simpa [Text.join, List.intercalate] using hjoined

end Tokens

namespace Dot

/-! ## Tokens of escaped texts -/

theorem escapeLabel_key {c : Char} (hc : c ∈ labelPasses.map (·.1)) (h : c ≠ '\t') :
    escapeLabel [c] = ['\\', c] ∧ RecordToken.ofEscaped c = .glyph (.char c) := by
  have hall : (labelPasses.map (·.1)).all (fun c => decide (c ≠ '\t' →
      escapeLabel [c] = ['\\', c] ∧ RecordToken.ofEscaped c = .glyph (.char c))) = true := by
    decide
  exact of_decide_eq_true (List.all_eq_true.mp hall c hc) h

theorem shownGlyphs_singleton {c : Char} (h : c ≠ '\t') : shownGlyphs [c] = [.char c] := by
  simp [shownGlyphs, h]

theorem hasTokens_escapeLabel_singleton (c : Char) :
    HasTokens (escapeLabel [c]) ((shownGlyphs [c]).map RecordToken.glyph) := by
  by_cases htab : c = '\t'
  · subst htab
    have hblank : HasTokens ['\\', ' '] [.glyph (.char ' ')] := hasTokens_escaped ' '
    exact hblank.append (hblank.append (hblank.append hblank))
  · rw [shownGlyphs_singleton htab, List.map_singleton]
    by_cases hkey : c ∈ labelPasses.map (·.1)
    · obtain ⟨hescape, htoken⟩ := escapeLabel_key hkey htab
      rw [hescape, ← htoken]
      exact hasTokens_escaped c
    · -- what no pass escapes means nothing in a label
      have hne : ∀ d ∈ labelPasses.map (·.1), c ≠ d := fun d hd heq => hkey (heq ▸ hd)
      have hplain : RecordToken.ofPlain c = .glyph (.char c) := by
        simp [RecordToken.ofPlain, hne '|' (by decide), hne '{' (by decide), hne '}' (by decide),
          hne '<' (by decide), hne '>' (by decide)]
      rw [escapeLabel, runPasses_singleton hkey, ← hplain]
      exact hasTokens_plain (hne '\\' (by decide))

theorem hasTokens_escapeLabel (t : Text) :
    HasTokens (escapeLabel t) ((shownGlyphs t).map RecordToken.glyph) := by
  induction t with
  | nil => exact hasTokens_nil
  | cons c cs ih =>
    have hescape : escapeLabel (c :: cs) = escapeLabel [c] ++ escapeLabel cs :=
      runPasses_append labelPasses [c] cs
    have hshown : shownGlyphs (c :: cs) = shownGlyphs [c] ++ shownGlyphs cs := by
      simp [shownGlyphs]
    rw [hescape, hshown, List.map_append]
    exact (hasTokens_escapeLabel_singleton c).append ih

/-! ## Tokens of the label of a node -/

theorem shownGlyphs_append (s t : Text) : shownGlyphs (s ++ t) = shownGlyphs s ++ shownGlyphs t :=
  List.flatMap_append

theorem marked_eq (name mark : Text) : marked name mark = name ++ markSuffix mark := by
  unfold marked markSuffix
  split
  · rw [List.append_nil]
  · rw [List.append_assoc]
    rfl

theorem hasTokens_keyCell (a : Attribute) :
    HasTokens (keyCell a) (a.keyGlyphs.map RecordToken.glyph) := by
  unfold keyCell Attribute.keyGlyphs
  split
  · exact hasTokens_plain (by decide)
  · exact hasTokens_plain (by decide)

theorem hasTokens_nameCell (a : Attribute) :
    HasTokens (nameCell a) (a.nameGlyphs.map RecordToken.glyph) := by
  have hforeign : HasTokens (if a.isForeignKey then escapeLabel " (FK)".toList else [])
      ((shownGlyphs (if a.isForeignKey then " (FK)".toList else [])).map RecordToken.glyph) := by
    split
    · exact hasTokens_escapeLabel _
    · exact hasTokens_nil
  have hmark : HasTokens (if (a.options.text .mark).isEmpty then []
      else escapeLabel (markSeparator ++ a.options.text .mark))
      ((shownGlyphs (markSuffix (a.options.text .mark))).map RecordToken.glyph) := by
    unfold markSuffix
    split
    · exact hasTokens_nil
    · exact hasTokens_escapeLabel _
  have hbreak : HasTokens ['\\', 'l'] [.glyph .lineEnd] := hasTokens_escaped 'l'
  have hcell := (((hasTokens_escapeLabel a.name).append hforeign).append hmark).append hbreak
  rw [Attribute.nameGlyphs, shownGlyphs_append, shownGlyphs_append, List.map_append,
    List.map_append, List.map_append]
  exact hcell

/-- The tokens of a column of fields, with bars between them. -/
def columnTokens (column : List (List RecordGlyph)) : List RecordToken :=
  List.intercalate [.bar] (column.map fun glyphs => glyphs.map RecordToken.glyph)

/-- The tokens of the label of an entity. -/
def nodeTokens (e : Entity) : List RecordToken :=
  let title := (shownGlyphs (e.name ++ markSuffix (e.options.text .mark))).map RecordToken.glyph
  if e.attributes.isEmpty then title
  else
    title ++ [.bar, .openBrace, .openBrace] ++ columnTokens (e.attributes.map Attribute.keyGlyphs)
      ++ [.closeBrace, .bar, .openBrace] ++ columnTokens (e.attributes.map Attribute.nameGlyphs)
      ++ [.closeBrace, .closeBrace]

theorem hasTokens_column {cell : Attribute → Text} {glyphs : Attribute → List RecordGlyph}
    (h : ∀ a, HasTokens (cell a) ((glyphs a).map RecordToken.glyph)) (attributes : List Attribute) :
    HasTokens (Text.join ['|'] (attributes.map cell)) (columnTokens (attributes.map glyphs)) := by
  rw [columnTokens, List.map_map]
  exact HasTokens.join h attributes

theorem hasTokens_nodeLabel (e : Entity) : HasTokens (nodeLabel e) (nodeTokens e) := by
  have htitle := hasTokens_escapeLabel (e.name ++ markSuffix (e.options.text .mark))
  rw [← marked_eq] at htitle
  unfold nodeLabel nodeTokens
  rw [← marked_eq]
  split
  · exact htitle
  · have hbar : HasTokens ['|'] [.bar] := hasTokens_plain (by decide)
    have hopen : HasTokens ['{'] [.openBrace] := hasTokens_plain (by decide)
    have hclose : HasTokens ['}'] [.closeBrace] := hasTokens_plain (by decide)
    have hkeys := hasTokens_column hasTokens_keyCell e.attributes
    have hnames := hasTokens_column hasTokens_nameCell e.attributes
    exact ((((htitle.append (hbar.append (hopen.append hopen))).append hkeys).append
      (hclose.append (hbar.append hopen))).append hnames).append (hclose.append hclose)

end Dot

/-! ## Reading the record -/

/-- Glyphs go to the text that is being read. -/
theorem readFields_glyphs (before : List RecordField) (outer : List OpenNest)
    (rest : List RecordToken) (glyphs : List RecordGlyph) : ∀ front,
      readFields ⟨before, .text front⟩ outer (glyphs.map RecordToken.glyph ++ rest) =
        readFields ⟨before, .text (front ++ glyphs)⟩ outer rest := by
  induction glyphs with
  | nil => exact fun front => by rw [List.append_nil]; rfl
  | cons g glyphs ih =>
    intro front
    refine (ih (front ++ [g])).trans ?_
    rw [List.append_assoc]
    rfl

/-- A column inside a nest is read as a nest of texts, which is the last field of the nest around it. -/
theorem readFields_column (next : OpenNest) (others : List OpenNest) (rest : List RecordToken)
    (column : List (List RecordGlyph)) : ∀ glyphs before,
      readFields ⟨before, .text []⟩ (next :: others)
          (Dot.columnTokens (glyphs :: column) ++ .closeBrace :: rest) =
        readFields ⟨next.before, .nest (before ++ (glyphs :: column).map .text)⟩ others rest := by
  induction column with
  | nil =>
    intro glyphs before
    simp [Dot.columnTokens, readFields_glyphs, readFields, OpenNest.fields]
  | cons second column ih =>
    intro glyphs before
    have hcolumn : Dot.columnTokens (glyphs :: second :: column) =
        glyphs.map RecordToken.glyph ++ .bar :: Dot.columnTokens (second :: column) := by
      simp [Dot.columnTokens, List.intercalate]
    rw [hcolumn, List.append_assoc, readFields_glyphs, List.cons_append, readFields, ih]
    simp [OpenNest.fields]

/-- The tokens of an entity are read as its fields, in front of whatever follows them. -/
theorem exists_readFields_nodeTokens (e : Entity) : ∃ n : OpenNest, n.fields = e.recordFields ∧
    ∀ outer rest, readFields {} outer (Dot.nodeTokens e ++ rest) = readFields n outer rest := by
  unfold Dot.nodeTokens Entity.recordFields
  generalize shownGlyphs (e.name ++ markSuffix (e.options.text .mark)) = title
  cases e.attributes with
  | nil =>
    refine ⟨⟨[], .text title⟩, rfl, fun outer rest => ?_⟩
    exact readFields_glyphs [] outer rest title []
  | cons a attributes =>
    refine ⟨⟨[.text title], .nest _⟩, rfl, fun outer rest => ?_⟩
    simp only [List.isEmpty_cons, Bool.false_eq_true, if_false, List.append_assoc, List.map_cons,
      List.cons_append, List.nil_append, readFields_glyphs, readFields, readFields_column,
      List.map_map]
    rfl

/-- The label of an entity, turned for a direction, is read as the record of the entity. -/
theorem readRecord_turned (direction : RankDirection) (e : Entity) :
    readRecord (Dot.turned direction (Dot.nodeLabel e)) = some (e.record direction) := by
  obtain ⟨n, hfields, hread⟩ := exists_readFields_nodeTokens e
  have hlabel := Dot.hasTokens_nodeLabel e
  cases direction with
  | leftToRight =>
    have hread' := hread [] []
    rw [List.append_nil] at hread'
    rw [readRecord, Dot.turned, hlabel.ofText_eq, Option.bind_some, hread', Entity.record, ← hfields]
    rfl
  | topToBottom =>
    have hopen : HasTokens ['{'] [.openBrace] := hasTokens_plain (by decide)
    have hclose : HasTokens ['}'] [.closeBrace] := hasTokens_plain (by decide)
    have hturned : HasTokens (Dot.turned .topToBottom (Dot.nodeLabel e))
        ([.openBrace] ++ (Dot.nodeTokens e ++ [.closeBrace])) :=
      hopen.append (hlabel.append hclose)
    have hread' := hread [{}] [.closeBrace]
    rw [readRecord, hturned.ofText_eq, Option.bind_some, Entity.record, ← hfields]
    exact hread'

/-- The node of an entity has one label, which is read as the record of the entity. -/
theorem exists_label_readRecord (d : Diagram) (s : Settings) (e : Entity) : ∃ body,
    (Dot.nodeAttributes d s e).filter (fun a => a.name = "label".toList) =
        [Dot.verbatim "label" body] ∧
      readRecord body = some (e.record s.direction) := by
  refine ⟨_, ?_, readRecord_turned s.direction e⟩
  -- the attributes that stand there under a condition are no labels
  unfold Dot.nodeAttributes
  dsimp only
  generalize (e.options.color .color != .none) = isColored
  generalize (!(d.options.text .linkFiles).isEmpty) = isLinked
  cases isColored <;> cases isLinked <;> rfl

end ErDiagram

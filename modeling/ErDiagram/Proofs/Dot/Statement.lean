import ErDiagram.Proofs.Dot.Lines

set_option autoImplicit false

/-!
# The statements of a drawing

The drawing of an accepted document is split into its lines, and the statements among them are
scanned for their attributes.  Each statement gives back exactly the attributes that it was written
with if and only if the texts that it shows hold no double quote and its link closes.
-/

namespace ErDiagram.Dot

variable {s : Settings} {d : Diagram} {size source : Text}

/-- A statement of a drawing. -/
inductive Statement where
  /-- the attributes of the graph -/
  | graph
  /-- the attributes that nodes have by default -/
  | nodes
  /-- the attributes that edges have by default -/
  | edges
  | node (e : Entity)
  | edge (r : Relationship)
  deriving DecidableEq, Repr

/-- The statements of the drawing of a diagram, in order. -/
def statements (d : Diagram) : List Statement :=
  [.graph, .nodes, .edges] ++ d.entities.map .node ++ d.relationships.map .edge

namespace Statement

/-- What the statement is about. -/
def subject (d : Diagram) : Statement → Text
  | graph => "graph".toList
  | nodes => "node".toList
  | edges => "edge".toList
  | node e => e.id
  | edge r => nodeId d r.first.name ++ " -> ".toList ++ nodeId d r.second.name

/-- The attributes that the statement gives. -/
def attributes (d : Diagram) (s : Settings) (size : Text) : Statement → List DotAttribute
  | graph => graphAttributes d s size
  | nodes => nodeDefaults s
  | edges => edgeDefaults s
  | node e => nodeAttributes d s e
  | edge r => edgeAttributes s r

/-- What stands behind the attributes. -/
def terminator : Statement → Text
  | node _ | edge _ => []
  | _ => [';']

/-- The line of the statement. -/
def line (d : Diagram) (s : Settings) (size : Text) (st : Statement) : Text :=
  indented (st.subject d ++ ' ' :: '[' :: writeAttributes (st.attributes d s size) ++
    ']' :: st.terminator)

/-- Every quoted value of the statement ends where it is meant to: no text that it shows holds a
double quote, and the link of a node closes. -/
def Closes (d : Diagram) : Statement → Prop
  | node e => e.QuoteFree ∧ closes (entityLink d e) = true
  | edge r => r.QuoteFree
  | _ => True

end Statement

instance (d : Diagram) : (st : Statement) → Decidable (st.Closes d)
  | .node e => inferInstanceAs (Decidable (e.QuoteFree ∧ closes (entityLink d e) = true))
  | .edge r => inferInstanceAs (Decidable r.QuoteFree)
  | .graph | .nodes | .edges => inferInstanceAs (Decidable True)

/-- The line is a statement: it is indented, and it is no comment. -/
def isStatement (line : Text) : Bool :=
  List.isPrefixOf [' ', ' '] line && !(List.isPrefixOf [' ', ' ', '/', '/'] line)

/-- The lines of a drawing that are statements. -/
def statementLines (drawing : Text) : List Text := (drawing.splitOn lineEnd).filter isStatement

/-- The diagram has its ids, nothing in it or in the name of the font ends a line, and these are the
digits of the size of its title. -/
structure Drawable (d : Diagram) (s : Settings) (size source : Text) : Prop where
  ids : Identified d
  spelled : d.SpelledWith source
  source : lineEnd ∉ source
  font : lineEnd ∉ s.font
  size : Numeral.write? (titleSize d) = some size

/-! ## One statement -/

theorem ne_nil_attributes (st : Statement) : st.attributes d s size ≠ [] := by
  cases st with
  | graph => simp [Statement.attributes, graphAttributes]
  | nodes => simp [Statement.attributes, nodeDefaults]
  | edges => simp [Statement.attributes, edgeDefaults]
  | node e => simp [Statement.attributes, nodeAttributes]
  | edge r => simp [Statement.attributes, edgeAttributes]

theorem closes_attributes_iff (st : Statement) :
    (∀ a ∈ st.attributes d s size, a.closes = true) ↔ st.Closes d := by
  cases st with
  | graph => exact iff_of_true (closes_graphAttributes d s size) trivial
  | nodes => exact iff_of_true (closes_nodeDefaults s) trivial
  | edges => exact iff_of_true (closes_edgeDefaults s) trivial
  | node e => exact closes_nodeAttributes_iff
  | edge r => exact closes_edgeAttributes_iff

theorem mem_statements {st : Statement} (h : st ∈ statements d) :
    (st = .graph ∨ st = .nodes ∨ st = .edges) ∨ (∃ e ∈ d.entities, st = .node e) ∨
      ∃ r ∈ d.relationships, st = .edge r := by
  simpa [statements, or_assoc, eq_comm] using h

/-- The subject of a statement is a word for the defaults or begins with an id. -/
theorem plain_subject (hids : Identified d) {st : Statement} (h : st ∈ statements d) :
    '[' ∉ st.subject d ∧ lineEnd ∉ st.subject d ∧
      ∃ c rest, st.subject d = c :: rest ∧ c ≠ '/' := by
  have hwords : ∀ word ∈ ["graph".toList, "node".toList, "edge".toList],
      '[' ∉ word ∧ lineEnd ∉ word := by
    decide
  rcases mem_statements h with (rfl | rfl | rfl) | ⟨e, he, rfl⟩ | ⟨r, hr, rfl⟩
  · obtain ⟨hbracket, hend⟩ := hwords "graph".toList (by decide)
    exact ⟨hbracket, hend, 'g', _, rfl, by decide⟩
  · obtain ⟨hbracket, hend⟩ := hwords "node".toList (by decide)
    exact ⟨hbracket, hend, 'n', _, rfl, by decide⟩
  · obtain ⟨hbracket, hend⟩ := hwords "edge".toList (by decide)
    exact ⟨hbracket, hend, 'e', _, rfl, by decide⟩
  · obtain ⟨hbracket, hend, rest, hid⟩ := (hids.node e he).plain
    exact ⟨hbracket, hend, 'e', rest, hid, by decide⟩
  · obtain ⟨hbracket1, hend1, rest, hid⟩ :=
      (hids.edge r hr r.first.name (by simp [Relationship.names])).plain
    obtain ⟨hbracket2, hend2, -⟩ :=
      (hids.edge r hr r.second.name (by simp [Relationship.names])).plain
    have harrow : '[' ∉ " -> ".toList ∧ lineEnd ∉ " -> ".toList := by decide
    simp only [Statement.subject, List.mem_append, not_or]
    refine ⟨⟨⟨hbracket1, harrow.1⟩, hbracket2⟩, ⟨⟨hend1, harrow.2⟩, hend2⟩, 'e',
      rest ++ " -> ".toList ++ nodeId d r.second.name, ?_, by decide⟩
    rw [hid]
    rfl

theorem terminator_cases (st : Statement) : st.terminator = [] ∨ st.terminator = [';'] := by
  cases st <;> simp [Statement.terminator]

theorem Drawable.tidy (h : Drawable d s size source) {st : Statement} (hst : st ∈ statements d) :
    ∀ a ∈ st.attributes d s size, Tidy a := by
  have htitle : lineEnd ∉ d.options.text .title := fun hmem =>
    h.source (h.spelled.options.text _ hmem)
  rcases mem_statements hst with (rfl | rfl | rfl) | ⟨e, he, rfl⟩ | ⟨r, hr, rfl⟩
  · exact tidy_graphAttributes h.size htitle h.font
  · exact tidy_nodeDefaults h.font
  · exact tidy_edgeDefaults h.font
  · exact tidy_nodeAttributes h.spelled h.source he
  · exact tidy_edgeAttributes h.spelled h.source hr

/-- A statement gives its attributes back exactly if its values end where they are meant to. -/
theorem Drawable.scanStatement_line_iff (h : Drawable d s size source) {st : Statement}
    (hst : st ∈ statements d) :
    scanStatement (st.line d s size) = some (st.attributes d s size) ↔ st.Closes d := by
  have hfront : '[' ∉ [' ', ' '] ++ st.subject d ++ [' '] := by
    simp [(plain_subject h.ids hst).1]
  have hline : st.line d s size = [' ', ' '] ++ st.subject d ++ [' '] ++
      '[' :: writeAttributes (st.attributes d s size) ++ ']' :: st.terminator := by
    simp [Statement.line, indented]
  rw [hline, scanStatement_eq_some_iff hfront (ne_nil_attributes st)
    (fun a ha => (h.tidy hst a ha).1) (terminator_cases st)]
  exact closes_attributes_iff st

/-! ## The lines of a drawing -/

theorem lineEnd_not_mem_writeAttributes {attributes : List DotAttribute}
    (h : ∀ a ∈ attributes, Tidy a) : lineEnd ∉ writeAttributes attributes := by
  have hword : ∀ {t : Text}, IsWordText t → lineEnd ∉ t := by
    intro t ht hmem
    exact absurd (ht.2 _ hmem) (by decide)
  rw [writeAttributes_eq fun a ha => (h a ha).1]
  intro hmem
  obtain hseparator | ⟨written, hwritten, hc⟩ := mem_join hmem
  · exact absurd hseparator (by decide)
  · obtain ⟨a, ha, rfl⟩ := List.mem_map.mp hwritten
    obtain ⟨hwritable, hbody⟩ := h a ha
    have hmarks : lineEnd ≠ '=' ∧ lineEnd ≠ '"' := by decide
    obtain ⟨name, value⟩ := a
    cases value with
    | plain t =>
      simp [writeAttribute, hword hwritable.name, hword (hwritable.value t rfl), hmarks] at hc
    | quoted body => simp [writeAttribute, hword hwritable.name, hbody body rfl, hmarks] at hc

theorem lineEnd_not_mem_line {st : Statement} (hsubject : lineEnd ∉ st.subject d)
    (h : ∀ a ∈ st.attributes d s size, Tidy a) : lineEnd ∉ st.line d s size := by
  have hattributes := lineEnd_not_mem_writeAttributes h
  have hterminator : lineEnd ∉ st.terminator := by
    rcases terminator_cases st with h | h <;> rw [h] <;> decide
  have hmarks : lineEnd ≠ ' ' ∧ lineEnd ≠ '[' ∧ lineEnd ≠ ']' := by decide
  simp [Statement.line, indented, hsubject, hattributes, hterminator, hmarks]

theorem lineEnd_not_mem_indented {t : Text} (h : lineEnd ∉ t) : lineEnd ∉ indented t :=
  List.not_mem_append (s := [' ', ' ']) (by decide) h

/-- A line of a drawing is blank, a comment, a brace or a statement. -/
theorem lines_eq (d : Diagram) (s : Settings) (size : Text) :
    lines d s size =
      ["digraph ".toList ++ quote (graphName d) ++ [' ', '{']]
        ++ [Statement.graph, .nodes, .edges].map (Statement.line d s size)
        ++ d.entities.flatMap (fun e =>
          [[], indented ("//E [".toList ++ e.name ++ [']']), (Statement.node e).line d s size])
        ++ d.relationships.flatMap (fun r =>
          [[], indented ("//R [".toList ++ r.first.name ++ "]--[".toList ++ r.second.name ++ [']']),
            (Statement.edge r).line d s size])
        ++ [['}']] := by
  rfl

theorem Drawable.lineEnd_not_mem_lines (h : Drawable d s size source) :
    ∀ line ∈ lines d s size, lineEnd ∉ line := by
  have hstatement : ∀ st ∈ statements d, lineEnd ∉ st.line d s size := fun st hst =>
    lineEnd_not_mem_line (plain_subject h.ids hst).2.1 (h.tidy hst)
  have htitle : lineEnd ∉ graphName d := by
    unfold graphName
    simp only
    split
    · decide
    · exact fun hmem => h.source (h.spelled.options.text _ hmem)
  have hquoted : lineEnd ∉ quote (graphName d) := by
    have hmark : lineEnd ≠ '"' := by decide
    simp [quote, lineEnd_not_mem_quotePasses htitle, hmark]
  rw [lines_eq]
  simp only [List.forall_mem_append, List.forall_mem_map, List.forall_mem_flatMap,
    List.forall_mem_cons, List.not_mem_nil, false_implies, implies_true, and_true,
    not_false_eq_true, true_and]
  refine ⟨⟨⟨⟨?_, ?_⟩, ?_⟩, ?_⟩, by decide⟩
  · exact List.not_mem_append (List.not_mem_append (by decide) hquoted) (by decide)
  · exact ⟨hstatement _ (by simp [statements]), hstatement _ (by simp [statements]),
      hstatement _ (by simp [statements])⟩
  · intro e he
    have hname : lineEnd ∉ e.name := fun hmem => h.source ((h.spelled.entities e he).name hmem)
    exact ⟨lineEnd_not_mem_indented
        (List.not_mem_append (List.not_mem_append (by decide) hname) (by decide)),
      hstatement _ (by simp [statements, he])⟩
  · intro r hr
    have hnames : ∀ name ∈ r.names, lineEnd ∉ name := fun name hmem hc =>
      h.source ((h.spelled.relationships r hr).names name hmem hc)
    have hfirst : lineEnd ∉ r.first.name := hnames _ (by simp [Relationship.names])
    have hsecond : lineEnd ∉ r.second.name := hnames _ (by simp [Relationship.names])
    have hfront := List.not_mem_append (s := "//R [".toList) (by decide) hfirst
    have hback := List.not_mem_append hsecond (t := [']']) (by decide)
    refine ⟨lineEnd_not_mem_indented ?_, hstatement _ (by simp [statements, hr])⟩
    rw [List.append_assoc _ r.second.name]
    exact List.not_mem_append (List.not_mem_append hfront (by decide)) hback

/-- Lines that break nowhere else are found again at their ends. -/
theorem splitOn_flatMap {lines : List Text} (h : ∀ line ∈ lines, lineEnd ∉ line) :
    (lines.flatMap fun line => line ++ [lineEnd]).splitOn lineEnd = lines ++ [[]] := by
  induction lines with
  | nil => rfl
  | cons line rest ih =>
    obtain ⟨hline, hrest⟩ := List.forall_mem_cons.mp h
    have hsplit := List.splitOn_eq_singleton hline
    have hrestSplit := ih hrest
    rw [List.splitOn] at hsplit hrestSplit ⊢
    rw [List.flatMap_cons, List.append_assoc, List.singleton_append,
      List.splitOnP_append_cons (p := (· == lineEnd)) _ _ (beq_self_eq_true lineEnd), hsplit,
      hrestSplit]
    rfl

/-- A line of a statement is a statement. -/
theorem isStatement_line (hids : Identified d) {st : Statement} (h : st ∈ statements d) :
    isStatement (st.line d s size) = true := by
  obtain ⟨-, -, c, rest, hsubject, hc⟩ := plain_subject hids h
  have hslash : ('/' == c) = false := beq_false_of_ne hc.symm
  simp [isStatement, Statement.line, indented, hsubject, List.isPrefixOf, hslash]

/-- Of a blank line, a comment and a statement, the statement is left. -/
theorem filter_isStatement {comment line : Text} (hcomment : isStatement comment = false)
    (hline : isStatement line = true) : [[], comment, line].filter isStatement = [line] := by
  rw [List.filter_cons_of_neg (by decide), List.filter_cons_of_neg (by simp [hcomment]),
    List.filter_cons_of_pos hline, List.filter_nil]

/-- The statements of a drawing are those of its diagram. -/
theorem Drawable.statementLines_render (h : Drawable d s size source) {drawing : Text}
    (hdrawn : render? d s = some drawing) :
    statementLines drawing = (statements d).map (Statement.line d s size) := by
  have hdrawing : (lines d s size).flatMap (fun line => line ++ [lineEnd]) = drawing := by
    rw [render?, h.size] at hdrawn
    exact Option.some.inj hdrawn
  have hfilter : ∀ st ∈ statements d, isStatement (st.line d s size) = true := fun _ =>
    isStatement_line h.ids
  have hnodes : d.entities.flatMap (fun e => List.filter isStatement
      [[], indented ("//E [".toList ++ e.name ++ [']']), (Statement.node e).line d s size]) =
      (d.entities.map Statement.node).map (Statement.line d s size) := by
    rw [List.map_map, List.map_eq_flatMap]
    refine List.flatMap_congr fun e he => ?_
    exact filter_isStatement (by simp [isStatement, indented])
      (hfilter (.node e) (by simp [statements, he]))
  have hedges : d.relationships.flatMap (fun r => List.filter isStatement
      [[], indented ("//R [".toList ++ r.first.name ++ "]--[".toList ++ r.second.name ++ [']']),
        (Statement.edge r).line d s size]) =
      (d.relationships.map Statement.edge).map (Statement.line d s size) := by
    rw [List.map_map, List.map_eq_flatMap]
    refine List.flatMap_congr fun r hr => ?_
    exact filter_isStatement (by simp [isStatement, indented])
      (hfilter (.edge r) (by simp [statements, hr]))
  have hdefaults : ([Statement.graph, .nodes, .edges].map (Statement.line d s size)).filter
      isStatement = [Statement.graph, .nodes, .edges].map (Statement.line d s size) := by
    rw [List.filter_eq_self]
    intro line hline
    obtain ⟨st, hst, rfl⟩ := List.mem_map.mp hline
    exact hfilter st (by simp only [statements, List.mem_append]; exact .inl (.inl hst))
  rw [statementLines, ← hdrawing,
    splitOn_flatMap h.lineEnd_not_mem_lines, lines_eq]
  simp only [List.filter_append, List.filter_flatMap, hdefaults, hnodes, hedges]
  have htitle : List.filter isStatement ["digraph ".toList ++ quote (graphName d) ++ [' ', '{']] =
      [] := by
    rw [List.filter_cons_of_neg (by simp [isStatement, List.isPrefixOf])]
    rfl
  have hends : List.filter isStatement [['}']] = [] ∧ List.filter isStatement [[]] = [] := by
    decide
  rw [htitle, hends.1, hends.2, List.nil_append, List.append_nil, List.append_nil, statements,
    List.map_append, List.map_append]

/-! ## Accepted documents -/

/-- Whatever text is read and however its diagram is drawn: the statements of the drawing are those
of the diagram, in order, and each of them is scanned as exactly the attributes that it was written
with if and only if no text that it shows holds a double quote and its link closes. -/
theorem statements_scan_iff {c : Catalog} {ids : IdSource} {t drawing : Text}
    (hread : (readText c ids t).result = .ok (.ok d)) (hfont : lineEnd ∉ s.font)
    (hdrawn : render? d s = some drawing) :
    ∃ size, Numeral.write? (titleSize d) = some size ∧
      List.Forall₂ (fun st line =>
          scanStatement line = some (st.attributes d s size) ↔ st.Closes d)
        (statements d) (statementLines drawing) := by
  obtain ⟨g, options, named, built, haccepted⟩ := readDocument_eq_diagram_iff.mp hread
  have hsource : lineEnd ∉ charactersOf (Line.ofTexts (Text.lines t)) := by
    intro hmem
    exact absurd (isLineBreak_of_mem_charactersOf hmem) (by decide)
  obtain ⟨size, hsize, -⟩ := Option.map_eq_some_iff.mp hdrawn
  have hdrawable : Drawable d s size (charactersOf (Line.ofTexts (Text.lines t))) :=
    ⟨haccepted.identified, haccepted.spelledWith, hsource, hfont, hsize⟩
  refine ⟨size, hsize, ?_⟩
  rw [hdrawable.statementLines_render hdrawn, List.forall₂_map_right_iff, List.forall₂_same]
  exact fun st hst => hdrawable.scanStatement_line_iff hst

theorem map_scanStatement {sts : List Statement} {lines : List Text}
    (h : List.Forall₂ (fun st line =>
      scanStatement line = some (st.attributes d s size) ↔ st.Closes d) sts lines)
    (hcloses : ∀ st ∈ sts, st.Closes d) :
    lines.map scanStatement = sts.map fun st => some (st.attributes d s size) := by
  induction h with
  | nil => rfl
  | cons hscan _ ih =>
    obtain ⟨hst, hsts⟩ := List.forall_mem_cons.mp hcloses
    rw [List.map_cons, List.map_cons, hscan.mpr hst, ih hsts]

/-- The lines of tracks as one text. -/
def trackText : Text := Text.join [lineEnd] (trackLines.map fun l => l.getD [])

/-- Settings that differ from the presets in everything. -/
def posterSettings : Settings := ⟨.idef1x, .blue, "Arial Black".toList, .topToBottom⟩

/-- The drawing of the diagram of tracks. -/
def trackDrawing : Text :=
  (lines trackDiagram posterSettings "14".toList).flatMap fun line => line ++ [lineEnd]

theorem statements_scan_trackDrawing :
    (readText Catalog.english {} trackText).result = .ok (.ok trackDiagram) ∧
      lineEnd ∉ posterSettings.font ∧ render? trackDiagram posterSettings = some trackDrawing ∧
      (statementLines trackDrawing).map scanStatement =
        (statements trackDiagram).map fun st =>
          some (st.attributes trackDiagram posterSettings "14".toList) := by
  have hread : (readText Catalog.english {} trackText).result = .ok (.ok trackDiagram) := by
    decide +kernel
  have hfont : lineEnd ∉ posterSettings.font := by decide
  have hdrawn : render? trackDiagram posterSettings = some trackDrawing := rfl
  refine ⟨hread, hfont, hdrawn, ?_⟩
  obtain ⟨size, hsize, hscan⟩ := statements_scan_iff hread hfont hdrawn
  have hwritten : Numeral.write? (titleSize trackDiagram) = some "14".toList := rfl
  obtain rfl : "14".toList = size := Option.some.inj (hwritten.symm.trans hsize)
  exact map_scanStatement hscan (by decide +kernel)

/-- The text of a document of one entity, whose name holds a pair of double quotes. -/
def quotedText : Text := "[a\"b\"]".toList

def quotedDiagram : Diagram where
  entities := [{ id := "entity_1".toList, name := "a\"b\"".toList }]

/-- Double quotes in a name end the label of its node early: the document is accepted, and the
statement of the node cannot be scanned. -/
theorem quotedDrawing_breaks :
    (readText Catalog.english {} quotedText).result = .ok (.ok quotedDiagram) ∧
      lineEnd ∉ ({} : Settings).font ∧
      (render? quotedDiagram {}).map (fun drawing => (statementLines drawing).map scanStatement) =
        some [some (graphAttributes quotedDiagram {} "12".toList), some (nodeDefaults {}),
          some (edgeDefaults {}), none] := by
  decide +kernel

end ErDiagram.Dot

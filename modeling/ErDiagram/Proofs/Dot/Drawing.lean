import ErDiagram.Proofs.Dot.Statement
import ErDiagram.Proofs.Reading.Total

set_option autoImplicit false

/-!
# A drawing mirrors its diagram

The drawing of an accepted document has four lines at the head, three lines for each entity, three lines
for each relationship and a brace at the end.  Each block of three is a blank line, a comment with the
names and a statement under the ids.  No id stands for two entities, and an edge leads from the node of
its first side to that of its second.  The counts alone decide how many lines there are: no text of the
document opens a line of its own, and none ends the comment that it stands in.
-/

namespace ErDiagram

open IdSource (idOf)

/-! ## Ids of entities -/

section Accepted

variable {ids : IdSource} {lines : List Line} {d : Diagram} {g : Grouping} {options : OptionMap}
  {named : EntityStage} {built : RelationshipStage}

theorem AcceptedAs.ids_nodup (h : AcceptedAs ids lines d g options named built) :
    (d.entities.map (·.id)).Nodup := by
  rw [h.entityIds_eq]
  exact List.Nodup.map (IdSource.idOf_injective _) List.nodup_range'

end Accepted

namespace Dot

variable {s : Settings} {d : Diagram} {size : Text}

/-! ## The layout of a drawing -/

/-- Three lines about one thing: a blank one, a comment in which no character breaks a line, and a
statement that begins with its subject. -/
inductive Block (comment subject : Text) : List Text → Prop where
  | intro (attributes : Text) (hcomment : ∀ c ∈ comment, Text.isLineBreak c = false) :
      Block comment subject
        [[], "  //".toList ++ comment, "  ".toList ++ subject ++ " [".toList ++ attributes ++ [']']]

/-- The block of an entity has its name in the comment and its id in front of the statement. -/
def EntityBlock (e : Entity) (block : List Text) : Prop :=
  Block ("E [".toList ++ e.name ++ [']']) e.id block

/-- The block of a relationship has the names of its sides in the comment, and in front of the statement
an arrow between the ids of the entities of these names. -/
def RelationshipBlock (entities : List Entity) (r : Relationship) (block : List Text) : Prop :=
  ∃ e1 ∈ entities, ∃ e2 ∈ entities, e1.name = r.first.name ∧ e2.name = r.second.name ∧
    Block ("R [".toList ++ r.first.name ++ "]--[".toList ++ r.second.name ++ [']'])
      (e1.id ++ " -> ".toList ++ e2.id) block

/-- The lines of a drawing: four at the head, the blocks of the entities and those of the relationships,
each in the order of the diagram, and a brace. -/
inductive DrawingLines (d : Diagram) : List Text → Prop where
  | intro {title graph nodes edges : Text} {entityBlocks relationshipBlocks : List (List Text)}
      (hentities : List.Forall₂ EntityBlock d.entities entityBlocks)
      (hrelationships :
        List.Forall₂ (RelationshipBlock d.entities) d.relationships relationshipBlocks) :
      DrawingLines d
        (["digraph \"".toList ++ title ++ "\" \x7b".toList, "  graph [".toList ++ graph ++ "];".toList,
            "  node [".toList ++ nodes ++ "];".toList, "  edge [".toList ++ edges ++ "];".toList]
          ++ entityBlocks.flatten ++ relationshipBlocks.flatten ++ [['}']])

/-- The lines mirror the diagram, statement by statement. -/
structure Mirrors (d : Diagram) (lines : List Text) : Prop where
  layout : DrawingLines d lines
  length_eq : lines.length = 5 + 3 * (d.entities.length + d.relationships.length)
  one_line : ∀ line ∈ lines, lineEnd ∉ line
  ids_nodup : (d.entities.map (·.id)).Nodup
  names_nodup : (d.entities.map (·.name)).Nodup

theorem Block.length_eq {comment subject : Text} {block : List Text}
    (h : Block comment subject block) : block.length = 3 := by
  cases h
  rfl

/-- Blocks of three lines add up. -/
theorem length_flatten_of_forall₂ {α : Type} {R : α → List Text → Prop}
    (hblock : ∀ a block, R a block → block.length = 3) {as : List α} {blocks : List (List Text)}
    (h : List.Forall₂ R as blocks) : blocks.flatten.length = 3 * as.length := by
  induction h with
  | nil => rfl
  | cons hfirst _ ih =>
    rw [List.flatten_cons, List.length_append, hblock _ _ hfirst, ih, List.length_cons]
    omega

theorem DrawingLines.length_eq {lines : List Text} (h : DrawingLines d lines) :
    lines.length = 5 + 3 * (d.entities.length + d.relationships.length) := by
  cases h with
  | intro hentities hrelationships =>
    have hnodes := length_flatten_of_forall₂ (fun _ _ hblock => Block.length_eq hblock) hentities
    have hedges := length_flatten_of_forall₂
      (fun _ _ ⟨_, _, _, _, _, _, hblock⟩ => Block.length_eq hblock) hrelationships
    simp only [List.length_append, hnodes, hedges, List.length_cons, List.length_nil]
    omega

/-! ## The lines that are drawn -/

/-- The words of a comment break no line. -/
theorem isLineBreak_of_all {t : Text} (h : (t.all fun c => !Text.isLineBreak c) = true) :
    ∀ c ∈ t, Text.isLineBreak c = false := by
  simpa only [List.all_eq_true, Bool.not_eq_true'] using h

theorem entityBlock_entityLines (d : Diagram) (s : Settings) {e : Entity}
    (hname : ∀ c ∈ e.name, Text.isLineBreak c = false) : EntityBlock e (entityLines d s e) := by
  have hlines : entityLines d s e = [[], "  //".toList ++ ("E [".toList ++ e.name ++ [']']),
      "  ".toList ++ e.id ++ " [".toList ++ writeAttributes (nodeAttributes d s e) ++ [']']] := by
    simp [entityLines, indented, nodeLine]
  rw [hlines]
  refine .intro _ ?_
  simp only [List.forall_mem_append]
  exact ⟨⟨isLineBreak_of_all rfl, hname⟩, isLineBreak_of_all rfl⟩

theorem relationshipBlock_relationshipLines (s : Settings) {r : Relationship} {e1 e2 : Entity}
    (he1 : e1 ∈ d.entities) (he2 : e2 ∈ d.entities) (hname1 : e1.name = r.first.name)
    (hname2 : e2.name = r.second.name) (hid1 : nodeId d r.first.name = e1.id)
    (hid2 : nodeId d r.second.name = e2.id)
    (hbreaks : ∀ name ∈ r.names, ∀ c ∈ name, Text.isLineBreak c = false) :
    RelationshipBlock d.entities r (relationshipLines d s r) := by
  have hlines : relationshipLines d s r =
      [[], "  //".toList ++
          ("R [".toList ++ r.first.name ++ "]--[".toList ++ r.second.name ++ [']']),
        "  ".toList ++ (e1.id ++ " -> ".toList ++ e2.id) ++ " [".toList ++
          writeAttributes (edgeAttributes s r) ++ [']']] := by
    simp [relationshipLines, indented, edgeLine, hid1, hid2]
  rw [hlines]
  refine ⟨e1, he1, e2, he2, hname1, hname2, .intro _ ?_⟩
  simp only [List.forall_mem_append]
  exact ⟨⟨⟨⟨isLineBreak_of_all rfl, hbreaks _ (by simp [Relationship.names])⟩,
    isLineBreak_of_all rfl⟩, hbreaks _ (by simp [Relationship.names])⟩, isLineBreak_of_all rfl⟩

/-- The lines of a drawing are laid out as the diagram says. -/
theorem drawingLines_lines
    (hentities : ∀ e ∈ d.entities, EntityBlock e (entityLines d s e))
    (hrelationships : ∀ r ∈ d.relationships,
      RelationshipBlock d.entities r (relationshipLines d s r)) :
    DrawingLines d (lines d s size) := by
  have hlayout : lines d s size =
      ["digraph \"".toList ++ runPasses quotePasses (graphName d) ++ "\" \x7b".toList,
          "  graph [".toList ++ writeAttributes (graphAttributes d s size) ++ "];".toList,
          "  node [".toList ++ writeAttributes (nodeDefaults s) ++ "];".toList,
          "  edge [".toList ++ writeAttributes (edgeDefaults s) ++ "];".toList]
        ++ (d.entities.map (entityLines d s)).flatten
        ++ (d.relationships.map (relationshipLines d s)).flatten ++ [['}']] := by
    simp [lines, quote, indented, defaultLine, List.flatMap_def]
  rw [hlayout]
  refine .intro ?_ ?_
  · rw [List.forall₂_map_right_iff, List.forall₂_same]
    exact hentities
  · rw [List.forall₂_map_right_iff, List.forall₂_same]
    exact hrelationships

/-- A line end stands behind each line, and so behind the last. -/
theorem getLast?_flatMap_lines (d : Diagram) (s : Settings) (size : Text) :
    ((lines d s size).flatMap fun line => line ++ [lineEnd]).getLast? = some lineEnd := by
  rw [lines, List.flatMap_append, List.flatMap_singleton, ← List.append_assoc,
    List.getLast?_concat]

/-- Whatever text is accepted and however its diagram is drawn, there is a drawing, which ends at the
end of a line and whose lines mirror the diagram. -/
theorem exists_drawing_mirrors {c : Catalog} {ids : IdSource} {t : Text}
    (hread : (readText c ids t).result = .ok (.ok d)) (hfont : lineEnd ∉ s.font) :
    ∃ drawing lines, render? d s = some drawing ∧
      drawing = lines.flatMap (fun line => line ++ [lineEnd]) ∧
      drawing.getLast? = some lineEnd ∧ Mirrors d lines := by
  obtain ⟨g, options, named, built, haccepted⟩ := readDocument_eq_diagram_iff.mp hread
  have hbreaks : ∀ name : Text, name ⊆ charactersOf (Line.ofTexts (Text.lines t)) →
      ∀ c ∈ name, Text.isLineBreak c = false := fun _ hsubset _ hc =>
    isLineBreak_of_mem_charactersOf (hsubset hc)
  have hsource : lineEnd ∉ charactersOf (Line.ofTexts (Text.lines t)) := by
    intro hmem
    exact absurd (isLineBreak_of_mem_charactersOf hmem) (by decide)
  have hspelled := haccepted.spelledWith
  obtain ⟨drawing, hdrawn⟩ := exists_drawing haccepted.isWritable s
  obtain ⟨size, hsize, rfl⟩ := Option.map_eq_some_iff.mp hdrawn
  have hdrawable : Drawable d s size (charactersOf (Line.ofTexts (Text.lines t))) :=
    ⟨haccepted.identified, hspelled, hsource, hfont, hsize⟩
  have hlayout : DrawingLines d (lines d s size) := by
    refine drawingLines_lines ?_ ?_
    · exact fun e he => entityBlock_entityLines d s (hbreaks _ (hspelled.entities e he).name)
    · intro r hr
      obtain ⟨e1, he1, hname1, hid1⟩ :=
        haccepted.exists_entity hr (show r.first.name ∈ r.names by simp [Relationship.names])
      obtain ⟨e2, he2, hname2, hid2⟩ :=
        haccepted.exists_entity hr (show r.second.name ∈ r.names by simp [Relationship.names])
      exact relationshipBlock_relationshipLines s he1 he2 hname1 hname2 hid1 hid2
        fun name hname => hbreaks _ ((hspelled.relationships r hr).names name hname)
  exact ⟨_, lines d s size, hdrawn, rfl, getLast?_flatMap_lines d s size, hlayout,
    hlayout.length_eq, hdrawable.lineEnd_not_mem_lines, haccepted.ids_nodup, haccepted.names_nodup⟩

/-- The drawing of the diagram of tracks has three lines for each of its entities and relationships. -/
theorem mirrors_trackDrawing :
    (readText Catalog.english {} trackText).result = .ok (.ok trackDiagram) ∧
      lineEnd ∉ posterSettings.font ∧
      ∃ lines, trackDrawing = lines.flatMap (fun line => line ++ [lineEnd]) ∧ lines.length = 20 ∧
        Mirrors trackDiagram lines := by
  have hread : (readText Catalog.english {} trackText).result = .ok (.ok trackDiagram) := by
    decide +kernel
  have hfont : lineEnd ∉ posterSettings.font := by decide
  obtain ⟨drawing, lines, hdrawn, hlines, -, hmirrors⟩ := exists_drawing_mirrors hread hfont
  have htrack : render? trackDiagram posterSettings = some trackDrawing := rfl
  rw [htrack, Option.some.injEq] at hdrawn
  exact ⟨hread, hfont, lines, hdrawn.trans hlines, hmirrors.length_eq, hmirrors⟩

end Dot

end ErDiagram

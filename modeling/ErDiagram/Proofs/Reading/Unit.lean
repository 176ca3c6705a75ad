import ErDiagram.Proofs.Notation.Body
import ErDiagram.Proofs.Reading.Blocks

set_option autoImplicit false

/-!
# Documents as sequences of units

A document that can be grouped is a sequence of units: lines of global options, entity blocks and
relationships.  An entity block owns the attribute lines up to the next block or relationship, whatever
global options stand between them.  Grouping sorts the units, and units that are written out one after
the other are grouped again as what they are.
-/

namespace ErDiagram

/-- A unit of a document, as the texts of its lines. -/
inductive DocumentUnit where
  /-- a line of global options -/
  | options (text : Text)
  /-- an entity block: the line that names the entity, and its attribute lines -/
  | block (head : Text) (attributes : List Text)
  /-- a relationship line -/
  | relationship (text : Text)
  deriving DecidableEq, Repr, Inhabited

namespace DocumentUnit

/-- The lines of the unit. -/
def texts : DocumentUnit → List Text
  | options t => [t]
  | block head attributes => head :: attributes
  | relationship t => [t]

def options? : DocumentUnit → Option Text
  | options t => some t
  | _ => none

def block? : DocumentUnit → Option (Text × List Text)
  | block head attributes => some (head, attributes)
  | _ => none

def relationship? : DocumentUnit → Option Text
  | relationship t => some t
  | _ => none

/-- Each line is of the kind that its place in the unit asks for. -/
def Fits : DocumentUnit → Prop
  | options t => (⟨0, t⟩ : Line).kind = .globalOptions
  | block head attributes => (⟨0, head⟩ : Line).kind = .entityName ∧
      ∀ t ∈ attributes, (⟨0, t⟩ : Line).kind = .entityAttribute
  | relationship t => (⟨0, t⟩ : Line).kind = .relationship

end DocumentUnit

/-- The attribute lines up to the next heading. -/
def attributesAhead (lines : List Line) : List Line :=
  linesOfKind .entityAttribute (lines.takeWhile fun line => !line.isHeading)

/-- The units of a document, in document order. -/
def unitsOf : List Line → List DocumentUnit
  | [] => []
  | line :: rest =>
    match line.kind with
    | .globalOptions => .options line.text :: unitsOf rest
    | .entityName => .block line.text ((attributesAhead rest).map (·.text)) :: unitsOf rest
    | .relationship => .relationship line.text :: unitsOf rest
    | .entityAttribute | .blank | .commentOnly | .unknown => unitsOf rest

/-! ## Attribute lines -/

theorem attributesAhead_cons (line : Line) (rest : List Line) :
    attributesAhead (line :: rest) =
      if line.isHeading = true then []
      else if line.kind = .entityAttribute then line :: attributesAhead rest
      else attributesAhead rest := by
  unfold attributesAhead
  rw [List.takeWhile_cons]
  cases line.isHeading with
  | true => rfl
  | false => exact linesOfKind_cons _ _ _

theorem mem_attributesAhead {line : Line} {lines : List Line} (h : line ∈ attributesAhead lines) :
    line.kind = .entityAttribute :=
  (mem_linesOfKind.mp h).2

section Attributes

variable {attributes : List Line} (hkind : ∀ line ∈ attributes, line.kind = .entityAttribute)
include hkind

theorem attributesAhead_append (rest : List Line) :
    attributesAhead (attributes ++ rest) = attributes ++ attributesAhead rest := by
  induction attributes with
  | nil => rfl
  | cons line attributes ih =>
    have hline := hkind line List.mem_cons_self
    have hrest := ih fun l hl => hkind l (List.mem_cons_of_mem _ hl)
    rw [List.cons_append, attributesAhead_cons, Line.isHeading, hline, hrest]
    rfl

theorem unitsOf_attributes (rest : List Line) : unitsOf (attributes ++ rest) = unitsOf rest := by
  induction attributes with
  | nil => rfl
  | cons line attributes ih =>
    simp only [List.cons_append, unitsOf, hkind line List.mem_cons_self]
    exact ih fun l hl => hkind l (List.mem_cons_of_mem _ hl)

end Attributes

/-! ## Grouping as sorting -/

/-- The texts of the lines of a block. -/
def Block.texts (b : Block) : Text × List Text := (b.head.text, b.attributes.map (·.text))

namespace Grouping

/-- The queues hold the units, each kind in order. -/
structure Holds (g : Grouping) (units : List DocumentUnit) : Prop where
  options : g.options.map (·.text) = units.filterMap DocumentUnit.options?
  blocks : g.blocks.map Block.texts = units.filterMap DocumentUnit.block?
  relationships : g.relationships.map (·.text) = units.filterMap DocumentUnit.relationship?

/-- The lines of each kind hold the units of this kind. -/
theorem holds_unitsOf (lines : List Line) :
    Holds ⟨linesOfKind .globalOptions lines, blocksOf lines, linesOfKind .relationship lines⟩
      (unitsOf lines) := by
  induction lines with
  | nil => exact ⟨rfl, rfl, rfl⟩
  | cons line rest ih =>
    obtain ⟨hoptions, hblocks, hrelationships⟩ := ih
    rw [linesOfKind_cons, linesOfKind_cons, blocksOf]
    cases hkind : line.kind with
    | blank | commentOnly | entityAttribute | unknown =>
      simp only [unitsOf, hkind]
      exact ⟨hoptions, hblocks, hrelationships⟩
    | globalOptions =>
      simp only [unitsOf, hkind]
      exact ⟨congrArg (line.text :: ·) hoptions, hblocks, hrelationships⟩
    | entityName =>
      simp only [unitsOf, hkind]
      exact ⟨hoptions, congrArg (Block.texts ⟨line, attributesAhead rest⟩ :: ·) hblocks,
        hrelationships⟩
    | relationship =>
      simp only [unitsOf, hkind]
      exact ⟨hoptions, hblocks, congrArg (line.text :: ·) hrelationships⟩

theorem holds_of_ofLines {lines : List Line} {g : Grouping} (h : ofLines lines = .ok g) :
    g.Holds (unitsOf lines) := by
  obtain ⟨hoptions, -, hrelationships⟩ := sorts_of_ofLines h
  obtain ⟨-, hblocks, -⟩ := blocks_of_ofLines h
  obtain ⟨hoptions', hblocks', hrelationships'⟩ := holds_unitsOf lines
  rw [← hoptions] at hoptions'
  rw [← hblocks] at hblocks'
  rw [← hrelationships] at hrelationships'
  exact ⟨hoptions', hblocks', hrelationships'⟩

end Grouping

/-! ## Units that are written out -/

/-- The units of a document consist of lines of the kinds that they need. -/
theorem fits_of_mem_unitsOf {lines : List Line} : ∀ unit ∈ unitsOf lines, unit.Fits := by
  induction lines with
  | nil => exact nofun
  | cons line rest ih =>
    cases hkind : line.kind with
    | blank | commentOnly | entityAttribute | unknown =>
      simp only [unitsOf, hkind]
      exact ih
    | globalOptions | relationship =>
      simp only [unitsOf, hkind]
      exact List.forall_mem_cons.mpr ⟨(Line.kind_eq_of_text_eq rfl).trans hkind, ih⟩
    | entityName =>
      simp only [unitsOf, hkind]
      refine List.forall_mem_cons.mpr ⟨⟨(Line.kind_eq_of_text_eq rfl).trans hkind, ?_⟩, ih⟩
      intro t ht
      obtain ⟨own, hown, rfl⟩ := List.mem_map.mp ht
      have hkind : (⟨0, own.text⟩ : Line).kind = own.kind := Line.kind_eq_of_text_eq rfl
      exact hkind.trans (mem_attributesAhead hown)

/-- What is grouped when units are written out: the units, and no attribute in front of them. -/
structure GroupedAs (lines : List Line) (units : List DocumentUnit) : Prop where
  grouped : ∀ isOpen, ∃ g, Grouping.ofLinesFrom isOpen lines = .ok ([], g)
  units_eq : unitsOf lines = units
  ahead_eq : attributesAhead lines = []

theorem groupedAs_of_texts {units : List DocumentUnit} (hfits : ∀ unit ∈ units, unit.Fits) :
    ∀ {lines : List Line}, lines.map (·.text) = units.flatMap DocumentUnit.texts →
      GroupedAs lines units := by
  induction units with
  | nil =>
    intro lines hlines
    rw [List.flatMap_nil, List.map_eq_nil_iff] at hlines
    rw [hlines]
    exact ⟨fun _ => ⟨_, rfl⟩, rfl, rfl⟩
  | cons unit units ih =>
    intro lines hlines
    obtain ⟨hunit, hunits⟩ := List.forall_mem_cons.mp hfits
    rw [List.flatMap_cons] at hlines
    obtain ⟨own, rest, rfl, hown, hrest⟩ := List.map_eq_append_iff.mp hlines
    have hbehind := ih hunits hrest
    cases unit with
    | options t =>
      obtain ⟨line, rfl, rfl⟩ := List.map_eq_singleton_iff.mp hown
      have hkind : line.kind = .globalOptions := (Line.kind_eq_of_text_eq rfl).trans hunit
      constructor
      case grouped =>
        intro isOpen
        obtain ⟨g, hg⟩ := hbehind.grouped isOpen
        simp only [List.cons_append, List.nil_append, Grouping.ofLinesFrom, hkind, hg]
        exact ⟨_, rfl⟩
      case units_eq =>
        simp only [List.cons_append, List.nil_append, unitsOf, hkind, hbehind.units_eq]
      case ahead_eq =>
        rw [List.cons_append, attributesAhead_cons, Line.isHeading, hkind]
        exact hbehind.ahead_eq
    | block head attributes =>
      obtain ⟨line, own, rfl, rfl, hattributes⟩ := List.map_eq_cons_iff.mp hown
      have hkind : line.kind = .entityName := (Line.kind_eq_of_text_eq rfl).trans hunit.1
      have hkinds : ∀ l ∈ own, l.kind = .entityAttribute := by
        intro l hl
        have ht : l.text ∈ attributes := hattributes ▸ List.mem_map_of_mem hl
        exact (Line.kind_eq_of_text_eq rfl).trans (hunit.2 l.text ht)
      constructor
      case grouped =>
        intro isOpen
        obtain ⟨g, hg⟩ := hbehind.grouped true
        simp only [List.cons_append, Grouping.ofLinesFrom, hkind,
          Grouping.ofLinesFrom_attributes hkinds, hg]
        exact ⟨_, rfl⟩
      case units_eq =>
        simp only [List.cons_append, unitsOf, hkind, unitsOf_attributes hkinds, hbehind.units_eq,
          attributesAhead_append hkinds, hbehind.ahead_eq, List.append_nil, hattributes]
      case ahead_eq =>
        rw [List.cons_append, attributesAhead_cons, Line.isHeading, hkind]
        rfl
    | relationship t =>
      obtain ⟨line, rfl, rfl⟩ := List.map_eq_singleton_iff.mp hown
      have hkind : line.kind = .relationship := (Line.kind_eq_of_text_eq rfl).trans hunit
      constructor
      case grouped =>
        intro isOpen
        obtain ⟨g, hg⟩ := hbehind.grouped false
        simp only [List.cons_append, List.nil_append, Grouping.ofLinesFrom, hkind, hg]
        exact ⟨_, rfl⟩
      case units_eq =>
        simp only [List.cons_append, List.nil_append, unitsOf, hkind, hbehind.units_eq]
      case ahead_eq =>
        rw [List.cons_append, attributesAhead_cons, Line.isHeading, hkind]
        rfl

/-- The lines can be grouped, and these are their units. -/
structure HasUnits (lines : List (Option Text)) (units : List DocumentUnit) : Prop where
  grouped : ∃ g, Grouping.ofLines (Line.ofTexts (lines.map fun l => l.getD [])) = .ok g
  units_eq : unitsOf (Line.ofTexts (lines.map fun l => l.getD [])) = units

/-- Units that fit can be written out, one after the other. -/
theorem hasUnits_texts {units : List DocumentUnit} (hfits : ∀ unit ∈ units, unit.Fits) :
    HasUnits ((units.flatMap DocumentUnit.texts).map some) units := by
  have htexts : ((units.flatMap DocumentUnit.texts).map some).map (fun l => l.getD []) =
      units.flatMap DocumentUnit.texts := by
    rw [List.map_map]
    exact List.map_id _
  have hgrouped := groupedAs_of_texts hfits (Line.map_text_ofTexts (units.flatMap DocumentUnit.texts))
  obtain ⟨g, hg⟩ := hgrouped.grouped false
  constructor
  case grouped =>
    refine ⟨g, ?_⟩
    rw [htexts, Grouping.ofLines, hg]
    rfl
  case units_eq =>
    rw [htexts]
    exact hgrouped.units_eq

end ErDiagram

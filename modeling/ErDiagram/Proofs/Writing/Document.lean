import ErDiagram.Proofs.Collection
import ErDiagram.Proofs.Reading.Block
import ErDiagram.Proofs.Writing.Attribute
import ErDiagram.Proofs.Writing.Line

set_option autoImplicit false

/-!
# Writing documents

A document is written as its units in any order: option lists of the diagram, entity blocks and
relationships.  Grouping the written lines gives back the units of each kind, in order.
-/

namespace ErDiagram

/-- An entity block.  Its attributes have distinct names. -/
structure WrittenEntity where
  head : WrittenHead
  attributes : List WrittenAttribute
  nodup : (attributes.map (·.name.text)).Nodup

/-- The name of the entity. -/
def WrittenEntity.name (e : WrittenEntity) : Text := e.head.part.name.text

/-- A unit of a document. -/
inductive WrittenUnit where
  | options (s : WrittenOptions OptionName.ofDiagram)
  | entity (e : WrittenEntity)
  | relationship (r : WrittenRelationship)

namespace WrittenUnit

/-- The lines of a unit: a block takes one for its name and one for each attribute. -/
def lines : WrittenUnit → List Text
  | options s => [s.line]
  | entity e => e.head.written :: e.attributes.map (·.written)
  | relationship r => [r.written]

def options? : WrittenUnit → Option (WrittenOptions OptionName.ofDiagram)
  | options s => some s
  | _ => none

def entity? : WrittenUnit → Option WrittenEntity
  | entity e => some e
  | _ => none

def relationship? : WrittenUnit → Option WrittenRelationship
  | relationship r => some r
  | _ => none

end WrittenUnit

/-- A document.  Its entity blocks have distinct names. -/
structure WrittenDocument where
  units : List WrittenUnit
  nodup : ((units.filterMap WrittenUnit.entity?).map (·.name)).Nodup

namespace WrittenDocument

variable (doc : WrittenDocument)

/-- The lines of the document. -/
def lines : List Text := doc.units.flatMap WrittenUnit.lines

/-- The option lists of the diagram, in order. -/
def options : List (WrittenOptions OptionName.ofDiagram) :=
  doc.units.filterMap WrittenUnit.options?

/-- The entity blocks, in order. -/
def entities : List WrittenEntity := doc.units.filterMap WrittenUnit.entity?

/-- The relationships, in order. -/
def relationships : List WrittenRelationship := doc.units.filterMap WrittenUnit.relationship?

end WrittenDocument

/-! ## Grouping -/

/-- The block has the lines that are written for the entity. -/
structure Block.Writes (b : Block) (e : WrittenEntity) : Prop where
  head : b.head.text = e.head.written
  attributes : List.Forall₂ (fun line a => line.text = WrittenAttribute.written a) b.attributes
    e.attributes

/-- The queues have the lines that are written for the units. -/
structure Grouping.Writes (g : Grouping) (units : List WrittenUnit) : Prop where
  options : List.Forall₂ (fun line s => line.text = WrittenOptions.line s) g.options
    (units.filterMap WrittenUnit.options?)
  blocks : List.Forall₂ Block.Writes g.blocks (units.filterMap WrittenUnit.entity?)
  relationships : List.Forall₂ (fun line r => line.text = WrittenRelationship.written r)
    g.relationships (units.filterMap WrittenUnit.relationship?)

/-- The lines of units are grouped into these units, whatever numbers they have. -/
theorem Grouping.ofLinesFrom_written {units : List WrittenUnit} :
    ∀ {lines : List Line} {isOpen : Bool}, lines.map (·.text) = units.flatMap WrittenUnit.lines →
      ∃ g, ofLinesFrom isOpen lines = .ok ([], g) ∧ g.Writes units := by
  induction units with
  | nil =>
    intro lines isOpen hlines
    rw [List.flatMap_nil, List.map_eq_nil_iff] at hlines
    rw [hlines]
    exact ⟨{}, rfl, .nil, .nil, .nil⟩
  | cons unit units ih =>
    intro lines isOpen hlines
    rw [List.flatMap_cons] at hlines
    cases unit with
    | options s =>
      obtain ⟨line, rest, rfl, hline, hrest⟩ := List.map_eq_cons_iff.mp hlines
      obtain ⟨g, hgroup, hwrites⟩ := @ih rest isOpen hrest
      refine ⟨{ g with options := line :: g.options }, ?_, ?_⟩
      · simp only [ofLinesFrom, s.kind_line hline, hgroup]
        rfl
      · exact ⟨.cons hline hwrites.options, hwrites.blocks, hwrites.relationships⟩
    | entity e =>
      obtain ⟨line, behind, rfl, hline, hbehind⟩ := List.map_eq_cons_iff.mp hlines
      obtain ⟨attributes, rest, rfl, hattributes, hrest⟩ := List.map_eq_append_iff.mp hbehind
      obtain ⟨g, hgroup, hwrites⟩ := @ih rest true hrest
      have hpairs := forall₂_map_eq_iff.mpr hattributes
      have hkind : ∀ l ∈ attributes, l.kind = .entityAttribute := by
        intro l hl
        obtain ⟨a, -, ha⟩ := exists_of_mem_left hpairs hl
        exact a.kind_written ha
      refine ⟨{ g with blocks := ⟨line, attributes⟩ :: g.blocks }, ?_, ?_⟩
      · simp only [ofLinesFrom, e.head.kind_written hline, ofLinesFrom_attributes hkind, hgroup]
        simp [Except.map]
      · exact ⟨hwrites.options, .cons ⟨hline, hpairs⟩ hwrites.blocks, hwrites.relationships⟩
    | relationship r =>
      obtain ⟨line, rest, rfl, hline, hrest⟩ := List.map_eq_cons_iff.mp hlines
      obtain ⟨g, hgroup, hwrites⟩ := @ih rest false hrest
      refine ⟨{ g with relationships := line :: g.relationships }, ?_, ?_⟩
      · simp only [ofLinesFrom, r.kind_written hline, hgroup]
        rfl
      · exact ⟨hwrites.options, hwrites.blocks, .cons hline hwrites.relationships⟩

theorem Grouping.ofLines_written {doc : WrittenDocument} {lines : List Line}
    (hlines : lines.map (·.text) = doc.lines) :
    ∃ g, ofLines lines = .ok g ∧ g.Writes doc.units := by
  obtain ⟨g, hgroup, hwrites⟩ := @ofLinesFrom_written doc.units lines false hlines
  exact ⟨g, by rw [ofLines, hgroup]; rfl, hwrites⟩

end ErDiagram

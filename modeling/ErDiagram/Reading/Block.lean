import ErDiagram.Diagram.Model
import ErDiagram.Reading.LineReader

set_option autoImplicit false

/-!
# Blocks

The lines of a document form units.  They are grouped before anything in them is read, and then an
entity block is read from its attributes to its name.
-/

namespace ErDiagram

/-! ## Grouping lines

The lines of a document form units: lines of global options, entity blocks made of a name and
attributes, and relationship lines.  An attribute belongs to the entity named last before it, unless
a relationship stands between.  Blank lines, comments and global options neither open nor close a
block. -/

/-- An entity block: the line that names the entity, and its attribute lines. -/
structure Block where
  head : Line
  attributes : List Line := []
  deriving DecidableEq, Repr, Inhabited

/-- The units of a document, each kind in document order. -/
structure Grouping where
  options : List Line := []
  blocks : List Block := []
  relationships : List Line := []
  deriving DecidableEq, Repr, Inhabited

/-- The first line that does not fit. -/
inductive GroupingFault where
  /-- the line has no kind -/
  | unclassified (line : Line)
  /-- the line is an attribute, and no block is open -/
  | notOpened (line : Line)
  deriving DecidableEq, Repr, Inhabited

/-- The line that does not fit. -/
def GroupingFault.line : GroupingFault → Line
  | .unclassified l => l
  | .notOpened l => l

/-- Why the line does not fit. -/
def GroupingFault.cause : GroupingFault → Cause
  | .unclassified _ => .unknownLineType
  | .notOpened _ => .entityNotOpened

namespace Grouping

/-- Groups lines, given whether a block is open in front of them.  The attribute lines that belong to the
open block come apart from the units. -/
def ofLinesFrom : Bool → List Line → Except GroupingFault (List Line × Grouping)
  | _, [] => .ok ([], {})
  | isOpen, line :: rest =>
    match line.kind with
    | .blank | .commentOnly => ofLinesFrom isOpen rest
    | .globalOptions =>
      (ofLinesFrom isOpen rest).map fun r => (r.1, { r.2 with options := line :: r.2.options })
    | .entityName =>
      (ofLinesFrom true rest).map fun r => ([], { r.2 with blocks := ⟨line, r.1⟩ :: r.2.blocks })
    | .entityAttribute =>
      if isOpen then (ofLinesFrom true rest).map fun r => (line :: r.1, r.2)
      else .error (.notOpened line)
    | .relationship =>
      (ofLinesFrom false rest).map fun r =>
        (r.1, { r.2 with relationships := line :: r.2.relationships })
    | .unknown => .error (.unclassified line)

/-- Groups the lines of a document. -/
def ofLines (lines : List Line) : Except GroupingFault Grouping :=
  (ofLinesFrom false lines).map (·.2)

end Grouping

/-! ## Reading units

An entity block is read from its attributes to its name, and a relationship from its one line.
Neither has an id yet. -/

/-- Reads attribute lines, behind the attributes `before`; a name may come once. -/
def readAttributes (before : List Attribute) : List Line → Reading (List Attribute)
  | [] => pure before
  | line :: rest => do
    let read ← readAttributeLine line
    Reading.refuse (some line)
      (if before.any (fun a => a.name == read.name) then some (.duplicateAttrName read.name) else none)
    readAttributes (before ++ [⟨read.name, read.isPrimaryKey, read.isForeignKey, read.options⟩]) rest

/-- Reads an entity block as the entity that gets a given id. -/
def Block.read (b : Block) (id : Text) : Reading Entity := do
  let attributes ← readAttributes [] b.attributes
  let head ← readEntityLine b.head
  pure ⟨id, head.name, head.dependency, attributes, head.options⟩

/-- The relationship of a line, under an id. -/
def RelationshipLine.toRelationship (r : RelationshipLine) (id : Text) : Relationship :=
  ⟨id, ⟨r.entity1, r.dependency1⟩, ⟨r.entity2, r.dependency2⟩, r.cardinality, r.verb, r.options⟩

/-- Reads lines as the relationship that gets a given id; there has to be one line. -/
def readRelationship (lines : List Line) (id : Text) : Reading Relationship :=
  match lines with
  | [line] => do
    let read ← readRelationshipLine line
    pure (read.toRelationship id)
  | _ => Reading.fail (.cause .relationshipLineCount none)

end ErDiagram

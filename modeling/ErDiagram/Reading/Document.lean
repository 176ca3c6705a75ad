import ErDiagram.Diagram.Inference
import ErDiagram.Reading.Block

set_option autoImplicit false

/-!
# Reading documents

A document is read in four stages: its lines are grouped into units, then come the global options,
the entity blocks and the relationships.  Grouping ends at the first line that does not fit.  Each
of the other stages reports all of its errors, and the next one begins only if there are none.
Entities that are only mentioned by relationships are added, and dependencies are inferred at the
end.
-/

namespace ErDiagram

/-! ## The three stages behind grouping -/

/-- Reads a line of global options over the options so far. -/
def readGlobalOptions (base : OptionMap) (line : Line) : Reading OptionMap := do
  let raw ← Reading.on (some line) (readOptionList (stripBrackets line.body [.curly]))
  applyOptions raw OptionName.ofDiagram base (some line)

/-- The step of a line of global options: a line with a fault changes nothing. -/
def stepOptions (options : OptionMap) (line : Line) : StageStep OptionMap :=
  match readGlobalOptions options line with
  | ⟨log, .ok read⟩ => ⟨read, log, none⟩
  | ⟨log, .error fault⟩ => ⟨options, log, some fault⟩

/-- The entities so far, and the ids handed out. -/
structure EntityStage where
  ids : IdSource
  entities : List Entity := []
  deriving DecidableEq, Repr, Inhabited

/-- Some entity has this name. -/
def hasEntity (entities : List Entity) (name : Text) : Bool := entities.any fun e => e.name == name

/-- The step of an entity block.  A block that is read takes an id, even if its name is taken. -/
def stepBlock (stage : EntityStage) (block : Block) : StageStep EntityStage :=
  match block.read stage.ids.nextEntity.1 with
  | ⟨log, .error fault⟩ => ⟨stage, log, some fault⟩
  | ⟨log, .ok entity⟩ =>
    let ids := stage.ids.nextEntity.2
    if hasEntity stage.entities entity.name then
      ⟨⟨ids, stage.entities⟩, log, some (.cause (.duplicateEntityName entity.name) (some block.head))⟩
    else ⟨⟨ids, stage.entities ++ [entity]⟩, log, none⟩

/-- The entities and relationships so far, and the ids handed out. -/
structure RelationshipStage where
  ids : IdSource
  entities : List Entity
  relationships : List Relationship := []
  deriving DecidableEq, Repr, Inhabited

/-- The stage with a relationship behind the others, for which the next id has been taken. -/
def RelationshipStage.add (stage : RelationshipStage) (r : Relationship) : RelationshipStage :=
  { stage with
    ids := stage.ids.nextRelationship.2
    relationships := stage.relationships ++ [r] }

/-- Adds an independent entity of a name that no entity has. -/
def RelationshipStage.mention (stage : RelationshipStage) (name : Text) :
    RelationshipStage × List Event :=
  if hasEntity stage.entities name then (stage, [])
  else
    let (id, ids) := stage.ids.nextEntity
    ({ stage with ids := ids, entities := stage.entities ++ [{ id := id, name := name }] },
      [.entityAdded name])

/-- The step of a relationship line.  The entities that it mentions first are added behind it. -/
def stepRelationship (stage : RelationshipStage) (line : Line) : StageStep RelationshipStage :=
  match readRelationship [line] stage.ids.nextRelationship.1 with
  | ⟨log, .error fault⟩ => ⟨stage, log, some fault⟩
  | ⟨log, .ok relationship⟩ =>
    let (first, events1) := (stage.add relationship).mention relationship.first.name
    let (second, events2) := first.mention relationship.second.name
    ⟨second, log ++ events1 ++ events2, none⟩

/-! ## Documents -/

/-- What reading a document leaves: the ids handed out, what was recorded, and the diagram, or the errors,
or why there is no answer. -/
structure DocumentReading where
  ids : IdSource
  log : List Event
  result : Except Halt (Except (List Report) Diagram)
  deriving Inhabited

namespace DocumentReading

/-- A reading that halts. -/
def halted (ids : IdSource) (log : List Event) (cause : Halt) : DocumentReading :=
  ⟨ids, log, .error cause⟩

/-- A reading that ends with errors. -/
def rejected (ids : IdSource) (log : List Event) (reports : List Report) : DocumentReading :=
  ⟨ids, log, .ok (.error reports)⟩

end DocumentReading

/-- The diagram of all that was read, with its inferred dependencies. -/
def inferredDiagram (options : OptionMap) (entities : List Entity)
    (relationships : List Relationship) : Diagram :=
  let inferred := propagate entities relationships
  ⟨inferred, align inferred relationships, options⟩

/-- What inference and the end of reading record. -/
def inferenceEvents (entities : List Entity) (relationships : List Relationship) : List Event :=
  propagateEvents entities relationships
    ++ alignEvents (propagate entities relationships) relationships
    ++ [.built entities.length relationships.length]

/-- Reads relationships, behind the options and the entities. -/
def readRelationships (c : Catalog) (log : List Event) (options : OptionMap) (before : EntityStage)
    (lines : List Line) : DocumentReading :=
  match Stage.through c stepRelationship ⟨⟨before.ids, before.entities, []⟩, log, []⟩ lines with
  | .error halt => .halted halt.state.ids halt.log halt.cause
  | .ok stage =>
    let built := stage.state
    if stage.reports.isEmpty then
      ⟨built.ids, stage.log ++ inferenceEvents built.entities built.relationships,
        .ok (.ok (inferredDiagram options built.entities built.relationships))⟩
    else
      .rejected built.ids (stage.log ++ [.relationshipsFailed stage.reports.length]) stage.reports

/-- Reads entity blocks and what follows them, behind the options. -/
def readEntities (c : Catalog) (ids : IdSource) (log : List Event) (options : OptionMap)
    (g : Grouping) : DocumentReading :=
  match Stage.through c stepBlock ⟨⟨ids, []⟩, log, []⟩ g.blocks with
  | .error halt => .halted halt.state.ids halt.log halt.cause
  | .ok stage =>
    if stage.reports.isEmpty then readRelationships c stage.log options stage.state g.relationships
    else
      .rejected stage.state.ids (stage.log ++ [.entitiesFailed stage.reports.length]) stage.reports

/-- Reads the units of a document. -/
def readUnits (c : Catalog) (ids : IdSource) (log : List Event) (g : Grouping) : DocumentReading :=
  match Stage.through c stepOptions ⟨OptionMap.ofNames OptionName.ofDiagram, log, []⟩ g.options with
  | .error halt => .halted ids halt.log halt.cause
  | .ok stage =>
    if stage.reports.isEmpty then readEntities c ids stage.log stage.state g
    else .rejected ids (stage.log ++ [.optionsFailed stage.reports.length]) stage.reports

/-- What is recorded about a line that does not fit. -/
def GroupingFault.events : GroupingFault → List Event
  | .unclassified line => [.unclassified line.number]
  | .notOpened _ => []

/-- What is recorded about the units of a document. -/
def Grouping.event (g : Grouping) : Event :=
  .grouped g.options.length g.blocks.length g.relationships.length

/-- Reads numbered lines. -/
def readDocument (c : Catalog) (ids : IdSource) (lines : List Line) : DocumentReading :=
  match Grouping.ofLines lines with
  | .error fault =>
    match c.describe (.cause fault.cause (some fault.line)) with
    | .error cause => .halted ids fault.events cause
    | .ok report => .rejected ids fault.events [report]
  | .ok g => readUnits c ids [g.event] g

/-- Reads lines that are numbered from one; a missing line is an empty one. -/
def readLines (c : Catalog) (ids : IdSource) (lines : List (Option Text)) : DocumentReading :=
  readDocument c ids (Line.ofTexts (lines.map fun l => l.getD []))

/-- Reads a text, line by line. -/
def readText (c : Catalog) (ids : IdSource) (t : Text) : DocumentReading :=
  readDocument c ids (Line.ofTexts (Text.lines t))

end ErDiagram

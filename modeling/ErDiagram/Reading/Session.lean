import ErDiagram.Reading.Document

set_option autoImplicit false

/-!
# Sessions

Several documents may be read one after the other with the ids of one source, which keeps counting
across them, also when a document is wrong.  A session holds the sources of ids, a document and a
block that are open, and which source each of them was opened with.
-/

namespace ErDiagram

/-- A document that is open for more lines, and the number of its source of ids. -/
structure OpenDocument where
  source : Nat
  lines : List Line
  deriving DecidableEq, Repr, Inhabited

/-- An entity block that is open for more attributes, and the number of its source of ids. -/
structure OpenBlock where
  source : Nat
  block : Block
  deriving DecidableEq, Repr, Inhabited

/-- The sources of ids, the last being the one in use, and what is open. -/
structure Session where
  sources : List IdSource := [{}]
  document : Option OpenDocument := none
  block : Option OpenBlock := none
  deriving DecidableEq, Repr, Inhabited

/-- Something that is asked of a session. -/
inductive SessionStep where
  /-- use a fresh source of ids from now on -/
  | freshIds
  /-- hand out an id of a word -/
  | nextId (word : Text)
  /-- read a document of these lines -/
  | readLines (lines : List (Option Text))
  /-- read a document of this text -/
  | readText (t : Text)
  /-- open a document of these lines -/
  | openDocument (lines : List (Option Text))
  /-- put a line at the end of the open document -/
  | appendLine (line : Line)
  /-- read the open document -/
  | readDocument
  /-- open an entity block -/
  | openBlock (block : Block)
  /-- put an attribute line at the end of the open block -/
  | addAttribute (line : Line)
  /-- read the open block -/
  | readBlock
  /-- read a relationship of these lines -/
  | readRelationship (lines : List Line)
  deriving DecidableEq, Repr, Inhabited

/-- What a session answers. -/
inductive SessionAnswer where
  | done
  | id (t : Text)
  | diagram (d : Diagram)
  /-- a document is wrong -/
  | rejected (reports : List Report)
  /-- the open document has been read, with or without errors -/
  | checked (result : Except (List Report) Diagram)
  /-- the number of lines of the open document -/
  | lineCount (n : Nat)
  /-- the number of attribute lines of the open block -/
  | attributeCount (n : Nat)
  | entity (e : Entity)
  | relationship (r : Relationship)
  /-- a block or a relationship is wrong -/
  | reported (r : Report)
  /-- reading came to a halt -/
  | halted (cause : Halt)
  /-- nothing is open that the step could go to -/
  | nothingOpen
  deriving Inhabited

/-- The session after a step, what was recorded, and the answer. -/
structure SessionResult where
  session : Session
  log : List Event := []
  answer : SessionAnswer
  deriving Inhabited

namespace Session

/-- The number of the source of ids in use. -/
def current (s : Session) : Nat := s.sources.length - 1

/-- The source of ids of a number. -/
def source (s : Session) (n : Nat) : IdSource := s.sources[n]?.getD {}

/-- The session after ids were taken from a source. -/
def withSource (s : Session) (n : Nat) (ids : IdSource) : Session :=
  { s with sources := s.sources.set n ids }

/-- Reads a document with a source of ids. -/
def read (s : Session) (n : Nat) (reader : IdSource → DocumentReading)
    (answer : Except (List Report) Diagram → SessionAnswer) : SessionResult :=
  let reading := reader (s.source n)
  let after := s.withSource n reading.ids
  match reading.result with
  | .error cause => ⟨after, reading.log, .halted cause⟩
  | .ok result => ⟨after, reading.log, answer result⟩

/-- The answer about a document that is read at once. -/
def answerAtOnce : Except (List Report) Diagram → SessionAnswer
  | .ok d => .diagram d
  | .error reports => .rejected reports

/-- Reads one unit with a source of ids, which hands out an id if the unit is right. -/
def readUnit {α : Type} (c : Catalog) (s : Session) (n : Nat) (next : Text × IdSource)
    (reader : Text → Reading α) (answer : α → SessionAnswer) : SessionResult :=
  match reader next.1 with
  | ⟨log, .ok a⟩ => ⟨s.withSource n next.2, log, answer a⟩
  | ⟨log, .error fault⟩ =>
    match c.describe fault with
    | .ok report => ⟨s, log, .reported report⟩
    | .error cause => ⟨s, log, .halted cause⟩

/-- Takes one step. -/
def step (c : Catalog) (s : Session) : SessionStep → SessionResult
  | .freshIds => ⟨{ s with sources := s.sources ++ [{}] }, [], .done⟩
  | .nextId word =>
    let (id, ids) := (s.source s.current).next word
    ⟨s.withSource s.current ids, [], .id id⟩
  | .readLines lines => s.read s.current (fun ids => ErDiagram.readLines c ids lines) answerAtOnce
  | .readText t => s.read s.current (fun ids => ErDiagram.readText c ids t) answerAtOnce
  | .openDocument lines =>
    ⟨{ s with document := some ⟨s.current, Line.ofTexts (lines.map fun l => l.getD [])⟩ }, [],
      .lineCount lines.length⟩
  | .appendLine line =>
    match s.document with
    | none => ⟨s, [], .nothingOpen⟩
    | some d =>
      ⟨{ s with document := some ⟨d.source, d.lines ++ [line]⟩ }, [],
        .lineCount (d.lines.length + 1)⟩
  | .readDocument =>
    match s.document with
    | none => ⟨s, [], .nothingOpen⟩
    | some d => s.read d.source (fun ids => ErDiagram.readDocument c ids d.lines) .checked
  | .openBlock block =>
    ⟨{ s with block := some ⟨s.current, block⟩ }, [], .attributeCount block.attributes.length⟩
  | .addAttribute line =>
    match s.block with
    | none => ⟨s, [], .nothingOpen⟩
    | some b =>
      ⟨{ s with block := some ⟨b.source, ⟨b.block.head, b.block.attributes ++ [line]⟩⟩ }, [],
        .attributeCount (b.block.attributes.length + 1)⟩
  | .readBlock =>
    match s.block with
    | none => ⟨s, [], .nothingOpen⟩
    | some b => readUnit c s b.source (s.source b.source).nextEntity b.block.read .entity
  | .readRelationship lines =>
    readUnit c s s.current (s.source s.current).nextRelationship (ErDiagram.readRelationship lines)
      .relationship

end Session

end ErDiagram

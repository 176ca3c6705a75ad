import ErDiagram.Command.Arguments
import ErDiagram.Command.FileTree
import ErDiagram.Dot.Render
import ErDiagram.Message.Document
import ErDiagram.Reading.Document
import ErDiagram.Yaml.Document

set_option autoImplicit false

/-!
# Running the command

The command reads a diagram text and writes its drawing.  It looks for its input first, then reads
the settings and the words of error reports, then the text.  What is wrong is said on the error
channel, and the drawing is written only if nothing is.
-/

namespace ErDiagram

/-- Why a run breaks off without an answer of its own. -/
inductive Crash where
  | file (p : Path) (fault : FileFault)
  | document (fault : Yaml.Fault)
  | catalog (fault : CatalogFault)
  | halt (cause : Halt)
  /-- a number has too many digits to be written -/
  | unwritable
  deriving Inhabited

/-- Why a run ends without a drawing. -/
inductive RunFault where
  /-- a complaint about the input, the settings or the words -/
  | complaint (message : Text)
  /-- the diagram text is wrong -/
  | rejected (reports : List Report)
  | crash (c : Crash)
  deriving Inhabited

/-- How a run ends. -/
structure RunResult where
  status : Nat
  output : Text := []
  errors : Text := []
  files : FileTree
  deriving Inhabited

/-- What comes of a command line. -/
inductive Outcome where
  | finished (r : RunResult)
  | listing
  | usage (fault : UsageFault)
  | crashed (c : Crash)
  deriving Inhabited

/-! ## Documents -/

/-- The end of a run whose document has no value.  Only a malformed one is a matter of complaint. -/
def RunFault.ofDocument : Yaml.Fault → RunFault
  | .malformed => .complaint "Failed to parse YAML".toList
  | fault => .crash (.document fault)

/-- The document in a file; `what` is the file in words. -/
def readDocumentFile (tree : FileTree) (what : String) (p : Path) : Except RunFault Value :=
  match tree.read p with
  | .error fault =>
    if fault.isSystem then
      .error (.complaint ("Cannot read ".toList ++ what.toList ++ ' ' :: p.display
        ++ ':' :: ' ' :: fault.message p))
    else .error (.crash (.file p fault))
  | .ok t =>
    match Yaml.read t with
    | .ok document => .ok document
    | .error fault => .error (RunFault.ofDocument fault)

/-- A file that a command line names; no name at all counts as none. -/
def namedFile? (name : Option Text) : Option Path :=
  match name with
  | some (c :: cs) => some (Path.ofText (c :: cs))
  | _ => none

/-- The settings that an invocation asks for: those of its document, with its own laid over them. -/
def Invocation.readSettings (i : Invocation) (tree : FileTree) : Except RunFault Settings := do
  let fromDocument ←
    match namedFile? i.settingsFile with
    | none => .ok ({} : Settings)
    | some p =>
      match tree.has p with
      | .error fault => .error (.crash (.file p fault))
      | .ok false => .error (.complaint ("Config file not found: ".toList ++ p.display))
      | .ok true =>
        match readDocumentFile tree "config file" p with
        | .error fault => .error fault
        | .ok document =>
          match ({} : Settings).withDocument document with
          | .ok s => .ok s
          | .error .unwritable => .error (.crash .unwritable)
          | .error fault => .error (.complaint fault.message)
  match fromDocument.override i.settings with
  | .ok s => .ok s
  | .error fault => .error (.complaint fault.message)

/-- The words that an invocation asks for. -/
def Invocation.readCatalog (i : Invocation) (tree : FileTree) : Except RunFault Catalog :=
  match namedFile? i.catalogFile with
  | none => .ok Catalog.english
  | some p =>
    match readDocumentFile tree "message catalog" p with
    | .error fault => .error fault
    | .ok document =>
      match Catalog.ofAlternative document with
      | .ok c => .ok c
      | .error (.keyOrder reason) => .error (.crash (.catalog (.keyOrder reason)))
      | .error .unwritable => .error (.crash .unwritable)
      | .error fault => .error (.complaint fault.message)

/-! ## The diagram text -/

/-- The file of the diagram text, if it is not the input channel. -/
def Invocation.inputPath? (i : Invocation) : Option Path :=
  if i.input == ['-'] then none else some (Path.ofText i.input)

/-- The file of the drawing, if it is not the output channel. -/
def Invocation.outputPath? (i : Invocation) : Option Path :=
  if i.output == ['-'] then none else some (Path.ofText i.output)

/-- Refuses an input file that is not there. -/
def Invocation.checkInput (i : Invocation) (tree : FileTree) : Except RunFault Unit :=
  match i.inputPath? with
  | none => .ok ()
  | some p =>
    match tree.has p with
    | .error fault => .error (.crash (.file p fault))
    | .ok false => .error (.complaint ("Input file not found: ".toList ++ p.display))
    | .ok true => .ok ()

/-- The diagram text. -/
def Invocation.readInput (i : Invocation) (tree : FileTree) (channel : Text) : Except RunFault Text :=
  match i.inputPath? with
  | none => .ok channel
  | some p =>
    match tree.read p with
    | .ok t => .ok t
    | .error fault =>
      if fault.isSystem then
        .error (.complaint ("Cannot read input file ".toList ++ p.display
          ++ ':' :: ' ' :: fault.message p))
      else .error (.crash (.file p fault))

/-! ## The drawing -/

/-- The end of a run whose reading broke off.  A template that cannot be used is a fault of the words. -/
def RunFault.ofHalt : Halt → RunFault
  | .wording ⟨kind, .unusable reason⟩ => .complaint (WordingFault.message kind reason)
  | cause => .crash (.halt cause)

/-- The drawing of a diagram text, or what is wrong with it, and what was recorded. -/
def draw (c : Catalog) (s : Settings) (t : Text) : List Event × Except RunFault Text :=
  let reading := readText c {} t
  match reading.result with
  | .error cause => (reading.log, .error (RunFault.ofHalt cause))
  | .ok (.error reports) => (reading.log, .error (.rejected reports))
  | .ok (.ok diagram) =>
    match Dot.render? diagram s with
    | none => (reading.log, .error (.crash .unwritable))
    | some drawing => (reading.log ++ [Dot.renderEvent diagram s], .ok drawing)

/-- Lines as they go to a channel. -/
def channelLines (lines : List Text) : Text := lines.flatMap fun line => line ++ ['\n']

/-- What a fault says on the error channel, line by line. -/
def RunFault.lines : RunFault → List Text
  | .complaint message => ["Error: ".toList ++ message]
  | .rejected reports => reports.map Report.message
  | .crash _ => []

/-- The end of a run that a fault stops, behind lines that are on the error channel already. -/
def RunFault.outcome (tree : FileTree) (shown : List Text) : RunFault → Outcome
  | .crash c => .crashed c
  | fault => .finished ⟨1, [], channelLines (shown ++ fault.lines), tree⟩

/-- The records that are shown: all of them, or the warnings. -/
def shownLines (debug : Bool) (log : List Event) : List Text :=
  (log.filter fun e => debug || e.isWarning).map Event.line

/-- Delivers a drawing. -/
def Invocation.deliver (i : Invocation) (tree : FileTree) (shown : List Text) (drawing : Text) :
    Outcome :=
  match i.outputPath? with
  | none =>
    let output := if Text.endsWith drawing '\n' then drawing else drawing ++ ['\n']
    .finished ⟨0, output, channelLines shown, tree⟩
  | some p =>
    match tree.write p drawing with
    | .ok after => .finished ⟨0, [], channelLines shown, after⟩
    | .error fault => .crashed (.file p fault)

/-- What is read before anything is recorded: the settings, the words and the diagram text. -/
def Invocation.prepare (i : Invocation) (tree : FileTree) (channel : Text) :
    Except RunFault (Settings × Catalog × Text) := do
  i.checkInput tree
  let settings ← i.readSettings tree
  let catalog ← i.readCatalog tree
  let t ← i.readInput tree channel
  pure (settings, catalog, t)

/-- Carries out an invocation. -/
def Invocation.run (i : Invocation) (tree : FileTree) (channel : Text) : Outcome :=
  match i.prepare tree channel with
  | .error fault => fault.outcome tree []
  | .ok (settings, catalog, t) =>
    let (log, result) := draw catalog settings t
    let shown := shownLines i.debug log
    match result with
    | .error fault => fault.outcome tree shown
    | .ok drawing => i.deliver tree shown drawing

/-- Runs the command on its arguments, with what is on its input channel. -/
def runCommand (arguments : List Text) (tree : FileTree) (channel : Text) : Outcome :=
  match Invocation.ofTexts arguments with
  | .error .help => .listing
  | .error (.fault fault) => .usage fault
  | .ok i => i.run tree channel

/-! ## Texts for the user -/

/-- The name of the command. -/
def commandName : Text := "erdplain".toList

/-- The last line about a command line that cannot be understood. -/
def UsageFault.line (fault : UsageFault) : Text := commandName ++ ": error: ".toList ++ fault.message

/-- How the command is called. -/
def usageLine : Text := "usage: ".toList ++ commandName ++ " [switches]".toList

/-- The list of switches. -/
def switchList : Text :=
  channelLines (usageLine :: Switch.all.map fun s => ' ' :: ' ' :: s.label ++ ':' :: ' ' :: s.purpose)

/-- What is said about a run that breaks off. -/
def Crash.message : Crash → Text
  | .file p fault => p.display ++ ':' :: ' ' :: fault.message p
  | .document fault => fault.message
  | .catalog fault => fault.message
  | .halt (.wording ⟨kind, .unusable reason⟩) => WordingFault.message kind reason
  | .halt (.wording ⟨_, .misused reason⟩) => reason
  | .halt (.wording ⟨kind, _⟩) => WordingFault.message kind "parameter does not fit".toList
  | .halt (.option fault) => fault.message
  | .halt .lineMissing => "no line to record".toList
  | .unwritable => Numeral.writeLimitMessage

end ErDiagram

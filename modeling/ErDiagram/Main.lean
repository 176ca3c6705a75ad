import ErDiagram.Command.Run

set_option autoImplicit false

/-!
# The program

The program takes what the command may look at from the file system and its input channel, runs the
command on it, and carries out what the command answers.
-/

namespace ErDiagram

/-- A file tree with what a path leads to in the file system.  A directory can be opened but not read. -/
def gather (tree : FileTree) (p : Path) : IO FileTree := do
  match ← (IO.FS.readBinFile (String.ofList p.display)).toBaseIO with
  | .ok bytes => pure { tree with files := (p.settled, bytes) :: tree.files }
  | .error (.inappropriateType none _ _) =>
    pure { tree with directories := p.settled :: tree.directories }
  | .error _ => pure tree

/-- The paths that an invocation may look at. -/
def Invocation.paths (i : Invocation) : List Path :=
  (i.inputPath?.toList ++ (namedFile? i.settingsFile).toList ++ (namedFile? i.catalogFile).toList
    ++ i.outputPath?.toList).flatMap Path.stations

/-- Writes a file and the directories on its way. -/
def store (file : Path × ByteArray) : IO Unit := do
  IO.FS.createDirAll (String.ofList file.1.parent.display)
  IO.FS.writeBinFile (String.ofList file.1.display) file.2

/-- Carries out an outcome; the number is the status of the program. -/
def carryOut (before : FileTree) : Outcome → IO UInt32
  | .finished r => do
    (r.files.changedSince before).forM store
    IO.print (String.ofList r.output)
    IO.eprint (String.ofList r.errors)
    pure (UInt32.ofNat r.status)
  | .listing => do
    IO.print (String.ofList switchList)
    pure 0
  | .usage fault => do
    IO.eprint (String.ofList (channelLines [usageLine, fault.line]))
    pure 2
  | .crashed c => do
    IO.eprint (String.ofList (channelLines [c.message]))
    pure 1

/-- The input channel, if the invocation reads it. -/
def readChannel (i : Invocation) : IO Text := do
  if i.inputPath?.isNone then
    let s ← (← IO.getStdin).readToEnd
    pure s.toList
  else pure []

end ErDiagram

/-- Runs the program. -/
def main (arguments : List String) : IO UInt32 := do
  let texts := arguments.map String.toList
  let i := (ErDiagram.Invocation.ofTexts texts).toOption.getD {}
  let tree ← i.paths.foldlM ErDiagram.gather {}
  ErDiagram.carryOut tree (ErDiagram.runCommand texts tree (← ErDiagram.readChannel i))

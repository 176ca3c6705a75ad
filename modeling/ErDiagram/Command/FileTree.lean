import ErDiagram.Text.Quoted

set_option autoImplicit false

/-!
# Paths and files

The files that a command can see, by their paths.  A path that has names which lead back is followed
name by name.
-/

namespace ErDiagram

/-! ## Paths

A path is a root and the names on the way from it.  A path without a root starts at the working
directory.  Empty names and single dots lead nowhere and are left out.  Two dots lead back to the
directory around, which is settled only where the files are known: there has to be a directory to lead
back from. -/

/-- A path of a file or a directory. -/
structure Path where
  root : Text
  names : List Text
  deriving DecidableEq, Repr, Inhabited

namespace Path

/-- The names of a text, separated by slashes. -/
def splitNames : Text → List Text
  | [] => [[]]
  | c :: cs =>
    match splitNames cs with
    | [] => [[c]]
    | name :: rest => if c == '/' then [] :: name :: rest else (c :: name) :: rest

/-- The slashes that make the root: two of them are kept, more are one. -/
def rootOf (t : Text) : Text :=
  match (t.takeWhile fun c => c == '/').length with
  | 0 => []
  | 2 => ['/', '/']
  | _ => ['/']

/-- The path of a text. -/
def ofText (t : Text) : Path :=
  ⟨rootOf t, (splitNames t).filter fun name => !name.isEmpty && name != ['.']⟩

/-- A path as it is written. -/
def display (p : Path) : Text :=
  match p.root, p.names with
  | [], [] => ['.']
  | root, names => root ++ Text.join ['/'] names

/-- The directory that a path leads into last. -/
def parent (p : Path) : Path := ⟨p.root, p.names.dropLast⟩

/-- The path with one name more. -/
def child (p : Path) (name : Text) : Path := ⟨p.root, p.names ++ [name]⟩

/-- The name that leads back. -/
def back : Text := ['.', '.']

/-- The directory around the one that a path without names that lead back leads to.  Around the directory
of a slash there is no other one; what is around the working directory is its own root. -/
def around (p : Path) : Path :=
  if !p.names.isEmpty then p.parent
  else if Text.startsWith p.root '/' then p
  else ⟨p.root ++ back ++ ['/'], []⟩

/-- The path one name on, where two dots lead back. -/
def follow (p : Path) (name : Text) : Path := if name == back then p.around else p.child name

/-- The same way without names that lead back. -/
def settled (p : Path) : Path := p.names.foldl follow ⟨p.root, []⟩

/-- The paths to everything on the way of a path, itself included. -/
def stations (p : Path) : List Path :=
  (List.range (p.names.length + 1)).map fun n => ⟨p.root, p.names.take n⟩

/-- The first path leads to a directory on the way of the second one. -/
def isOnWayTo (p q : Path) : Bool :=
  p.root == q.root && p.names.isPrefixOf q.names && p.names.length < q.names.length

end Path

/-! ## Files

A directory is there if it is listed or if something is in it; the directory where paths start always
is.  In the tree no name leads back. -/

/-- Files by their paths, and directories that may be empty. -/
structure FileTree where
  files : List (Path × ByteArray) := []
  directories : List Path := []
  deriving Inhabited

/-- What a path leads to. -/
inductive PathTarget where
  | missing
  | directory
  | file (bytes : ByteArray)
  deriving Inhabited

/-- Why a file cannot be read or written. -/
inductive FileFault where
  | missing
  | exists
  | notDirectory
  | isDirectory
  | nameTooLong
  /-- the path has a character that no path may have -/
  | nullCharacter
  /-- the bytes are no text -/
  | undecodable
  deriving DecidableEq, Repr, Inhabited

/-- What is said about a file that cannot be read or written. -/
def FileFault.message (p : Path) : FileFault → Text
  | .missing => "[Errno 2] No such file or directory: ".toList ++ Text.quoted p.display
  | .exists => "[Errno 17] File exists: ".toList ++ Text.quoted p.display
  | .notDirectory => "[Errno 20] Not a directory: ".toList ++ Text.quoted p.display
  | .isDirectory => "[Errno 21] Is a directory: ".toList ++ Text.quoted p.display
  | .nameTooLong => "[Errno 36] File name too long: ".toList ++ Text.quoted p.display
  | .nullCharacter => "embedded null byte".toList
  | .undecodable => "the bytes are no text".toList

/-- Where this fault comes up, nothing is there.  Whether something has a name that is too long cannot even
be asked. -/
def FileFault.isAbsence : FileFault → Bool
  | .nameTooLong => false
  | _ => true

/-- The fault is one of the file system, and not of the text of a path or a file. -/
def FileFault.isSystem : FileFault → Bool
  | .nullCharacter => false
  | .undecodable => false
  | _ => true

namespace FileTree

/-- The bytes of a text. -/
def encode (t : Text) : ByteArray := (String.ofList t).toUTF8

/-- The most bytes of a name. -/
def nameLimit : Nat := 255

/-- The most bytes of a path. -/
def pathLimit : Nat := 4095

/-- Refuses a path that no file can have. -/
def checkPath (p : Path) : Except FileFault Unit :=
  if p.display.contains (Char.ofNat 0) then .error .nullCharacter
  else if pathLimit < (encode p.display).size then .error .nameTooLong
  else .ok ()

/-- Refuses a name that no file can have. -/
def checkName (name : Text) : Except FileFault Unit :=
  if nameLimit < (encode name).size then .error .nameTooLong else .ok ()

/-! ## Following paths -/

/-- What a path without names that lead back leads to. -/
def target (tree : FileTree) (p : Path) : PathTarget :=
  match tree.files.lookup p with
  | some bytes => .file bytes
  | none =>
    if p.names.isEmpty || tree.directories.contains p || tree.directories.any p.isOnWayTo
        || tree.files.any fun f => p.isOnWayTo f.1 then .directory
    else .missing

/-- The path one name on from where a path leads. -/
def step (tree : FileTree) (p : Path) (name : Text) : Except FileFault Path :=
  match tree.target p with
  | .missing => .error .missing
  | .file _ => .error .notDirectory
  | .directory => (checkName name).map fun _ => p.follow name

/-- The path without names that lead back. -/
def settle (tree : FileTree) (p : Path) : Except FileFault Path :=
  (checkPath p).bind fun _ => p.names.foldlM tree.step ⟨p.root, []⟩

/-- What a path leads to. -/
def look (tree : FileTree) (p : Path) : Except FileFault PathTarget := (tree.settle p).map tree.target

/-- The path leads to something.  A name that is too long cannot even be looked up. -/
def has (tree : FileTree) (p : Path) : Except FileFault Bool :=
  match tree.look p with
  | .ok .missing => .ok false
  | .ok _ => .ok true
  | .error fault => if fault.isAbsence then .ok false else .error fault

/-! ## Reading and writing -/

/-- The text of a file, with line feeds between its lines. -/
def read (tree : FileTree) (p : Path) : Except FileFault Text :=
  match tree.look p with
  | .error fault => .error fault
  | .ok .missing => .error .missing
  | .ok .directory => .error .isDirectory
  | .ok (.file bytes) =>
    match String.fromUTF8? bytes with
    | some s => .ok (Text.unifyLineFeeds s.toList)
    | none => .error .undecodable

/-- Puts bytes at a path. -/
def putFile (p : Path) (bytes : ByteArray) : List (Path × ByteArray) → List (Path × ByteArray)
  | [] => [(p, bytes)]
  | (q, old) :: rest => if q = p then (q, bytes) :: rest else (q, old) :: putFile p bytes rest

/-- Adds the directories that are missing on a way from a directory on. -/
def addDirectories (tree : FileTree) (p : Path) : List Text → Except FileFault FileTree
  | [] => .ok tree
  | name :: rest =>
    let next := p.follow name
    match checkName name, tree.target next with
    | .error fault, _ => .error fault
    | _, .file _ => .error (if rest.isEmpty then .exists else .notDirectory)
    | _, .directory => addDirectories tree next rest
    | _, .missing => addDirectories { tree with directories := next :: tree.directories } next rest

/-- Writes a text to a file, in place of what it holds.  Directories on the way are added. -/
def write (tree : FileTree) (p : Path) (t : Text) : Except FileFault FileTree := do
  checkPath p.parent
  let grown ← tree.addDirectories ⟨p.root, []⟩ p.parent.names
  let q ← grown.settle p
  match grown.target q with
  | .directory => .error .isDirectory
  | _ => .ok { grown with files := putFile q (encode t) grown.files }

/-- The files that differ from those of another tree or are not in it. -/
def changedSince (tree before : FileTree) : List (Path × ByteArray) :=
  tree.files.filter fun f =>
    match before.files.lookup f.1 with
    | some bytes => bytes.data != f.2.data
    | none => true

end FileTree

end ErDiagram

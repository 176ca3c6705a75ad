import ErDiagram.Number.Binary64
import ErDiagram.Text.Case
import ErDiagram.Value.Basic
import ErDiagram.Yaml.Node

set_option autoImplicit false

/-!
# The values of the parts of a document

A scalar has a value if it is spelled like one of its sort.  A tag can ask for a sort that the spelling
does not fit, so every scalar is read with care.  A mapping takes the entries that it merges before its
own ones, and of entries with one key the last one counts.

The flaws of a document are looked for level by level: first in the outermost part, then in the parts
of that, and so on.  The first one that is found says why the document has no value.
-/

namespace ErDiagram.Yaml

/-! ## Numbers -/

/-- Reads a decimal numeral. -/
def readTen (t : Text) : Except Fault Int :=
  match Numeral.read t with
  | .ok n => .ok n
  | .error fault => .error (.misfit (fault.message t))

/-- Reads a numeral of another base. -/
def readInBase (base : Nat) (t : Text) : Except Fault Int :=
  match Numeral.readIn? base t with
  | some n => .ok n
  | none => .error (.misfit (Numeral.malformedMessage base t))

/-- The integer of a spelling without underscores and without a sign. -/
def readUnsigned : Text → Except Fault Int
  | [] => .error .noDigits
  | ['0'] => .ok 0
  | '0' :: 'b' :: digits => readInBase 2 digits
  | '0' :: 'x' :: digits => readInBase 16 digits
  | '0' :: digits => readInBase 8 ('0' :: digits)
  | t =>
    if t.contains ':' then
      ((splitAt ':' t).mapM readTen).map fun parts => parts.foldl (fun total n => 60 * total + n) 0
    else readTen t

/-- The integer of a spelling. -/
def readWhole (written : Text) : Except Fault Int :=
  let t := written.filter fun c => c != '_'
  if t.isEmpty then .error .noDigits
  else (readUnsigned (unsigned t)).map fun n => if Text.startsWith t '-' then -n else n

/-- Reads a number with a point. -/
def readPoint (t : Text) : Except Fault Binary64 :=
  match Binary64.read? t with
  | some x => .ok x
  | none => .error (.misfit (Binary64.readMessage t))

/-- Adds parts of sixty to a total, the last part first; `unit` is what the next one counts. -/
def addSixtieths (unit : Nat) (total : Binary64) : List Binary64 → Except Fault Binary64
  | [] => .ok total
  | x :: rest =>
    let factor := Places.nearest unit
    if Places.limit ≤ factor then .error .tooLarge
    else addSixtieths (60 * unit) (total.add (x.times factor)) rest

/-- The number with a point of a spelling without underscores and without a sign, in lower case. -/
def readUnsignedReal (t : Text) : Except Fault Binary64 :=
  if t = ".inf".toList then .ok (Binary64.signed false Binary64.infinityBits)
  else if t = ".nan".toList then .ok Binary64.notANumber
  else if t.contains ':' then
    ((splitAt ':' t).mapM readPoint).bind fun parts => addSixtieths 1 ⟨0⟩ parts.reverse
  else readPoint t

/-- The number with a point of a spelling. -/
def readReal (written : Text) : Except Fault Binary64 :=
  let t := Text.lower (written.filter fun c => c != '_')
  if t.isEmpty then .error .noDigits
  else (readUnsignedReal (unsigned t)).map fun x => if Text.startsWith t '-' then x.negate else x

/-! ## Other scalars -/

/-- The words for flags. -/
def flagWords : List (String × Bool) :=
  [("yes", true), ("no", false), ("true", true), ("false", false), ("on", true), ("off", false)]

/-- The flag of a word in any case. -/
def readFlagWord (t : Text) : Except Fault Bool :=
  let word := Text.lower t
  match flagWords.find? fun e => e.1.toList == word with
  | some e => .ok e.2
  | none => .error (.unknownFlag word)

/-- The bytes of a text that writes them. -/
def readBytes (t : Text) : Except Fault (List Nat) :=
  match (if t.all fun c => c.toNat < 128 then Bytes.ofLetters t else none) with
  | some bytes => .ok bytes
  | none => .error .malformed

/-- The number of some digits. -/
def numberOf (digits : Text) : Nat := Numeral.value (Numeral.digitsOf digits)

/-- The microseconds of the digits behind a point. -/
def microsOf (fraction : Text) : Nat := numberOf ((fraction ++ List.replicate 6 '0').take 6)

/-- The minutes that a clock is ahead of universal time. -/
def minutesOf (zone : Bool × Text × Text) : Int :=
  let minutes : Int := (60 * numberOf zone.2.1 + numberOf zone.2.2 : Nat)
  if zone.1 then -minutes else minutes

/-- The day or the moment of a spelling. -/
def MomentSpelling.value (m : MomentSpelling) : Except CalendarFault Value :=
  let year := numberOf m.year
  let month := numberOf m.month
  let day := numberOf m.day
  match m.time with
  | none => (Day.make year month day).map .day
  | some (hour, minute, second, fraction) =>
    (Moment.make year month day (numberOf hour) (numberOf minute) (numberOf second) (microsOf fraction)
      (m.zone.map minutesOf)).map .moment

/-- The day or the moment of a text. -/
def readMoment (t : Text) : Except Fault Value :=
  match readMoment? (withoutLastBreak t) with
  | none => .error .noMoment
  | some m =>
    match m.value with
    | .ok v => .ok v
    | .error fault => .error (.misfit fault.message)

/-- The value of a scalar of a sort; scalars are of no sort that is composed, and signs have no value. -/
def readScalar (sort : NodeSort) (t : Text) : Except Fault Value :=
  match sort with
  | .null => .ok .null
  | .flag => (readFlagWord t).map .flag
  | .whole => (readWhole t).map .whole
  | .real => (readReal t).map .real
  | .text => .ok (.text t)
  | .bytes => (readBytes t).map .bytes
  | .moment => readMoment t
  | _ => .error .malformed

/-! ## Entries -/

/-- An entry of a mapping. -/
abbrev Entry := Node × Node

namespace Node

/-- The sort of a part. -/
def sort : Node → NodeSort
  | scalar sort _ => sort
  | list sort _ => sort
  | mapping sort _ => sort
  | enclosing isMapping => if isMapping then .mapping else .list

/-- A key of a mapping; the sign of the entry that stands for its mapping is a text there. -/
def asKey : Node → Node
  | scalar sort t => scalar (if sort = .self then .text else sort) t
  | list sort items => list (if sort = .self then .text else sort) items
  | mapping sort entries => mapping (if sort = .self then .text else sort) entries
  | enclosing isMapping => enclosing isMapping

mutual

/-- The entries that a part offers for merging: those of a mapping, or of the mappings of a list, the
last one first. -/
def offered? : Node → Option (List Entry)
  | mapping _ entries => (divide? entries).map fun d => d.1 ++ d.2
  | list _ items => offeredByItems? items
  | enclosing true => some []
  | _ => none

/-- The entries that the mappings of a list offer. -/
def offeredByItems? : List Node → Option (List Entry)
  | [] => some []
  | mapping _ entries :: rest =>
    match divide? entries, offeredByItems? rest with
    | some d, some others => some (others ++ (d.1 ++ d.2))
    | _, _ => none
  | enclosing true :: rest => offeredByItems? rest
  | _ :: _ => none

/-- The entries that a mapping merges, and those of its own. -/
def divide? : List Entry → Option (List Entry × List Entry)
  | [] => some ([], [])
  | (key, value) :: rest =>
    match divide? rest with
    | none => none
    | some d =>
      if key.sort = .merge then (offered? value).map fun more => (more ++ d.1, d.2)
      else some (d.1, (key.asKey, value) :: d.2)

end

/-- The entries of a mapping, the merged ones first. -/
def allEntries? (entries : List Entry) : Option (List Entry) :=
  (divide? entries).map fun d => d.1 ++ d.2

mutual

/-- The text of a scalar, or of the entry that stands for a mapping. -/
def scalarText? : Node → Option Text
  | scalar _ t => some t
  | mapping _ entries => textOfEntries? entries
  | _ => none

/-- The text of the entry that stands for its mapping. -/
def textOfEntries? : List Entry → Option Text
  | [] => none
  | (key, value) :: rest => if key.sort = .self then scalarText? value else textOfEntries? rest

end

end Node

/-! ## Values -/

/-- A fault, and the level where it is found. -/
structure Flaw where
  level : Nat
  fault : Fault
  deriving DecidableEq, Repr, Inhabited

/-- Both results, or the flaw that is found first. -/
def both {α β : Type} (a : Except Flaw α) (b : Except Flaw β) : Except Flaw (α × β) :=
  match a, b with
  | .ok x, .ok y => .ok (x, y)
  | .ok _, .error flaw => .error flaw
  | .error flaw, .ok _ => .error flaw
  | .error flaw, .error other => .error (if other.level < flaw.level then other else flaw)

/-- All results, or the flaw that is found first. -/
def gather {α : Type} : List (Except Flaw α) → Except Flaw (List α)
  | [] => .ok []
  | a :: rest => (both a (gather rest)).map fun p => p.1 :: p.2

/-- The only entry of a mapping. -/
def onlyEntry? : Node → Option Entry
  | .mapping _ [entry] => some entry
  | _ => none

/-- The value of a scalar part at a level. -/
def valueOfScalar (level : Nat) (n : Node) : Except Flaw Value :=
  match n.scalarText? with
  | none => .error ⟨level, .malformed⟩
  | some t =>
    let read := if n.sort == .moment && (n matches .mapping ..) then
        .error (.wrongShape "expected string or bytes-like object, got 'list'".toList)
      else readScalar n.sort t
    match read with
    | .ok v => .ok v
    | .error fault => .error ⟨level, fault⟩

/-- The value of a part at a level.  The bound is large enough if it exceeds the number of parts. -/
def valueOf : Nat → Nat → Node → Except Flaw Value
  | 0, level, _ => .error ⟨level, .tooDeep⟩
  | fuel + 1, level, n =>
    let inner := valueOf fuel (level + 1)
    let misplaced : Flaw := ⟨level + 1, .malformed⟩
    let entry := fun (e : Entry) =>
      both (if e.1.sort.isComposed then .error misplaced else inner e.1) (inner e.2)
    let entriesOf := fun (entries : List Entry) =>
      match Node.allEntries? entries with
      | some all => gather (all.map entry)
      | none => .error misplaced
    let mappingOf := fun (entries : List Entry) =>
      (entriesOf entries).map fun all => all.foldl (fun m e => Value.put e.1 e.2 m) []
    match n.sort, n with
    | _, .enclosing isMapping => .ok (.enclosing isMapping)
    | .list, .list _ items => (gather (items.map inner)).map .list
    | .mapping, .mapping _ entries => (mappingOf entries).map .mapping
    | .set, .mapping _ entries => (mappingOf entries).map fun m => .set (m.map (·.1))
    | .pairs, .list _ items =>
      (gather (items.map fun item =>
        match onlyEntry? item with
        | some e => both (inner e.1) (inner e.2)
        | none => .error misplaced)).map .pairs
    | sort, _ => if sort.isComposed then .error misplaced else valueOfScalar level n

end ErDiagram.Yaml

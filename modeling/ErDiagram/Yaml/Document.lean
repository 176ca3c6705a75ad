import ErDiagram.Yaml.Meaning

set_option autoImplicit false

/-!
# Documents

A text holds one document at most, and an empty one is the document of nothing.  Directives and a marker
may open the document and others may close it.  What opens on the line of the marker is no list or
mapping in lines.
-/

namespace ErDiagram.Yaml

/-- The character may occur in a document. -/
def isAllowed (c : Char) : Bool :=
  let n := c.toNat
  n == 9 || n == 10 || (0x20 ≤ n && n ≤ 0x7E) || n == 0x85 || (0xA0 ≤ n && n ≤ 0xD7FF) ||
    (0xE000 ≤ n && n ≤ 0xFFFD) || 0x10000 ≤ n

/-- The most lists and mappings that may stand inside of each other. -/
def depthLimit : Nat := 488

/-! ## Around the content -/

/-- What the directives of a document have said. -/
structure Preamble where
  hasVersion : Bool := false
  handles : List (Text × Text) := []
  deriving DecidableEq, Repr, Inhabited

/-- What has been said, with one directive more.  Only the first version of the notation is known. -/
def Preamble.add? (p : Preamble) : Directive → Option Preamble
  | .version major _ => if p.hasVersion || major != 1 then none else some { p with hasVersion := true }
  | .handle name beginning =>
    if (p.handles.lookup name).isSome then none
    else some { p with handles := (name, beginning) :: p.handles }
  | .other => some p

/-- The directives in front of a document. -/
def composePreamble : Nat → Preamble → Composer Preamble
  | 0, _ => refuse
  | fuel + 1, p => do
    match ← peek with
    | some (.directive d) =>
      skip
      match p.add? d with
      | some next => composePreamble fuel next
      | none => refuse
    | _ => pure p

/-- The tokens that stand around a document. -/
def isAround : Token → Bool
  | .directive _ => true
  | .documentStart => true
  | .documentEnd => true
  | _ => false

/-- What stands between the markers of a document, behind its directives. -/
def composeMarked (fuel : Nat) : Composer Node := do
  let p ← composePreamble fuel {}
  modify fun f => { f with handles := p.handles ++ commonHandles }
  expect .documentStart
  match ← peek with
  | none => pure Node.omitted
  | some t => if isAround t then pure Node.omitted else composeNode fuel depthLimit .lines

/-- Markers that end a document, and nothing else. -/
def composeEnd : Nat → Composer Unit
  | 0 => refuse
  | fuel + 1 => do
    if ← skipIf .documentEnd then composeEnd fuel
    else
      if (← peek).isSome then refuse

/-- The only document of a row of tokens. -/
def composeDocument (fuel : Nat) : Composer Node := do
  match ← peek with
  | none => pure Node.omitted
  | some t =>
    let n ←
      if isAround t && t != .documentEnd then composeMarked fuel
      else composeNode fuel depthLimit .lines
    composeEnd fuel
    pure n

/-! ## Reading -/

/-- The value of the only document of a text. -/
def read (t : Text) : Except Fault Value :=
  let unified := (Text.unifyLineFeeds t).map fun c => if c.toNat = 0x85 then '\n' else c
  let body := if Text.startsWith unified byteOrderMark then unified.drop 1 else unified
  if !unified.all isAllowed then .error .malformed
  else
    let row := tokensOf body
    -- no reader takes more than four steps from one token to the next
    let fuel := 4 * row.tokens.length + 16
    match (composeDocument fuel).run' { row := row } with
    | .error fault => .error fault
    | .ok n =>
      match valueOf fuel 0 n with
      | .ok v => .ok v
      | .error flaw => .error flaw.fault

end ErDiagram.Yaml

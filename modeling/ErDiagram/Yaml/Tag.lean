import ErDiagram.Number.Numeral
import ErDiagram.Yaml.Scalar

set_option autoImplicit false

/-!
# Tokens, tags and directives

An anchor gives a name to a part of a document, and an alias repeats the part of that name.  A tag says
what sort of value a part is.  It is written in full between angle brackets, or behind a handle; a
directive says which beginning a handle stands for, or which version of the notation a document uses.
-/

namespace ErDiagram.Yaml

/-! ## Tokens

A document is a row of tokens: scalars with their tags, anchors and aliases, and the signs between
them.  Lists and mappings in brackets have signs of their own.  Where they are written in lines, tokens
that no character stands for say where they open and close, and which tokens are keys. -/

/-- A tag as it is written: behind a handle that stands for a beginning, or in full. -/
structure TagSpelling where
  handle : Option Text
  rest : Text
  deriving DecidableEq, Repr, Inhabited

/-- A line that says something about the document that follows. -/
inductive Directive where
  | version (major minor : Nat)
  /-- the beginning that a handle of tags stands for -/
  | handle (name beginning : Text)
  | other
  deriving DecidableEq, Repr, Inhabited

/-- A token of a document. -/
inductive Token where
  | directive (d : Directive)
  | documentStart
  | documentEnd
  /-- a list in lines opens -/
  | linesList
  /-- a mapping in lines opens -/
  | linesMapping
  /-- a list or a mapping in lines closes -/
  | linesEnd
  | openList
  | closeList
  | openMapping
  | closeMapping
  | comma
  /-- the dash of an item -/
  | item
  /-- a key follows -/
  | key
  /-- a value follows -/
  | value
  | alias (name : Text)
  | anchor (name : Text)
  | tag (spelling : TagSpelling)
  | scalar (t : Text) (isPlain : Bool)
  deriving DecidableEq, Repr, Inhabited

/-! ## Names -/

/-- A character of a name. -/
def isNameChar (c : Char) : Bool := c.isAlphanum || c == '-' || c == '_'

/-- What may follow the name of an anchor or an alias. -/
def endsName (t : Text) : Bool := blankNext t || t.head?.any "?:,]\x7d%@\x60".toList.contains

/-- The name behind the sign of an anchor or an alias. -/
def readName (c : Cursor) : Except Fault Piece :=
  let (name, behind) := c.next.takeOf isNameChar
  if name.isEmpty || !endsName behind.rest then .error .malformed else .ok (name, behind)

/-! ## Tags -/

/-- A character that a tag may have behind its handle. -/
def isTagChar (c : Char) : Bool := c.isAlphanum || "-;/?:@&=+$,_.!~*'()[]%".toList.contains c

/-- The bytes of a part of a tag; a percent sign is followed by the two digits of a byte. -/
def tagBytes? : Text → Option (List UInt8)
  | [] => some []
  | '%' :: a :: b :: rest =>
    match hexNumber? 2 [a, b], tagBytes? rest with
    | some n, some bytes => some (UInt8.ofNat n :: bytes)
    | _, _ => none
  | c :: rest => if c == '%' then none else (tagBytes? rest).map fun bytes => UInt8.ofNat c.toNat :: bytes

/-- The part of a tag behind its handle. -/
def readTagPart (c : Cursor) : Except Fault Piece :=
  let (written, behind) := c.takeOf isTagChar
  match (tagBytes? written).bind fun bytes => String.fromUTF8? ⟨bytes.toArray⟩ with
  | some part => if written.isEmpty then .error .malformed else .ok (part.toList, behind)
  | none => .error .malformed

/-- A handle: a name between two exclamation marks, or a single mark before a space. -/
def readHandle (c : Cursor) : Except Fault Piece :=
  if !c.sees '!' then .error .malformed
  else if c.next.sees ' ' then .ok (['!'], c.next)
  else
    let (name, behind) := c.next.takeOf isNameChar
    if behind.sees '!' then .ok ('!' :: name ++ ['!'], behind.next) else .error .malformed

/-- The tag at its first exclamation mark, in one of the ways to write it. -/
def readTagSpelling (c : Cursor) : Except Fault (TagSpelling × Cursor) :=
  let behind := c.next
  if behind.sees '<' then
    (readTagPart behind.next).bind fun p =>
      if p.2.sees '>' then .ok (⟨none, p.1⟩, p.2.next) else .error .malformed
  else if blankNext behind.rest then .ok (⟨none, ['!']⟩, behind)
  else if (behind.rest.takeWhile fun x => !isSpace x).contains '!' then
    (readHandle c).bind fun h => (readTagPart h.2).map fun p => (⟨some h.1, p.1⟩, p.2)
  else (readTagPart behind).map fun p => (⟨some ['!'], p.1⟩, p.2)

/-- The tag at its first exclamation mark. -/
def readTag (c : Cursor) : Except Fault (TagSpelling × Cursor) :=
  (readTagSpelling c).bind fun r => if spaceNext r.2.rest then .ok r else .error .malformed

/-! ## Directives -/

/-- One of the two numbers of a version. -/
def readVersionNumber (c : Cursor) : Except Fault (Nat × Cursor) :=
  let (digits, behind) := c.takeOf Char.isDigit
  if digits.isEmpty then .error .malformed
  else
    match Numeral.read digits with
    | .ok n => .ok (n.toNat, behind)
    | .error fault => .error (.misfit (fault.message digits))

/-- The two numbers of a version, with a point between them. -/
def readVersion (c : Cursor) : Except Fault (Directive × Cursor) :=
  (readVersionNumber c).bind fun major =>
    if !major.2.sees '.' then .error .malformed
    else
      (readVersionNumber major.2.next).bind fun minor =>
        if spaceNext minor.2.rest then .ok (.version major.1 minor.1, minor.2) else .error .malformed

/-- A handle and the beginning that it stands for. -/
def readHandleMeaning (c : Cursor) : Except Fault (Directive × Cursor) :=
  (readHandle c).bind fun h =>
    if !h.2.sees ' ' then .error .malformed
    else
      (readTagPart h.2.skipSpaces).bind fun p =>
        if spaceNext p.2.rest then .ok (.handle h.1 p.1, p.2) else .error .malformed

/-- What a directive of this name says, from behind the name on. -/
def readDirectiveBody (name : Text) (c : Cursor) : Except Fault (Directive × Cursor) :=
  if name == "YAML".toList then readVersion c.skipSpaces
  else if name == "TAG".toList then readHandleMeaning c.skipSpaces
  else .ok (.other, (c.takeOf fun x => !isBreak x).2)

/-- The directive at its percent sign, and the place behind its line. -/
def readDirective (c : Cursor) : Except Fault (Directive × Cursor) :=
  let (name, behind) := c.next.takeOf isNameChar
  if name.isEmpty || !spaceNext behind.rest then .error .malformed
  else
    (readDirectiveBody name behind).bind fun r =>
      match r.2.afterLine? with
      | some after => .ok (r.1, after)
      | none => .error .malformed

end ErDiagram.Yaml

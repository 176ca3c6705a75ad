import ErDiagram.Text.Basic

set_option autoImplicit false

/-!
# Faults and places in a document

A document that is read has a value or a fault, and it is read from one place to the next.
Indentation carries meaning in a document, so a place knows its line and its column beside the text
that follows it.  Between two tokens stand spaces, line breaks and comments, the gaps.  Three dashes
or three dots at the start of a line, set off by a blank, mark where a document starts or ends.
-/

namespace ErDiagram.Yaml

/-! ## Faults

A malformed document has no value at all.  The other faults are those of single scalars, which are
spelled like a value of their sort without being one. -/

/-- Why a document has no value. -/
inductive Fault where
  /-- the text is no document, or a part of it has a tag that does not fit it -/
  | malformed
  /-- a scalar is no value of its sort, for this reason -/
  | misfit (reason : Text)
  /-- a mapping stands where a value is needed, for this reason -/
  | wrongShape (reason : Text)
  /-- a word is no flag -/
  | unknownFlag (word : Text)
  /-- a number has no digits -/
  | noDigits
  /-- a text is no moment -/
  | noMoment
  /-- a number is beyond every limit -/
  | tooLarge
  /-- lists and mappings stand too deep inside of each other -/
  | tooDeep
  deriving DecidableEq, Repr, Inhabited

/-- What is said about a fault. -/
def Fault.message : Fault → Text
  | malformed => "the document is malformed".toList
  | misfit reason => reason
  | wrongShape reason => reason
  | unknownFlag word => word
  | noDigits => "a number has no digits".toList
  | noMoment => "a text is no moment".toList
  | tooLarge => "a number is too large".toList
  | tooDeep => "the document is too deep".toList

/-! ## Places -/

/-- A character that ends a line. -/
def isBreak (c : Char) : Bool := c == '\n' || c.toNat == 0x2028 || c.toNat == 0x2029

/-- A space or a line break. -/
def isSpace (c : Char) : Bool := c == ' ' || isBreak c

/-- A space, a tab or a line break. -/
def isBlank (c : Char) : Bool := c == '\t' || isSpace c

/-- A line break comes next, or nothing at all. -/
def breakNext (t : Text) : Bool := t.head?.all isBreak

/-- A space or a line break comes next, or nothing at all. -/
def spaceNext (t : Text) : Bool := t.head?.all isSpace

/-- A blank comes next, or nothing at all. -/
def blankNext (t : Text) : Bool := t.head?.all isBlank

/-- The mark of byte order, which takes no column. -/
def byteOrderMark : Char := Char.ofNat 0xFEFF

/-- A place in a document. -/
structure Cursor where
  /-- What follows the place. -/
  rest : Text
  /-- The number of characters before the place. -/
  index : Nat
  line : Nat
  column : Nat
  deriving DecidableEq, Repr, Inhabited

namespace Cursor

/-- The place before a text. -/
def start (t : Text) : Cursor := ⟨t, 0, 0, 0⟩

/-- The place behind a character after which `rest` is left. -/
def past (c : Cursor) (x : Char) (rest : Text) : Cursor :=
  if isBreak x then ⟨rest, c.index + 1, c.line + 1, 0⟩
  else ⟨rest, c.index + 1, c.line, if x = byteOrderMark then c.column else c.column + 1⟩

/-- The place one character on. -/
def next (c : Cursor) : Cursor :=
  match c.rest with
  | [] => c
  | x :: rest => c.past x rest

/-- The place `n` characters on. -/
def advance : Nat → Cursor → Cursor
  | 0, c => c
  | n + 1, c => advance n c.next

/-- Nothing follows. -/
def atEnd (c : Cursor) : Bool := c.rest.isEmpty

/-- This character follows. -/
def sees (c : Cursor) (x : Char) : Bool := c.rest.head? == some x

/-- The characters of a class that follow, and the place behind them. -/
def takeOf (p : Char → Bool) (c : Cursor) : Text × Cursor :=
  let taken := c.rest.takeWhile p
  (taken, c.advance taken.length)

/-- The place behind the spaces that follow. -/
def skipSpaces (c : Cursor) : Cursor := (c.takeOf (· == ' ')).2

/-- The line break that follows, if one does, and the place behind it. -/
def takeBreak (c : Cursor) : Text × Cursor :=
  match c.rest with
  | x :: rest => if isBreak x then ([x], c.past x rest) else ([], c)
  | [] => ([], c)

/-- These three characters stand at the start of a line, set off by a blank. -/
def seesMarker (x : Char) (c : Cursor) : Bool :=
  c.column == 0 && c.rest.take 3 == [x, x, x] && blankNext (c.rest.drop 3)

/-- A document starts or ends here. -/
def atMarker (c : Cursor) : Bool := c.seesMarker '-' || c.seesMarker '.'

/-- A gap from a place on; the flag says that the place is inside a comment. -/
def gapFrom : Bool → Text → Nat → Nat → Nat → Cursor
  | _, [], index, line, column => ⟨[], index, line, column⟩
  | inComment, x :: rest, index, line, column =>
    if isBreak x then gapFrom false rest (index + 1) (line + 1) 0
    else if inComment || x == '#' then gapFrom true rest (index + 1) line (column + 1)
    else if x == ' ' then gapFrom false rest (index + 1) line (column + 1)
    else ⟨x :: rest, index, line, column⟩

/-- The place of the next token. -/
def afterGap (c : Cursor) : Cursor := gapFrom false c.rest c.index c.line c.column

/-- The place behind what follows on a line that has nothing but spaces and a comment left, behind its line
break too.  There is no such place if something else follows. -/
def afterLine? (c : Cursor) : Option Cursor :=
  let afterSpaces := c.skipSpaces
  let after :=
    if afterSpaces.sees '#' then (afterSpaces.takeOf fun x => !isBreak x).2 else afterSpaces
  if breakNext after.rest then some after.takeBreak.2 else none

end Cursor

end ErDiagram.Yaml

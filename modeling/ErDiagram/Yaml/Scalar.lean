import ErDiagram.Yaml.Cursor

set_option autoImplicit false

/-!
# Scalars in a document

A scalar is plain, stands in quotes, or is a block of lines that are indented below its sign.  Plain
and quoted scalars may run over several lines.  A single line break in them counts as a space; of more
than one, each but the first counts as itself.  In single quotes only the quote is special and is
doubled; in double quotes a backslash opens an escape.  A block keeps its line breaks, or folds them
between lines that open with no blank.

The readers that go on from piece to piece take a bound on the number of pieces; the length of the
document is large enough for it.
-/

namespace ErDiagram.Yaml

/-- A piece of a document: a text and the place behind it. -/
abbrev Piece := Text × Cursor

/-! ## Line breaks in a scalar -/

/-- The line breaks of the blank lines from the start of a line on, and the place where the text goes on.
A marker ends the search. -/
def blankLinesFrom (isIndent : Char → Bool) : Text → Nat → Nat → Nat → Piece
  | [], index, line, column => ([], ⟨[], index, line, column⟩)
  | x :: rest, index, line, column =>
    let here : Cursor := ⟨x :: rest, index, line, column⟩
    if here.atMarker then ([], here)
    else if isBreak x then
      let r := blankLinesFrom isIndent rest (index + 1) (line + 1) 0
      (x :: r.1, r.2)
    else if isIndent x then blankLinesFrom isIndent rest (index + 1) line (column + 1)
    else ([], here)

/-- The blank lines behind a line break. -/
def blankLines (isIndent : Char → Bool) (c : Cursor) : Piece :=
  blankLinesFrom isIndent c.rest c.index c.line c.column

/-- What a line break and the blank lines after it count as. -/
def foldBreaks (first : Char) (others : Text) : Text :=
  if first != '\n' then first :: others
  else if others.isEmpty then [' ']
  else others

/-- What stands between two words of a scalar: the blanks if the line goes on, the folded line breaks
otherwise.  The place after it comes with it. -/
def wordGap (isIndent : Char → Bool) (c : Cursor) : Piece :=
  let (blanks, after) := c.takeOf isIndent
  match after.rest with
  | [] => (blanks, after)
  | x :: rest =>
    if isBreak x then
      let r := blankLines isIndent (after.past x rest)
      (foldBreaks x r.1, r.2)
    else (blanks, after)

/-! ## Plain scalars -/

/-- A plain scalar ends before this character. -/
def endsPlain (inBrackets : Bool) (x : Char) (rest : Text) : Bool :=
  isBlank x || (x == ':' && (blankNext rest || (inBrackets && rest.head?.any ",[]\x7b\x7d".toList.contains)))
    || (inBrackets && ",?[]\x7b\x7d".toList.contains x)

/-- The characters of a plain scalar up to the next blank. -/
def plainWord (inBrackets : Bool) : Text → Text
  | [] => []
  | x :: rest => if endsPlain inBrackets x rest then [] else x :: plainWord inBrackets rest

/-- The words of a plain scalar and the place behind the last one.  Outside of brackets a line that goes
on with it is indented to the column `least` at least. -/
def plainWords (inBrackets : Bool) (least : Int) : Nat → Cursor → Piece
  | 0, c => ([], c)
  | fuel + 1, c =>
    let word := plainWord inBrackets c.rest
    let behind := c.advance word.length
    let gap := wordGap (fun x => x == ' ') behind
    let goesOn := !gap.1.isEmpty && !gap.2.atMarker && !gap.2.sees '#' &&
      (inBrackets || least ≤ (gap.2.column : Int))
    if word.isEmpty || !goesOn then (word, behind)
    else
      let r := plainWords inBrackets least fuel gap.2
      if r.1.isEmpty then (word, behind) else (word ++ gap.1 ++ r.1, r.2)

/-- A plain scalar may open here. -/
def opensPlain (inBrackets : Bool) : Text → Bool
  | [] => false
  | x :: rest =>
    if x == '-' then !blankNext rest
    else if x == '?' || x == ':' then !blankNext rest && !inBrackets
    else !isBlank x && !",[]\x7b\x7d#&*!|>'\"%@\x60".toList.contains x

/-! ## Quoted scalars -/

/-- What a character after a backslash stands for. -/
def escapes : List (Char × Nat) :=
  [('0', 0), ('a', 7), ('b', 8), ('t', 9), ('\t', 9), ('n', 10), ('v', 11), ('f', 12), ('r', 13),
    ('e', 27), (' ', 32), ('"', 34), ('\\', 92), ('/', 47), ('N', 0x85), ('_', 0xA0), ('L', 0x2028),
    ('P', 0x2029)]

/-- How many hexadecimal digits follow a letter after a backslash. -/
def escapeDigits : List (Char × Nat) := [('x', 2), ('u', 4), ('U', 8)]

/-- The value of a hexadecimal digit. -/
def hexDigit? (c : Char) : Option Nat :=
  let n := c.toNat
  if c.isDigit then some (n - 48)
  else if 'a' ≤ c && c ≤ 'f' then some (n - 87)
  else if 'A' ≤ c && c ≤ 'F' then some (n - 55)
  else none

/-- The number that exactly `count` hexadecimal digits in front of a text spell. -/
def hexNumber? (count : Nat) (t : Text) : Option Nat :=
  let digits := (t.take count).filterMap hexDigit?
  if digits.length = count then some (digits.foldl (fun total d => 16 * total + d) 0) else none

/-- The character of a code point.  A code between the characters has none. -/
def charOfCode (n : Nat) : Except Fault Char :=
  if h : n.isValidChar then .ok (Char.ofNatAux n h)
  else if n < 0x110000 then .error .malformed
  else if n < Nat.pow 2 31 then .error (.misfit "chr() arg not in range(0x110000)".toList)
  else .error .tooLarge

/-- The second half of a code that is split into two, if a text opens with its escape. -/
def lowerHalf? (t : Text) : Option Nat :=
  match t with
  | '\\' :: 'u' :: rest => (hexNumber? 4 rest).filter fun low => 0xDC00 ≤ low && low < 0xE000
  | _ => none

/-- The character of a code point that an escape spells, and the length of what follows and belongs to it.
A code above all others of four digits may be split into two halves. -/
def escapedChar (n : Nat) (following : Text) : Except Fault (Char × Nat) :=
  match (if 0xD800 ≤ n && n < 0xDC00 then lowerHalf? following else none) with
  | some low => .ok (Char.ofNat (0x10000 + (n - 0xD800) * 0x400 + (low - 0xDC00)), 6)
  | none => (charOfCode n).map fun c => (c, 0)

/-- The escape behind a backslash. -/
def readEscape (c : Cursor) : Except Fault Piece :=
  match c.rest with
  | [] => .error .malformed
  | x :: rest =>
    if isBreak x then
      let r := blankLines (fun y => y == ' ' || y == '\t') (c.past x rest)
      if r.2.atMarker then .error .malformed else .ok r
    else
      match escapes.lookup x, escapeDigits.lookup x with
      | some code, _ => .ok ([Char.ofNat code], c.next)
      | none, some count =>
        match hexNumber? count rest with
        | some n =>
          (escapedChar n (rest.drop count)).map fun r => ([r.1], c.next.advance (count + r.2))
        | none => .error .malformed
      | none, none => .error .malformed

/-- The rest of a quoted scalar up to its closing quote, and the place behind the quote. -/
def readQuoted (double : Bool) : Nat → Cursor → Except Fault Piece
  | 0, _ => .error .malformed
  | fuel + 1, c =>
    let goOn := fun (p : Piece) => (readQuoted double fuel p.2).map fun r => (p.1 ++ r.1, r.2)
    match c.rest with
    | [] => .error .malformed
    | x :: rest =>
      if isBlank x then
        let gap := wordGap (fun y => y == ' ' || y == '\t') c
        if gap.2.atMarker then .error .malformed else goOn gap
      else if double && x == '\\' then (readEscape c.next).bind goOn
      else if double && x == '"' then .ok ([], c.next)
      else if !double && x == '\'' then
        if Text.startsWith rest '\'' then goOn (['\''], c.advance 2) else .ok ([], c.next)
      else goOn ([x], c.next)

/-! ## Blocks -/

/-- What becomes of the line breaks at the end of a block. -/
inductive Chomping where
  | strip
  | clip
  | keep
  deriving DecidableEq, Repr, Inhabited

/-- The chomping that a sign asks for. -/
def Chomping.ofChar? : Char → Option Chomping
  | '+' => some .keep
  | '-' => some .strip
  | _ => none

/-- The digit that a text opens with. -/
def leadingDigit? (t : Text) : Option Nat :=
  match t with
  | x :: _ => if x.isDigit then some (x.toNat - 48) else none
  | [] => none

/-- The signs behind the sign of a block, in any order: its chomping and how far it is indented. -/
def readBlockSigns (c : Cursor) : Except Fault (Chomping × Option Nat × Cursor) :=
  let chomping := c.rest.head?.bind Chomping.ofChar?
  let c1 := if chomping.isSome then c.next else c
  let increment := leadingDigit? c1.rest
  let c2 := if increment.isSome then c1.next else c1
  let late := if chomping.isNone && increment.isSome then c2.rest.head?.bind Chomping.ofChar? else none
  let c3 := if late.isSome then c2.next else c2
  if increment == some 0 || !spaceNext c3.rest then .error .malformed
  else .ok ((chomping.or late).getD .clip, increment, c3)

/-- The line breaks of the blank lines in front of a block whose indentation is to be found, the greatest
column among them, and the place behind them. -/
def openingLines : Text → Nat → Nat → Nat → Nat → Text × Nat × Cursor
  | [], index, line, column, widest => ([], widest, ⟨[], index, line, column⟩)
  | x :: rest, index, line, column, widest =>
    if isBreak x then
      let r := openingLines rest (index + 1) (line + 1) 0 widest
      (x :: r.1, r.2)
    else if x == ' ' then openingLines rest (index + 1) line (column + 1) (max widest (column + 1))
    else ([], widest, ⟨x :: rest, index, line, column⟩)

/-- The line breaks of the lines of a block that have nothing at its indentation, and the place behind
them. -/
def emptyLines (indent : Nat) : Text → Nat → Nat → Nat → Piece
  | [], index, line, column => ([], ⟨[], index, line, column⟩)
  | x :: rest, index, line, column =>
    if isBreak x then
      let r := emptyLines indent rest (index + 1) (line + 1) 0
      (x :: r.1, r.2)
    else if x == ' ' && column < indent then emptyLines indent rest (index + 1) line (column + 1)
    else ([], ⟨x :: rest, index, line, column⟩)

/-- A space or a tab comes next. -/
def indentNext (c : Cursor) : Bool := c.sees ' ' || c.sees '\t'

/-- The lines of a block from one of them on, behind line breaks that have been read.  What remains at the
end is the last line break and those of the blank lines after it. -/
def blockLines (folded : Bool) (indent : Nat) : Nat → Text → Cursor → Text × Text × Text × Cursor
  | 0, breaks, c => ([], [], breaks, c)
  | fuel + 1, breaks, c =>
    if c.column = indent && !c.atEnd then
      let (line, behind) := c.takeOf fun x => !isBreak x
      let (lineBreak, after) := behind.takeBreak
      let (others, following) := emptyLines indent after.rest after.index after.line after.column
      if following.column = indent && !following.atEnd then
        let isFolded := folded && lineBreak == ['\n'] && !indentNext c && !indentNext following
        let joint := if isFolded then (if others.isEmpty then [' '] else []) else lineBreak
        let r := blockLines folded indent fuel others following
        (breaks ++ line ++ joint ++ r.1, r.2)
      else (breaks ++ line, lineBreak, others, following)
    else ([], [], breaks, c)

/-- A block behind its sign, in a list or a mapping at the column `indent`. -/
def readBlock (folded : Bool) (indent : Int) (fuel : Nat) (c : Cursor) : Except Fault Piece :=
  match readBlockSigns c with
  | .error fault => .error fault
  | .ok (chomping, increment, behind) =>
    match behind.afterLine? with
    | none => .error .malformed
    | some first =>
      let least := (max (indent + 1) 1).toNat
      let (column, breaks, opening) :=
        match increment with
        | some n =>
          let r := emptyLines (least + n - 1) first.rest first.index first.line first.column
          (least + n - 1, r.1, r.2)
        | none =>
          let r := openingLines first.rest first.index first.line first.column 0
          (max least r.2.1, r.1, r.2.2)
      let (body, lineBreak, others, after) := blockLines folded column fuel breaks opening
      let tail := match chomping with
        | .strip => []
        | .clip => lineBreak
        | .keep => lineBreak ++ others
      .ok (body ++ tail, after)

end ErDiagram.Yaml

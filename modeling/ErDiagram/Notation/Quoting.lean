import ErDiagram.Text.Basic

set_option autoImplicit false

/-!
# Quoted positions

A position of a text is quoted when an odd number of double quotes stands before it.  Every search
and every cut of the notation passes over quoted positions, so a bracket, a comment mark or a
separator between double quotes is ordinary text.  All of them share one notion of quoting,
`afterChar`.
-/

namespace ErDiagram

namespace Quoting

/-- The character that opens and closes a quoted run. -/
def quote : Char := '"'

/-- Whether the position behind a character is quoted, given whether its own position is. -/
def afterChar (quoted : Bool) (c : Char) : Bool := if c = quote then !quoted else quoted

/-- Whether the position behind a text is quoted. -/
def after (quoted : Bool) (t : Text) : Bool := t.foldl afterChar quoted

/-- The text holds an even number of double quotes. -/
def isBalanced (t : Text) : Bool := !after false t

/-! ## Searching -/

/-- The first unquoted position that holds a character of a class. -/
def findFrom (p : Char → Bool) (quoted : Bool) : Text → Option Nat
  | [] => none
  | c :: cs =>
    if !quoted && p c then some 0 else (findFrom p (afterChar quoted c) cs).map (· + 1)

/-- The first unquoted position that holds this character. -/
def index? (t : Text) (c : Char) : Option Nat := findFrom (· == c) false t

/-- The least of the first unquoted positions of several characters. -/
def firstIndex? (t : Text) (chars : List Char) : Option Nat :=
  (chars.filterMap (index? t)).min?

/-- The first unquoted character out of several. -/
def firstChar? (t : Text) (chars : List Char) : Option Char :=
  (firstIndex? t chars).bind fun n => t[n]?

/-! ## Cutting -/

/-- The character that opens a comment. -/
def commentMark : Char := '#'

/-- The text up to the first unquoted comment mark. -/
def removeComment (t : Text) : Text :=
  match index? t commentMark with
  | none => t
  | some n => t.take n

/-- Puts a character in front of the first piece. -/
def consPiece (c : Char) : List Text → List Text
  | [] => [[c]]
  | piece :: rest => (c :: piece) :: rest

/-- The pieces between the unquoted delimiters; there is always at least one.  A double quote is never
taken for a delimiter. -/
def piecesFrom (delimiter : Char) (quoted : Bool) : Text → List Text
  | [] => [[]]
  | c :: cs =>
    if c ≠ quote ∧ quoted = false ∧ c = delimiter then [] :: piecesFrom delimiter quoted cs
    else consPiece c (piecesFrom delimiter (afterChar quoted c) cs)

/-- The stripped pieces of a text between its unquoted delimiters; a blank text has none. -/
def pieces (t : Text) (delimiter : Char) : List Text :=
  let body := Text.strip t
  if body.isEmpty then [] else (piecesFrom delimiter false body).map Text.strip

/-! ## Quoted texts -/

/-- The text stands between two double quotes. -/
def isQuoted (t : Text) : Bool := 2 ≤ t.length && t.startsWith quote && t.endsWith quote

/-- The text without one layer of double quotes around it, if there is one. -/
def unquote (t : Text) : Text := if isQuoted t then t.inner else t

end Quoting

end ErDiagram

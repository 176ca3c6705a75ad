set_option autoImplicit false

/-!
# Texts

A text is the list of its characters.  Positions and lengths therefore count code points, and every
fact about cutting and joining texts is a fact about lists.  Some characters form classes: blanks, what
ends a line, and digits.
-/

namespace ErDiagram

/-- A text is the list of its characters. -/
abbrev Text : Type := List Char

namespace Text

/-- The text opens with this character. -/
def startsWith (t : Text) (c : Char) : Bool := t.head? == some c

/-- The text closes with this character. -/
def endsWith (t : Text) (c : Char) : Bool := t.getLast? == some c

/-- What is left of a text without its first and its last character. -/
def inner (t : Text) : Text := t.tail.dropLast

/-- The pieces in a row, with a separator between neighbours. -/
def join (separator : Text) (pieces : List Text) : Text := separator.intercalate pieces

/-! ## Replacement -/

/-- Each occurrence of one character gives way to a text. -/
def replaceChar (old : Char) (new : Text) (t : Text) : Text :=
  t.flatMap fun c => if c = old then new else [c]

/-- Replaces from the left what is spelled like `old`, after skipping `skip` characters that belong
to an occurrence already replaced. -/
def replaceFrom (old new : Text) : Nat → Text → Text
  | _, [] => []
  | skip + 1, _ :: cs => replaceFrom old new skip cs
  | 0, c :: cs =>
    if old.isPrefixOf (c :: cs) then new ++ replaceFrom old new (old.length - 1) cs
    else c :: replaceFrom old new 0 cs

/-- Each occurrence of a non-empty text, found from the left and without overlaps, gives way to
another text. -/
def replaceAll (old new t : Text) : Text := replaceFrom old new 0 t

/-! ## Numbers in texts -/

/-- A natural number in decimal digits. -/
def ofNat (n : Nat) : Text := Nat.toDigits 10 n

/-- An integer in decimal digits, with a minus sign if it is negative. -/
def ofInt : Int → Text
  | .ofNat n => ofNat n
  | .negSucc n => '-' :: ofNat (n + 1)

/-- A number in the digits of a base up to sixteen, filled with zeros to a width. -/
def padded (base width n : Nat) : Text :=
  let digits := Nat.toDigits base n
  List.replicate (width - digits.length) '0' ++ digits

/-! ## Order -/

/-- Texts are ordered by the code points of their characters, a beginning before what it begins. -/
def le : Text → Text → Bool
  | [], _ => true
  | _ :: _, [] => false
  | a :: s, b :: t => if a.toNat < b.toNat then true else if b.toNat < a.toNat then false else le s t

/-! ## Blank characters

Blanks are the white space characters of Unicode together with the four ASCII information
separators. A zero width space and a byte order mark are no blanks. -/

/-- A blank: white space of Unicode, or one of the ASCII information separators. -/
def isBlank (c : Char) : Bool :=
  let n := c.toNat
  (9 ≤ n && n ≤ 13) || (0x1C ≤ n && n ≤ 0x20) || n == 0x85 || n == 0xA0 || n == 0x1680
    || (0x2000 ≤ n && n ≤ 0x200A) || n == 0x2028 || n == 0x2029 || n == 0x202F || n == 0x205F
    || n == 0x3000

/-- The text without the characters of a class at its beginning. -/
def stripLeftOf (p : Char → Bool) (t : Text) : Text := t.dropWhile p

/-- The text without the characters of a class at its end. -/
def stripRightOf (p : Char → Bool) (t : Text) : Text := (t.reverse.dropWhile p).reverse

/-- The text without the characters of a class at either end. -/
def stripOf (p : Char → Bool) (t : Text) : Text := stripRightOf p (stripLeftOf p t)

/-- The text without the blanks at either end. -/
def strip (t : Text) : Text := stripOf isBlank t

/-! ## Lines of a text

A line ends at a line feed, a carriage return, the two of them together, a vertical tab, a form
feed, one of three information separators, a next-line character, or a line or paragraph separator.
A break at the very end of the text opens no further line. -/

/-- A character that ends a line. -/
def isLineBreak (c : Char) : Bool :=
  let n := c.toNat
  (10 ≤ n && n ≤ 13) || (0x1C ≤ n && n ≤ 0x1E) || n == 0x85 || n == 0x2028 || n == 0x2029

/-- Puts a character in front of the first line. -/
def consLine (c : Char) : List Text → List Text
  | [] => [[c]]
  | line :: rest => (c :: line) :: rest

/-- The lines of a text, without their breaks. -/
def lines : Text → List Text
  | [] => []
  | '\r' :: '\n' :: cs => [] :: lines cs
  | c :: cs => if isLineBreak c then [] :: lines cs else consLine c (lines cs)

/-- Each carriage return, alone or before a line feed, becomes one line feed. -/
def unifyLineFeeds : Text → Text
  | [] => []
  | '\r' :: '\n' :: cs => '\n' :: unifyLineFeeds cs
  | c :: cs => (if c = '\r' then '\n' else c) :: unifyLineFeeds cs

/-! ## Digits of every script

The decimal digits of a script are ten neighbouring characters, so one list of zeros describes them
all (Unicode 14).  Superscripts, subscripts and circled digits are digits as well, but have no
decimal value. -/

/-- The digit zero of every script that has decimal digits. -/
def decimalZeros : List Nat :=
  [
    0x30, 0x660, 0x6F0, 0x7C0, 0x966, 0x9E6, 0xA66, 0xAE6, 0xB66, 0xBE6,
    0xC66, 0xCE6, 0xD66, 0xDE6, 0xE50, 0xED0, 0xF20, 0x1040, 0x1090, 0x17E0,
    0x1810, 0x1946, 0x19D0, 0x1A80, 0x1A90, 0x1B50, 0x1BB0, 0x1C40, 0x1C50, 0xA620,
    0xA8D0, 0xA900, 0xA9D0, 0xA9F0, 0xAA50, 0xABF0, 0xFF10, 0x104A0, 0x10D30, 0x11066,
    0x110F0, 0x11136, 0x111D0, 0x112F0, 0x11450, 0x114D0, 0x11650, 0x116C0, 0x11730, 0x118E0,
    0x11950, 0x11C50, 0x11D50, 0x11DA0, 0x16A60, 0x16AC0, 0x16B50, 0x1D7CE, 0x1D7D8, 0x1D7E2,
    0x1D7EC, 0x1D7F6, 0x1E140, 0x1E2F0, 0x1E950, 0x1FBF0]

/-- Ranges of the digits that are not decimal, such as superscripts. -/
def nonDecimalDigitRanges : List (Nat × Nat) :=
  [
    (0xB2, 0xB3), (0xB9, 0xB9), (0x1369, 0x1371), (0x19DA, 0x19DA), (0x2070, 0x2070),
    (0x2074, 0x2079), (0x2080, 0x2089), (0x2460, 0x2468), (0x2474, 0x247C), (0x2488, 0x2490),
    (0x24EA, 0x24EA), (0x24F5, 0x24FD), (0x24FF, 0x24FF), (0x2776, 0x277E), (0x2780, 0x2788),
    (0x278A, 0x2792), (0x10A40, 0x10A43), (0x10E60, 0x10E68), (0x11052, 0x1105A),
    (0x1F100, 0x1F10A)]

/-- The value of a decimal digit of any script. -/
def decimalValue? (c : Char) : Option Nat :=
  (decimalZeros.find? fun z => z ≤ c.toNat && c.toNat < z + 10).map (c.toNat - ·)

/-- A digit of any kind, decimal or not. -/
def isDigit (c : Char) : Bool :=
  (decimalValue? c).isSome || nonDecimalDigitRanges.any fun r => r.1 ≤ c.toNat && c.toNat ≤ r.2

/-- A text of digits, and at least one of them. -/
def isDigits (t : Text) : Bool := !t.isEmpty && t.all isDigit

end Text

end ErDiagram

import ErDiagram.Message.Layout
import ErDiagram.Number.Binary64

set_option autoImplicit false

/-!
# Setting values as a layout says

A text takes a fill, an alignment, a width and a precision.  A whole number takes a sign, an alternate
form and a separator too; its precision only counts if its type asks for a point, and then the number
is set by way of the nearest number of the 64 bit binary format.  Whatever does not fit is refused.
-/

namespace ErDiagram.Layout

/-- No memory holds a text of this many characters. -/
def widthLimit : Nat := Nat.pow 2 34

/-- A text between fills up to a width; fill from inside comes between `front` and `body`. -/
def pad (l : Layout) (front body : Text) : Except FormatFault Text :=
  let missing := l.width.getD 0 - (front.length + body.length)
  let fill := fun n => List.replicate n l.fill
  if widthLimit < missing then .error .noRoom
  else
    .ok <| match l.alignment with
      | .left => front ++ body ++ fill missing
      | .right => fill missing ++ front ++ body
      | .center => fill (missing / 2) ++ front ++ body ++ fill (missing - missing / 2)
      | .inside => front ++ fill missing ++ body

/-! ## Texts -/

/-- Sets a text as its layout says. -/
def setText (t layout : Text) : Except FormatFault Text :=
  if layout.isEmpty then .ok t
  else
    match read "str".toList 's' .left layout with
    | .error fault => .error fault
    | .ok l =>
      if l.type ≠ 's' then unknownType "str".toList l.type
      else if l.sign = some ' ' then refuse "Space not allowed in string format specifier"
      else if l.sign.isSome then refuse "Sign not allowed in string format specifier"
      else if l.noNegativeZero then
        refuse "Negative zero coercion (z) not allowed in string format specifier"
      else if l.alternate then refuse "Alternate form (#) not allowed in string format specifier"
      else if l.alignment = .inside then
        refuse "'=' alignment not allowed in string format specifier"
      else pad l [] (t.take (l.precision.getD t.length))

/-! ## Digits -/

/-- Digits in groups, the last digit first.  Zeros are added up to `least` characters, and the first
group never is empty. -/
def groupDigits (size : Nat) (separator : Char) : Nat → Text → Nat → Text
  | 0, digits, _ => digits
  | fuel + 1, digits, least =>
    let taken := min size (max (max digits.length least) 1)
    let group := digits.take taken ++ List.replicate (taken - digits.length) '0'
    let rest := digits.drop taken
    if rest.isEmpty && least ≤ taken then group
    else group ++ separator :: groupDigits size separator fuel rest (least - taken - 1)

/-- The sign that is set in front of a number. -/
def signText (l : Layout) (negative : Bool) : Text :=
  if negative then ['-']
  else
    match l.sign with
    | some '+' => ['+']
    | some ' ' => [' ']
    | _ => []

/-- Sets digits between what stands in front of them and what follows them.  The digits are grouped, and
filling them with zeros from inside counts as part of them. -/
def setDigits (l : Layout) (front digits tail : Text) (groupSize : Nat) : Except FormatFault Text :=
  let least :=
    if l.fill = '0' && l.alignment == .inside then l.width.getD 0 - (front.length + tail.length) else 0
  if widthLimit < least then .error .noRoom
  else
    let body :=
      match l.separator with
      | some s => (groupDigits groupSize s (digits.length + least + 1) digits.reverse least).reverse
      | none => List.replicate (least - digits.length) '0' ++ digits
    pad l front ((if digits.isEmpty then [] else body) ++ tail)

/-! ## Whole numbers -/

/-- The base of a number type, and the letter of its prefix. -/
def base : Char → Nat × Option Char
  | 'b' => (2, some 'b')
  | 'o' => (8, some 'o')
  | 'x' => (16, some 'x')
  | 'X' => (16, some 'X')
  | _ => (10, none)

/-- Sets a number in the digits of a base. -/
def setWhole (n : Int) (l : Layout) : Except FormatFault Text :=
  let (radix, letter) := base l.type
  let lower := Nat.toDigits radix n.natAbs
  let digits := if l.type = 'X' then lower.map Char.toUpper else lower
  let lead : Text :=
    match l.alternate, letter with
    | true, some c => ['0', c]
    | _, _ => []
  setDigits l (signText l (decide (n < 0)) ++ lead) digits [] (if radix = 10 then 3 else 4)

/-- Sets a number as the character of its code. -/
def setCharacter (n : Int) (l : Layout) : Except FormatFault Text :=
  if l.sign.isSome then refuse "Sign not allowed with integer format specifier 'c'"
  else if l.alternate then
    refuse "Alternate form (#) not allowed with integer format specifier 'c'"
  else if n < 0 || 0x10FFFF < n then .error .outOfRange
  else pad l [] [Char.ofNat n.toNat]

/-! ## Numbers with a point -/

/-- The digits of a number of the 64 bit format as a type asks for them. -/
def pointed (n precision : Nat) (type : Char) (alternate : Bool) : Places.Pointed :=
  match type with
  | 'e' => Places.scientific n precision 'e' alternate
  | 'E' => Places.scientific n precision 'E' alternate
  | 'g' => Places.general n precision 'e' alternate
  | 'G' => Places.general n precision 'E' alternate
  | _ => Places.fixed n precision alternate

/-- The most places that a precision may ask for. -/
def precisionLimit : Nat := Nat.pow 2 31 - 1

/-- The digits of a number of the 64 bit format, or of a percentage, which may be beyond the format. -/
def pointedOrInfinite (n precision : Nat) (type : Char) (alternate : Bool) : Places.Pointed :=
  if Places.limit ≤ n then ⟨[], "inf".toList⟩ else pointed n precision type alternate

/-- Sets a number with a point, or a percentage, six places being the rule. -/
def setPointed (n : Int) (l : Layout) : Except FormatFault Text :=
  let magnitude := Places.nearest n.natAbs
  let precision := l.precision.getD 6
  if Places.limit ≤ magnitude then .error .outOfRange
  else if precisionLimit < precision then refuse "precision too big"
  else
    let sign := signText l (decide (n < 0))
    if l.type = '%' then
      let digits := pointedOrInfinite (Places.nearest (100 * magnitude)) precision '%' l.alternate
      setDigits l sign digits.whole (digits.tail ++ ['%']) 3
    else
      let digits := pointed magnitude precision l.type l.alternate
      setDigits l sign digits.whole digits.tail 3

/-! ## Any value -/

/-- Sets a whole number as its layout says. -/
def setNumber (n : Int) (layout : Text) : Except FormatFault Text :=
  if layout.isEmpty then .ok (Text.ofInt n)
  else
    match read "int".toList 'd' .right layout with
    | .error fault => .error fault
    | .ok l =>
      if "eEfFgG%".toList.contains l.type then setPointed n l
      else if !"bcdoxXn".toList.contains l.type then unknownType "int".toList l.type
      else if l.precision.isSome then refuse "Precision not allowed in integer format specifier"
      else if l.noNegativeZero then
        refuse "Negative zero coercion (z) not allowed in integer format specifier"
      else if l.type = 'c' then setCharacter n l
      else setWhole n l

end ErDiagram.Layout

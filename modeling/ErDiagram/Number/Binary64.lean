import ErDiagram.Number.Numeral

set_option autoImplicit false

/-!
# Binary floating point numbers

A number of the 64 bit binary format is its bit pattern.  Decimal numerals are rounded to the
nearest such number, a half going to the even neighbour; everything is computed with natural
numbers, so the rounding is exact.
-/

namespace ErDiagram

/-- A number of the 64 bit binary floating point format, by its bit pattern. -/
structure Binary64 where
  bits : Nat
  deriving DecidableEq, Repr, Inhabited

namespace Binary64

/-- A power of two. -/
def twoTo (n : Nat) : Nat := Nat.pow 2 n

/-- A power of ten. -/
def tenTo (n : Nat) : Nat := Nat.pow 10 n

/-- The pattern of the infinity without a sign; smaller patterns are finite. -/
def infinityBits : Nat := 0x7FF0000000000000

/-- The bit of the sign. -/
def signBit : Nat := 0x8000000000000000

/-- The number that stands for no number. -/
def notANumber : Binary64 := ⟨0x7FF8000000000000⟩

/-- The number of this pattern with a sign. -/
def signed (negative : Bool) (magnitude : Nat) : Binary64 :=
  ⟨if negative then signBit + magnitude else magnitude⟩

/-- The number has a minus sign. -/
def isNegative (x : Binary64) : Bool := signBit ≤ x.bits

/-- The pattern without the sign. -/
def magnitude (x : Binary64) : Nat := x.bits % signBit

/-- The number is no number. -/
def isNaN (x : Binary64) : Bool := infinityBits < x.magnitude

/-- The mantissa of a finite pattern and the power of two that it is counted in. -/
def decode (magnitude : Nat) : Nat × Int :=
  let field : Nat := magnitude / twoTo 52
  let fraction : Nat := magnitude % twoTo 52
  if field = 0 then (fraction, -1074) else (twoTo 52 + fraction, (field : Int) - 1075)

/-- A finite number as a quotient: its numerator, and the power of two that it is divided by. -/
def quotient? (x : Binary64) : Option (Int × Nat) :=
  let (m, unit) := decode x.magnitude
  let numerator : Int := m * twoTo unit.toNat
  if infinityBits ≤ x.magnitude then none
  else some (if x.isNegative then -numerator else numerator, (-unit).toNat)

/-- The integer that a number is equal to. -/
def integer? (x : Binary64) : Option Int :=
  x.quotient?.bind fun q =>
    let divisor : Int := twoTo q.2
    if q.1 % divisor = 0 then some (q.1 / divisor) else none

/-! ## Rounding -/

/-- A quotient rounded to the nearest natural number, a half to the even one. -/
def roundDiv (num den : Nat) : Nat :=
  let q := num / den
  let twice := 2 * (num % den)
  if twice < den then q else if den < twice then q + 1 else q + q % 2

/-- The power of two below a positive quotient. -/
def floorLog2 (num den : Nat) : Int :=
  let guess : Int := (num.log2 : Int) - (den.log2 : Int)
  -- the quotient lies between the powers `guess - 1` and `guess + 1`
  let reaches := if 0 ≤ guess then den * twoTo guess.toNat ≤ num else den ≤ num * twoTo (-guess).toNat
  if reaches then guess else guess - 1

/-- The pattern nearest to a positive quotient. -/
def ofRatio (num den : Nat) : Nat :=
  let unit : Int := max (floorLog2 num den - 52) (-1074)
  let mantissa :=
    if 0 ≤ unit then roundDiv num (den * twoTo unit.toNat) else roundDiv (num * twoTo (-unit).toNat) den
  min ((unit + 1074).toNat * twoTo 52 + mantissa) infinityBits

/-- The pattern nearest to `mantissa` times a power of ten.  Outside the range of the format the answer
is known from the number of digits alone. -/
def ofDecimal (mantissa : Nat) (exponent : Int) : Nat :=
  let size : Int := (Nat.toDigits 10 mantissa).length + exponent
  if mantissa = 0 || size < -330 then 0
  else if 320 < size then infinityBits
  else if 0 ≤ exponent then ofRatio (mantissa * tenTo exponent.toNat) 1
  else ofRatio mantissa (tenTo (-exponent).toNat)

/-! ## Arithmetic -/

/-- The number nearest to a quotient; a zero has no sign. -/
def ofQuotient (numerator : Int) (divisor : Nat) : Binary64 :=
  if numerator = 0 then ⟨0⟩ else signed (decide (numerator < 0)) (ofRatio numerator.natAbs divisor)

/-- The sum of two numbers, rounded. -/
def add (x y : Binary64) : Binary64 :=
  match x.quotient?, y.quotient? with
  | some (a, i), some (b, j) =>
    if x.magnitude = 0 && y.magnitude = 0 && x.isNegative && y.isNegative then x
    else ofQuotient (a * (twoTo j : Nat) + b * (twoTo i : Nat)) (twoTo (i + j))
  | some _, none => y
  | none, some _ => x
  | none, none => if x.isNaN || x == y then x else notANumber

/-- A number times a positive natural number that is exact in the format, rounded. -/
def times (x : Binary64) (factor : Nat) : Binary64 :=
  match x.quotient? with
  | some (a, i) => if x.magnitude = 0 then x else ofQuotient (a * (factor : Nat)) (twoTo i)
  | none => x

/-- The number with the other sign. -/
def negate (x : Binary64) : Binary64 := if x.isNaN then x else signed (!x.isNegative) x.magnitude

/-! ## Reading -/

/-- Every underscore stands between two digits; the flag says that a digit comes before the text. -/
def underscoresSeparate : Bool → Text → Bool
  | _, [] => true
  | afterDigit, '_' :: t =>
    afterDigit && (match t with
      | c :: _ => Numeral.isDecimal c
      | [] => false) && underscoresSeparate false t
  | _, c :: t => underscoresSeparate (Numeral.isDecimal c) t

/-- The leading digits of a text and what follows them. -/
def takeDigits (t : Text) : List Nat × Text :=
  (Numeral.digitsOf (t.takeWhile Numeral.isDecimal), t.dropWhile Numeral.isDecimal)

/-- An exponent part: a letter, an optional sign and digits.  Without the letter it is zero. -/
def readExponent : Text → Option Int
  | [] => some 0
  | c :: t =>
    if c == 'e' || c == 'E' then
      let (negative, body) := Numeral.splitSign t
      let (digits, rest) := takeDigits body
      if digits.isEmpty || !rest.isEmpty then none
      else some (if negative then -(Numeral.value digits : Int) else (Numeral.value digits : Int))
    else none

/-- Digits around an optional point, and an optional exponent. -/
def readDecimal (t : Text) : Option Nat :=
  let (whole, afterWhole) := takeDigits t
  let (fraction, rest) :=
    match afterWhole with
    | '.' :: u => takeDigits u
    | u => ([], u)
  if whole.isEmpty && fraction.isEmpty then none
  else (readExponent rest).map fun e =>
    ofDecimal (Numeral.value (whole ++ fraction)) (e - (fraction.length : Int))

/-- Reads a floating point numeral, or one of the names of infinity and of no number. -/
def read? (t : Text) : Option Binary64 :=
  let body := Numeral.trim t
  if !underscoresSeparate false body then none
  else
    let (negative, unsigned) := Numeral.splitSign (body.filter (· != '_'))
    let name := unsigned.map Char.toLower
    if name = "inf".toList || name = "infinity".toList then some (signed negative infinityBits)
    else if name = "nan".toList then some notANumber
    else (readDecimal unsigned).map (signed negative)

/-- What is said about a text that is no floating point numeral. -/
def readMessage (t : Text) : Text := "could not convert string to float: ".toList ++ Text.quoted t

/-! ## The shortest decimal text

A finite number is shown by the fewest digits that read back as it, and among those by the ones
nearest to it.  The reals that read back as the number form an interval around it; for one digit,
two digits and so on up to seventeen, only the two neighbours of the number on that decimal grid
have to be tried, since an interval that holds any point of the grid holds one of them. -/

/-- How `a` times a power of ten compares with `b` times a power of two. -/
def comparePowers (a : Nat) (tens : Int) (b : Nat) (twos : Int) : Ordering :=
  compare (a * tenTo tens.toNat * twoTo (-twos).toNat) (b * twoTo twos.toNat * tenTo (-tens).toNat)

/-- `a` times a power of ten reads back as the finite pattern. -/
def readsBack (magnitude a : Nat) (tens : Int) : Bool :=
  let (m, unit) := decode magnitude
  let below := if m = twoTo 52 && twoTo 53 ≤ magnitude then 4 * m - 1 else 4 * m - 2
  let fromBelow := comparePowers a tens below (unit - 2)
  let fromAbove := comparePowers a tens (4 * m + 2) (unit - 2)
  if m % 2 = 0 then fromBelow != .lt && fromAbove != .gt else fromBelow == .gt && fromAbove == .lt

/-- The power of ten above a positive quotient: the least one that is greater than it. -/
def ceilLog10 (num den : Nat) : Int :=
  if den ≤ num then (Nat.toDigits 10 (num / den)).length
  else
    match (List.range 400).find? fun j => den ≤ num * tenTo (j + 1) with
    | some j => -(j : Int)
    | none => -400

/-- The nearest point with `count` digits that reads back as the pattern, if there is one. -/
def pointWith (magnitude : Nat) (size : Int) (count : Nat) : Option (Nat × Int) :=
  let (m, unit) := decode magnitude
  let tens := size - (count : Int)
  let num := m * twoTo unit.toNat * tenTo (-tens).toNat
  let den := twoTo (-unit).toNat * tenTo tens.toNat
  let low := num / den
  let twice := 2 * (num % den)
  let nearer := if twice < den then low else if den < twice then low + 1 else low + low % 2
  let other := if nearer = low then low + 1 else low
  if readsBack magnitude nearer tens then some (nearer, tens)
  else if readsBack magnitude other tens then some (other, tens)
  else none

/-- The digits of the shortest text, and the place of the point counted from their beginning. -/
def shortestDigits (magnitude : Nat) : Text × Int :=
  let (m, unit) := decode magnitude
  let size := ceilLog10 (m * twoTo unit.toNat) (twoTo (-unit).toNat)
  let (a, tens) := ((List.range 17).findSome? fun i => pointWith magnitude size (i + 1)).getD (m, 0)
  let digits := Nat.toDigits 10 a
  (Text.stripRightOf (· == '0') digits, tens + digits.length)

/-- Digits with a point at a place: positional from 0.0001 up to sixteen digits before the point,
with an exponent of at least two digits otherwise. -/
def place (digits : Text) (point : Int) : Text :=
  if -4 < point && point ≤ 16 then
    if point ≤ 0 then '0' :: '.' :: List.replicate (-point).toNat '0' ++ digits
    else
      let whole := digits.take point.toNat
      let fraction := digits.drop point.toNat
      whole ++ List.replicate (point.toNat - whole.length) '0' ++ '.' ::
        (if fraction.isEmpty then ['0'] else fraction)
  else
    let exponent := point - 1
    digits.take 1 ++ (if digits.length ≤ 1 then [] else '.' :: digits.drop 1)
      ++ 'e' :: (if exponent < 0 then '-' else '+') :: Text.padded 10 2 exponent.natAbs

/-- The text of a floating point number. -/
def display (x : Binary64) : Text :=
  if x.isNaN then "nan".toList
  else
    let body :=
      if x.magnitude = infinityBits then "inf".toList
      else if x.magnitude = 0 then "0.0".toList
      else
        let (digits, point) := shortestDigits x.magnitude
        place digits point
    if x.isNegative then '-' :: body else body

end Binary64

/-! ## Whole numbers with places behind a point

A whole number can be written as a number with a point: with a count of places, with an exponent, or
with a count of significant digits in the shorter of both ways.  It is brought to the nearest number
of the 64 bit binary format first.  That is a whole number again, so natural numbers are enough to
compute its digits exactly; a half goes to the even digit. -/

namespace Places

open Binary64

/-- The natural number nearest to another one among those that have a mantissa of 53 bits. -/
def nearest (n : Nat) : Nat :=
  let unit := twoTo (n.log2 - 52)
  roundDiv n unit * unit

/-- A natural number of the 64 bit format is below this one. -/
def limit : Nat := twoTo 1024

/-- Digits in two parts: those in front of the point, and everything from the point on. -/
structure Pointed where
  whole : Text
  tail : Text
  deriving DecidableEq, Repr, Inhabited

/-- Digits with a point behind the first `count` ones.  A point with nothing behind it is left out unless
`keepPoint` is set. -/
def pointAfter (count : Nat) (keepPoint : Bool) (digits : Text) : Pointed :=
  let fraction := digits.drop count
  ⟨digits.take count, if fraction.isEmpty && !keepPoint then [] else '.' :: fraction⟩

/-- A natural number with this many places behind the point. -/
def fixed (n places : Nat) (keepPoint : Bool) : Pointed :=
  let digits := Nat.toDigits 10 n
  pointAfter digits.length keepPoint (digits ++ List.replicate places '0')

/-- The first `count` digits of a natural number, rounded, and the power of ten that the first of them
counts. -/
def significant (n count : Nat) : Text × Nat :=
  let digits := Nat.toDigits 10 n
  if digits.length ≤ count then
    (digits ++ List.replicate (count - digits.length) '0', digits.length - 1)
  else
    let rounded := Nat.toDigits 10 (roundDiv n (tenTo (digits.length - count)))
    -- rounding up may lead to the next power of ten
    if rounded.length ≤ count then (rounded, digits.length - 1) else (rounded.take count, digits.length)

/-- The exponent of a number that is at least one. -/
def exponentPart (mark : Char) (exponent : Nat) : Text := mark :: '+' :: Text.padded 10 2 exponent

/-- A natural number with one digit in front of the point, this many places behind it and an exponent. -/
def scientific (n places : Nat) (mark : Char) (keepPoint : Bool) : Pointed :=
  let (digits, exponent) := significant n (places + 1)
  let pointed := pointAfter 1 keepPoint digits
  ⟨pointed.whole, pointed.tail ++ exponentPart mark exponent⟩

/-- A natural number with this many significant digits, but at least one, and with an exponent only if
these digits do not reach the point.  Zeros at the end of the fraction are left out unless `keepPoint`
is set. -/
def general (n count : Nat) (mark : Char) (keepPoint : Bool) : Pointed :=
  let precision := max count 1
  let (digits, exponent) := significant n precision
  let kept := fun (whole : Nat) =>
    if keepPoint then digits
    else digits.take whole ++ Text.stripRightOf (· == '0') (digits.drop whole)
  if exponent < precision then pointAfter (exponent + 1) keepPoint (kept (exponent + 1))
  else
    let pointed := pointAfter 1 keepPoint (kept 1)
    ⟨pointed.whole, pointed.tail ++ exponentPart mark exponent⟩

end Places

end ErDiagram

import ErDiagram.Text.Quoted

set_option autoImplicit false

/-!
# Integer numerals

An integer numeral is an optional sign and decimal digits of any script, where a single underscore
may stand between two digits.  Blanks around it do not count, the information separators not being
among them here.  A numeral of more than 4300 digits is refused, in reading and in writing.  In the bases
two, eight and sixteen there is no such limit.
-/

namespace ErDiagram.Numeral

/-- Why a text is not read as an integer. -/
inductive Fault where
  /-- the text is no numeral -/
  | malformed
  /-- the numeral has this many digits, more than the limit -/
  | tooLong (digits : Nat)
  deriving DecidableEq, Repr, Inhabited

/-- The most digits that a numeral may have. -/
def digitLimit : Nat := 4300

/-- A blank that may surround a numeral: an information separator may not. -/
def isMargin (c : Char) : Bool := Text.isBlank c && !(0x1C ≤ c.toNat && c.toNat ≤ 0x1F)

/-- The text without the blanks that may surround a numeral. -/
def trim (t : Text) : Text := Text.stripOf isMargin t

/-- A sign, if there is one, and what follows it; the flag says that the sign is a minus. -/
def splitSign : Text → Bool × Text
  | '-' :: t => (true, t)
  | '+' :: t => (false, t)
  | t => (false, t)

/-- A decimal digit of any script. -/
def isDecimal (c : Char) : Bool := (Text.decimalValue? c).isSome

/-- Two underscores stand side by side somewhere. -/
def hasDoubleUnderscore : Text → Bool
  | '_' :: '_' :: _ => true
  | _ :: t => hasDoubleUnderscore t
  | [] => false

/-- Every underscore of a run of digits and underscores stands between two digits. -/
def underscoresFit (run : Text) : Bool :=
  !Text.startsWith run '_' && !Text.endsWith run '_' && !hasDoubleUnderscore run

/-- The value of a row of digits. -/
def value (digits : List Nat) : Nat := digits.foldl (fun total d => 10 * total + d) 0

/-- The digits of a run, without its underscores. -/
def digitsOf (run : Text) : List Nat := run.filterMap Text.decimalValue?

/-- Reads an integer numeral.  The length of the numeral is judged before what follows it. -/
def read (t : Text) : Except Fault Int :=
  let (negative, body) := splitSign (trim t)
  let run := body.takeWhile fun c => isDecimal c || c == '_'
  let rest := body.dropWhile fun c => isDecimal c || c == '_'
  let digits := digitsOf run
  if !underscoresFit run then .error .malformed
  else if digitLimit < digits.length then .error (.tooLong digits.length)
  else if digits.isEmpty || !rest.isEmpty then .error .malformed
  else .ok (if negative then -(value digits : Int) else (value digits : Int))

/-- An integer in decimal digits, unless it has more digits than the limit. -/
def write? (n : Int) : Option Text :=
  if digitLimit < (Text.ofNat n.natAbs).length then none else some (Text.ofInt n)

/-! ## Other bases -/

/-- The value of a digit of a base up to sixteen. -/
def digitIn? (base : Nat) (c : Char) : Option Nat :=
  let letter := if 'a' ≤ c.toLower && c.toLower ≤ 'f' then some (c.toLower.toNat - 87) else none
  ((Text.decimalValue? c).or letter).filter fun d => d < base

/-- The letter behind a zero that announces a base. -/
def baseLetter? : Nat → Option Char
  | 2 => some 'b'
  | 8 => some 'o'
  | 16 => some 'x'
  | _ => none

/-- The text without the sign of its base, if it has one. -/
def dropBaseSign (base : Nat) : Text → Text
  | '0' :: c :: t => if baseLetter? base == some c.toLower then t else '0' :: c :: t
  | t => t

/-- Reads a numeral of base two, eight or sixteen without underscores, which may have any number of
digits. -/
def readIn? (base : Nat) (t : Text) : Option Int :=
  let (negative, body) := splitSign (trim t)
  let digits := dropBaseSign base body
  let values := digits.filterMap (digitIn? base)
  if digits.isEmpty || values.length != digits.length then none
  else
    let n := values.foldl (fun total d => base * total + d) 0
    some (if negative then -(n : Int) else (n : Int))

/-! ## Wording -/

/-- What is said when a number has too many digits to be written. -/
def writeLimitMessage : Text :=
  "Exceeds the limit (4300 digits) for integer string conversion; ".toList
    ++ "use sys.set_int_max_str_digits() to increase the limit".toList

/-- What is said about a text that is no numeral of a base; a long text is shown only by its beginning. -/
def malformedMessage (base : Nat) (t : Text) : Text :=
  "invalid literal for int() with base ".toList ++ Text.ofNat base ++ ':' :: ' ' :: (Text.quoted t).take 200

/-- What is said about a text that is not read. -/
def Fault.message (t : Text) : Fault → Text
  | .malformed => malformedMessage 10 t
  | .tooLong digits =>
    "Exceeds the limit (4300 digits) for integer string conversion: value has ".toList
      ++ Text.ofNat digits
      ++ " digits; use sys.set_int_max_str_digits() to increase the limit".toList

end ErDiagram.Numeral

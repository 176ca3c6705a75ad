import ErDiagram.Number.Numeral

set_option autoImplicit false

/-!
# Layouts

A layout says how a parameter of a message is set: a fill character and an alignment, a sign, an
alternate form, zero filling, a width, a separator between groups of digits, a precision and a type.
Only its shape is read here; which parts of it fit a value is decided where the value is set.
-/

namespace ErDiagram

/-- A parameter of a message. -/
inductive Param where
  | text (t : Text)
  | number (n : Int)
  deriving DecidableEq, Repr, Inhabited

/-- Why a parameter cannot be set into a message. -/
inductive FormatFault where
  /-- the template or its layout does not fit, for this reason -/
  | unusable (reason : Text)
  /-- a parameter is indexed in a way that it does not have -/
  | misused (reason : Text)
  /-- a parameter is asked for a property that it does not have -/
  | noProperty
  /-- a number is too large for a character, or for a number with a point -/
  | outOfRange
  /-- a text is asked for that is too wide for any memory -/
  | noRoom
  deriving DecidableEq, Repr, Inhabited

/-- Where the fill of a layout goes. -/
inductive Alignment where
  | left
  | right
  | center
  /-- between the sign and the digits -/
  | inside
  deriving DecidableEq, Repr, Inhabited

/-- The alignment that a character stands for. -/
def Alignment.ofChar? : Char → Option Alignment
  | '<' => some .left
  | '>' => some .right
  | '^' => some .center
  | '=' => some .inside
  | _ => none

/-- A layout, part by part. -/
structure Layout where
  fill : Char := ' '
  alignment : Alignment
  sign : Option Char := none
  noNegativeZero : Bool := false
  alternate : Bool := false
  width : Option Nat := none
  separator : Option Char := none
  precision : Option Nat := none
  type : Char
  deriving DecidableEq, Repr, Inhabited

namespace Layout

/-- A fault with a reason from a literal. -/
def refuse {α : Type} (reason : String) : Except FormatFault α := .error (.unusable reason.toList)

/-! ## Reading a layout -/

/-- The largest number that a template may hold. -/
def numberLimit : Nat := Nat.pow 2 63 - 1

/-- The number in front of a text, if a digit opens it, and what follows. -/
def readNumber (t : Text) : Except FormatFault (Option Nat × Text) :=
  let digits := t.takeWhile Numeral.isDecimal
  let rest := t.dropWhile Numeral.isDecimal
  let value := Numeral.value (Numeral.digitsOf digits)
  if digits.isEmpty then .ok (none, t)
  else if numberLimit < value then refuse "Too many decimal digits in format string"
  else .ok (some value, rest)

/-- The fill and the alignment in front of a text, each if it is given, and what follows. -/
def readAlignment (t : Text) : Option Char × Option Alignment × Text :=
  match t with
  | f :: a :: rest =>
    match Alignment.ofChar? a with
    | some alignment => (some f, some alignment, rest)
    | none =>
      match Alignment.ofChar? f with
      | some alignment => (none, some alignment, a :: rest)
      | none => (none, none, t)
  | [a] =>
    match Alignment.ofChar? a with
    | some alignment => (none, some alignment, [])
    | none => (none, none, t)
  | [] => (none, none, t)

/-- A character in front of a text, if it is of a class, and what follows. -/
def readChar (p : Char → Bool) : Text → Option Char × Text
  | c :: rest => if p c then (some c, rest) else (none, c :: rest)
  | [] => (none, [])

/-- The separator between groups of digits in front of a text, and what follows. -/
def readSeparator (t : Text) : Except FormatFault (Option Char × Text) :=
  match t with
  | ',' :: '_' :: _ => refuse "Cannot specify both ',' and '_'."
  | ',' :: rest => .ok (some ',', rest)
  | '_' :: ',' :: _ => refuse "Cannot specify both ',' and '_'."
  | '_' :: rest => .ok (some '_', rest)
  | _ => .ok (none, t)

/-- The precision in front of a text, behind a point, and what follows. -/
def readPrecision (t : Text) : Except FormatFault (Option Nat × Text) :=
  match t with
  | '.' :: rest =>
    match readNumber rest with
    | .error fault => .error fault
    | .ok (none, _) => refuse "Format specifier missing precision"
    | .ok (some n, after) => .ok (some n, after)
  | _ => .ok (none, t)

/-- A character as error texts show it: itself, or its code if it is no visible ASCII character. -/
def showCode (limit : Nat) (c : Char) : Text :=
  if 32 < c.toNat && c.toNat < limit then [c] else '\\' :: 'x' :: Nat.toDigits 16 c.toNat

/-- The separator fits the type. -/
def separatorFits (separator type : Char) : Bool :=
  "defgEG%F".toList.contains type || (separator == '_' && "boxX".toList.contains type)

/-- Reads a layout for values that `what` names, with the type and the alignment that they have unless
the layout says otherwise. -/
def read (what : Text) (type : Char) (alignment : Alignment) (t : Text) : Except FormatFault Layout :=
  let (fill, aligned, t1) := readAlignment t
  let (sign, t2) := readChar (fun c => c == '+' || c == '-' || c == ' ') t1
  let (noNegativeZero, t3) := readChar (· == 'z') t2
  let (alternate, t4) := readChar (· == '#') t3
  let (zero, t5) := if fill.isNone then readChar (· == '0') t4 else (none, t4)
  match readNumber t5 with
  | .error fault => .error fault
  | .ok (width, t6) =>
    match readSeparator t6 with
    | .error fault => .error fault
    | .ok (separator, t7) =>
      match readPrecision t7 with
      | .error fault => .error fault
      | .ok (precision, t8) =>
        match t8 with
        | _ :: _ :: _ =>
          .error (.unusable ("Invalid format specifier '".toList ++ t
            ++ "' for object of type '".toList ++ what ++ ['\'']))
        | last =>
          let given := last.head?.getD type
          let inside := zero.isSome && aligned.isNone && alignment == .right
          match separator with
          | some s =>
            if separatorFits s given then
              .ok ⟨fill.getD (if zero.isSome then '0' else ' '),
                if inside then .inside else aligned.getD alignment, sign, noNegativeZero.isSome,
                alternate.isSome, width, separator, precision, given⟩
            else
              .error (.unusable ("Cannot specify '".toList ++ s :: "' with '".toList
                ++ showCode 128 given ++ "'.".toList))
          | none =>
            .ok ⟨fill.getD (if zero.isSome then '0' else ' '),
              if inside then .inside else aligned.getD alignment, sign, noNegativeZero.isSome,
              alternate.isSome, width, none, precision, given⟩

/-- The fault of a type that values of a kind do not have. -/
def unknownType {α : Type} (what : Text) (type : Char) : Except FormatFault α :=
  .error (.unusable ("Unknown format code '".toList ++ showCode 128 type
    ++ "' for object of type '".toList ++ what ++ ['\'']))

end Layout

end ErDiagram

import ErDiagram.Text.Basic

set_option autoImplicit false

/-!
# What plain scalars are spelled like

A plain scalar says by its spelling what sort of value it is.  Integers may have a base sign, an octal
one a leading zero; digits may be set apart by underscores; parts of sixty are joined by colons.  A
moment is a day with a time on it, and may say how far its clock is ahead of universal time.  What is
spelled like nothing else is a text.

A line break at the end of a scalar does not count here.
-/

namespace ErDiagram.Yaml

/-- The sorts of values that a document can ask for. -/
inductive NodeSort where
  | null
  | flag
  | whole
  | real
  | text
  | bytes
  | moment
  | list
  | mapping
  | set
  /-- a row of pairs -/
  | pairs
  /-- the sign of entries to be merged into a mapping -/
  | merge
  /-- the sign of the entry that stands for its mapping -/
  | self
  /-- a sort that no value has -/
  | foreign
  deriving DecidableEq, Repr, Inhabited

/-- Values of this sort are made of others, and are no keys. -/
def NodeSort.isComposed : NodeSort → Bool
  | list => true
  | mapping => true
  | set => true
  | pairs => true
  | _ => false

/-! ## Numbers -/

/-- The text without its sign, if it has one. -/
def unsigned : Text → Text
  | '-' :: t => t
  | '+' :: t => t
  | t => t

/-- Characters of a class and underscores, but not nothing. -/
def isRunOf (p : Char → Bool) (t : Text) : Bool := !t.isEmpty && t.all fun c => c == '_' || p c

/-- Digits and underscores with a digit in front. -/
def isDecimalRun (t : Text) : Bool := t.head?.any Char.isDigit && isRunOf Char.isDigit t

/-- The pieces between the occurrences of a character. -/
def splitAt (separator : Char) : Text → List Text
  | [] => [[]]
  | c :: cs =>
    match splitAt separator cs with
    | [] => [[c]]
    | piece :: rest => if c == separator then [] :: piece :: rest else (c :: piece) :: rest

/-- One digit, or two of which the first is below six. -/
def isSixtieth : Text → Bool
  | [a] => a.isDigit
  | [a, b] => '0' ≤ a && a ≤ '5' && b.isDigit
  | _ => false

/-- A run of digits and parts of sixty behind it, which may be required. -/
def isPartedRun (partsRequired : Bool) (t : Text) : Bool :=
  match splitAt ':' t with
  | [] => false
  | head :: parts => isDecimalRun head && parts.all isSixtieth && !(partsRequired && parts.isEmpty)

/-- A hexadecimal digit. -/
def isHexDigit (c : Char) : Bool := c.isDigit || ('a' ≤ c && c ≤ 'f') || ('A' ≤ c && c ≤ 'F')

/-- A text without a sign is spelled like an integer. -/
def isNatural : Text → Bool
  | ['0'] => true
  | '0' :: 'b' :: digits => isRunOf (fun c => c == '0' || c == '1') digits
  | '0' :: 'x' :: digits => isRunOf isHexDigit digits
  | '0' :: digits => isRunOf (fun c => '0' ≤ c && c ≤ '7') digits
  | t => isPartedRun false t

/-- Digits and underscores, possibly none, and possibly an exponent that has a sign. -/
def isFraction (t : Text) : Bool :=
  match t.dropWhile fun c => c == '_' || c.isDigit with
  | [] => true
  | e :: sign :: digits =>
    (e == 'e' || e == 'E') && (sign == '+' || sign == '-') && !digits.isEmpty && digits.all Char.isDigit
  | _ => false

/-- A text without a sign is spelled like a number with a point; `hasSign` says that a sign came before
it. -/
def isReal (hasSign : Bool) (t : Text) : Bool :=
  let whole := t.takeWhile fun c => c != '.'
  match t.dropWhile fun c => c != '.' with
  | [] => false
  | _ :: fraction =>
    if whole.isEmpty then
      ["inf", "Inf", "INF"].any (fun w => w.toList == fraction)
        || (!hasSign && ["nan", "NaN", "NAN"].any fun w => w.toList == fraction)
        || (!hasSign && fraction.head?.any Char.isDigit && isFraction fraction)
    else
      (isDecimalRun whole && isFraction fraction)
        || (isPartedRun true whole && fraction.all fun c => c == '_' || c.isDigit)

/-! ## Moments -/

/-- How a moment is spelled: the digits of its parts. -/
structure MomentSpelling where
  year : Text
  month : Text
  day : Text
  /-- the digits of the hour, the minute, the second, and those behind a point -/
  time : Option (Text × Text × Text × Text) := none
  /-- whether the clock is behind universal time, and by how many hours and minutes -/
  zone : Option (Bool × Text × Text) := none
  deriving DecidableEq, Repr, Inhabited

/-- The digits in front of a text, at least and at most so many of them, and what follows them. -/
def takeDigits? (least most : Nat) (t : Text) : Option (Text × Text) :=
  let digits := (t.take most).takeWhile Char.isDigit
  if digits.length < least then none else some (digits, t.drop digits.length)

/-- What follows a character. -/
def behind? (c : Char) : Text → Option Text
  | [] => none
  | x :: rest => if x == c then some rest else none

/-- The text without spaces and tabs in front. -/
def dropBlanks (t : Text) : Text := t.dropWhile fun c => c == ' ' || c == '\t'

/-- How far the clock of a moment is from universal time, at the end of its spelling. -/
def readZone? (t : Text) : Option (Option (Bool × Text × Text)) :=
  if t.isEmpty then some none
  else
    match dropBlanks t with
    | ['Z'] => some (some (false, [], []))
    | sign :: rest =>
      if sign != '-' && sign != '+' then none
      else do
        let (hours, rest) ← takeDigits? 1 2 rest
        if rest.isEmpty then pure (some (sign == '-', hours, []))
        else
          let (minutes, rest) ← (behind? ':' rest).bind (takeDigits? 2 2)
          if rest.isEmpty then pure (some (sign == '-', hours, minutes)) else none
    | [] => none

/-- The time of a moment, at the end of its spelling. -/
def readTime? (t : Text) : Option ((Text × Text × Text × Text) × Option (Bool × Text × Text)) := do
  let (hour, rest) ← takeDigits? 1 2 t
  let (minute, rest) ← (behind? ':' rest).bind (takeDigits? 2 2)
  let (second, rest) ← (behind? ':' rest).bind (takeDigits? 2 2)
  let (fraction, rest) := ((behind? '.' rest).bind (takeDigits? 0 rest.length)).getD ([], rest)
  let zone ← readZone? rest
  pure ((hour, minute, second, fraction), zone)

/-- What stands between a day and a time is left out. -/
def behindDay? (t : Text) : Option Text :=
  match t with
  | c :: rest =>
    if c == 'T' || c == 't' then some rest
    else if c == ' ' || c == '\t' then some (dropBlanks rest)
    else none
  | [] => none

/-- Reads the spelling of a moment. -/
def readMoment? (t : Text) : Option MomentSpelling := do
  let (year, rest) ← takeDigits? 4 4 t
  let (month, rest) ← (behind? '-' rest).bind (takeDigits? 1 2)
  let (day, rest) ← (behind? '-' rest).bind (takeDigits? 1 2)
  if rest.isEmpty then pure { year := year, month := month, day := day }
  else
    let (time, zone) ← (behindDay? rest).bind readTime?
    pure { year := year, month := month, day := day, time := some time, zone := zone }

/-- A plain scalar of this spelling is a moment: without a time, month and day have two digits. -/
def MomentSpelling.isPlain (m : MomentSpelling) : Bool :=
  m.time.isSome || (m.month.length == 2 && m.day.length == 2)

/-! ## Sorts -/

/-- The spellings of flags, of nothing, and of signs. -/
def sortWords : List (NodeSort × List String) :=
  [(.flag, ["yes", "Yes", "YES", "no", "No", "NO", "true", "True", "TRUE", "false", "False", "FALSE",
      "on", "On", "ON", "off", "Off", "OFF"]),
    (.null, ["~", "null", "Null", "NULL"]), (.merge, ["<<"]), (.self, ["="]), (.foreign, ["!", "&", "*"])]

/-- The text without a line break at its end. -/
def withoutLastBreak (t : Text) : Text := if Text.endsWith t '\n' then t.dropLast else t

/-- The sort that a plain scalar is spelled like. -/
def sortOfPlain (scalar : Text) : NodeSort :=
  let t := withoutLastBreak scalar
  if t.isEmpty then (if scalar.isEmpty then .null else .text)
  else
    match sortWords.find? fun e => e.2.any fun w => w.toList == t with
    | some e => e.1
    | none =>
      let digits := unsigned t
      if isReal (digits.length != t.length) digits then .real
      else if isNatural digits then .whole
      else if (readMoment? t).any MomentSpelling.isPlain then .moment
      else .text

end ErDiagram.Yaml

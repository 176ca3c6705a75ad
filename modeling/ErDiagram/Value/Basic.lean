import ErDiagram.Collection
import ErDiagram.Number.Binary64
import ErDiagram.Value.Moment

set_option autoImplicit false

/-!
# Values of configuration documents

A document that configures the program is a value: nothing, a flag, a number, a text, bytes, a day, a
moment, a list, or a mapping that keeps the order of its keys.  Sets and rows of pairs occur too, but
nothing in the program wants them.
-/

namespace ErDiagram

namespace Bytes

/-! ## Bytes

Bytes are numbers below 256.  A document writes them as text, three bytes in four letters of six bits
each; what is no such letter does not count, and the last letters are filled up with equals signs. -/

/-- The six bits of a letter. -/
def sextet? (c : Char) : Option Nat :=
  let n := c.toNat
  if c.isUpper then some (n - 65)
  else if c.isLower then some (n - 71)
  else if c.isDigit then some (n + 4)
  else if c == '+' then some 62
  else if c == '/' then some 63
  else none

/-- The bytes of a text from a letter on, `position` letters of the four at hand having been read and the
last of them having left `carry` behind; `pads` equals signs came since. -/
def ofLettersFrom : Nat → Nat → Nat → Text → Option (List Nat)
  | position, _, _, [] => if position = 0 then some [] else none
  | position, carry, pads, c :: rest =>
    if c == '=' then
      if position < 2 then ofLettersFrom position carry pads rest
      else if 4 ≤ position + pads + 1 then some []
      else ofLettersFrom position carry (pads + 1) rest
    else
      match sextet? c with
      | none => ofLettersFrom position carry pads rest
      | some bits =>
        match position with
        | 0 => ofLettersFrom 1 bits 0 rest
        | 1 => (ofLettersFrom 2 (bits % 16) 0 rest).map fun bs => (4 * carry + bits / 16) :: bs
        | 2 => (ofLettersFrom 3 (bits % 4) 0 rest).map fun bs => (16 * carry + bits / 4) :: bs
        | _ => (ofLettersFrom 0 0 0 rest).map fun bs => (64 * carry + bits) :: bs

/-- The bytes that a text writes, unless its last letters are not filled up. -/
def ofLetters (t : Text) : Option (List Nat) := ofLettersFrom 0 0 0 t

/-! ## Showing bytes -/

/-- A byte between quotes. -/
def quotedByte (quote : Char) (n : Nat) : Text :=
  let c := Char.ofNat n
  if c = quote || c = '\\' then ['\\', c]
  else if c = '\t' then ['\\', 't']
  else if c = '\n' then ['\\', 'n']
  else if c = '\r' then ['\\', 'r']
  else if 32 ≤ n && n < 127 then [c]
  else '\\' :: 'x' :: Text.padded 16 2 n

/-- Bytes as error texts show them: between single quotes, unless they hold a single quote and no double
one. -/
def display (bytes : List Nat) : Text :=
  let quote := if bytes.contains 39 && !bytes.contains 34 then '"' else '\''
  'b' :: quote :: bytes.flatMap (quotedByte quote) ++ [quote]

/-! ## The order of bytes -/

/-- Bytes are ordered byte by byte, a beginning before what it begins. -/
def before : List Nat → List Nat → Bool
  | _, [] => false
  | [], _ :: _ => true
  | a :: s, b :: t => if a < b then true else if b < a then false else before s t

end Bytes

/-! ## Values -/

/-- A value of a configuration document. -/
inductive Value where
  | null
  | flag (b : Bool)
  | whole (n : Int)
  | real (x : Binary64)
  | text (t : Text)
  | bytes (bs : List Nat)
  | day (d : Day)
  | moment (m : Moment)
  | list (items : List Value)
  | mapping (entries : List (Value × Value))
  /-- a row of pairs -/
  | pairs (entries : List (Value × Value))
  | set (items : List Value)
  /-- a list or a mapping that stands inside of itself -/
  | enclosing (isMapping : Bool)
  deriving Repr, Inhabited

namespace Value

/-- The word for the type of a value in error texts. -/
def typeWord : Value → Text
  | null => "NoneType".toList
  | flag _ => "bool".toList
  | whole _ => "int".toList
  | real _ => "float".toList
  | text _ => "str".toList
  | bytes _ => "bytes".toList
  | day _ => "datetime.date".toList
  | moment _ => "datetime.datetime".toList
  | list _ => "list".toList
  | mapping _ => "dict".toList
  | pairs _ => "list".toList
  | set _ => "set".toList
  | enclosing isMapping => if isMapping then "dict".toList else "list".toList

mutual

/-- A value as error texts show it. -/
def display : Value → Text
  | null => "None".toList
  | flag true => "True".toList
  | flag false => "False".toList
  | whole n => Text.ofInt n
  | real x => x.display
  | text t => Text.quoted t
  | bytes bs => Bytes.display bs
  | day d => d.display
  | moment m => m.display
  | list items => Text.bracketed (displayItems items)
  | mapping entries => '{' :: Text.join [',', ' '] (displayEntries entries) ++ ['}']
  | pairs entries => Text.bracketed (displayPairs entries)
  | set [] => "set()".toList
  | set (item :: rest) =>
    '{' :: Text.join [',', ' '] (display item :: displayItems rest) ++ ['}']
  | enclosing isMapping => if isMapping then "\x7b...\x7d".toList else "[...]".toList

/-- The items of a list, each as error texts show it. -/
def displayItems : List Value → List Text
  | [] => []
  | item :: rest => display item :: displayItems rest

/-- The entries of a mapping, each as error texts show it. -/
def displayEntries : List (Value × Value) → List Text
  | [] => []
  | (key, value) :: rest => (display key ++ ':' :: ' ' :: display value) :: displayEntries rest

/-- The pairs of a row, each as error texts show it. -/
def displayPairs : List (Value × Value) → List Text
  | [] => []
  | (first, second) :: rest =>
    ('(' :: display first ++ ',' :: ' ' :: display second ++ [')']) :: displayPairs rest

end

/-- A value as plain text: a text is itself. -/
def plain : Value → Text
  | text t => t
  | day d => d.plain
  | moment m => m.plain
  | v => v.display

mutual

/-- No number in a value has too many digits to be written. -/
def isWritable : Value → Bool
  | whole n => (Numeral.write? n).isSome
  | list items => areWritable items
  | set items => areWritable items
  | mapping entries => areEntriesWritable entries
  | pairs entries => areEntriesWritable entries
  | _ => true

/-- No number in one of several values has too many digits to be written. -/
def areWritable : List Value → Bool
  | [] => true
  | item :: rest => isWritable item && areWritable rest

/-- No number in an entry has too many digits to be written. -/
def areEntriesWritable : List (Value × Value) → Bool
  | [] => true
  | (key, value) :: rest => isWritable key && isWritable value && areEntriesWritable rest

end

/-! ## Keys -/

/-- The integer that a value is equal to.  A flag is equal to zero or one. -/
def integer? : Value → Option Int
  | flag b => some (if b then 1 else 0)
  | whole n => some n
  | real x => x.integer?
  | _ => none

/-- Two values are one key of a mapping.  Numbers are one key if they are equal; lists and mappings are no
keys. -/
def sameKey (a b : Value) : Bool :=
  match a.integer?, b.integer? with
  | some m, some n => m == n
  | none, none =>
    match a, b with
    | null, null => true
    | real x, real y => x == y
    | text s, text t => s == t
    | bytes s, bytes t => s == t
    | day d, day e => d == e
    | moment m, moment n => m.same n
    | _, _ => false
  | _, _ => false

/-- The value may be a key of a mapping. -/
def isKey : Value → Bool
  | list _ => false
  | mapping _ => false
  | pairs _ => false
  | set _ => false
  | enclosing _ => false
  | _ => true

/-- Puts a value under a key of a mapping: in its place if the key is there, at the end otherwise. -/
def put (key value : Value) : List (Value × Value) → List (Value × Value)
  | [] => [(key, value)]
  | (k, v) :: rest => if sameKey k key then (k, value) :: rest else (k, v) :: put key value rest

/-- The value under a text key of a mapping. -/
def lookup? (key : Text) (entries : List (Value × Value)) : Option Value :=
  (entries.find? fun e => sameKey e.1 (.text key)).map (·.2)

/-- The value under a text key, if the value is a mapping that has it. -/
def get? (v : Value) (key : Text) : Option Value :=
  match v with
  | mapping entries => lookup? key entries
  | _ => none

/-- The text of a value, if it is a text. -/
def text? : Value → Option Text
  | text t => some t
  | _ => none

/-- The texts of a mapping from texts to texts; other entries are left out. -/
def textTable : Value → List (Text × Text)
  | mapping entries => entries.filterMap fun e =>
    match e.1, e.2 with
    | .text key, .text t => some (key, t)
    | _, _ => none
  | _ => []

/-- The mapping of a table of texts. -/
def ofTextTable (table : List (Text × Text)) : Value :=
  mapping (table.map fun e => (text e.1, text e.2))

/-! ## The order of values

Numbers are ordered by what they are worth, texts and bytes by their characters, days and moments by
time.  Values of different sorts have no order, and asking for it is a fault. -/

/-- The value is a flag or a number. -/
def isNumber : Value → Bool
  | flag _ => true
  | whole _ => true
  | real _ => true
  | _ => false

/-- A finite number as a quotient by a power of two. -/
def quotient? : Value → Option (Int × Nat)
  | real x => x.quotient?
  | v => v.integer?.map fun n => (n, 0)

/-- The value is this infinity. -/
def isInfinity (negative : Bool) : Value → Bool
  | real x => x == Binary64.signed negative Binary64.infinityBits
  | _ => false

/-- One number comes before another.  What is no number comes before nothing and after nothing. -/
def numberBefore (a b : Value) : Bool :=
  match a.quotient?, b.quotient? with
  | some (m, i), some (n, j) => m * (Binary64.twoTo j : Nat) < n * (Binary64.twoTo i : Nat)
  | none, some _ => a.isInfinity true
  | some _, none => b.isInfinity false
  | none, none => a.isInfinity true && b.isInfinity false

/-- One value comes before another, or why they have no order. -/
def before (a b : Value) : Except Text Bool :=
  if a.isNumber && b.isNumber then .ok (numberBefore a b)
  else
    match a, b with
    | text s, text t => .ok (s != t && Text.le s t)
    | bytes s, bytes t => .ok (Bytes.before s t)
    | day d, day e => .ok (decide (d.number < e.number))
    | moment m, moment n =>
      if m.offset.isSome == n.offset.isSome then .ok (decide (m.instant < n.instant))
      else .error "can't compare offset-naive and offset-aware datetimes".toList
    | day _, moment _ => .error "can't compare datetime.datetime to datetime.date".toList
    | moment _, day _ => .error "can't compare datetime.datetime to datetime.date".toList
    | _, _ =>
      .error ("'<' not supported between instances of '".toList ++ a.typeWord ++ "' and '".toList
        ++ b.typeWord ++ ['\''])

end Value

end ErDiagram

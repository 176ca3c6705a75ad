import ErDiagram.Message.Property
import ErDiagram.Message.Template

set_option autoImplicit false

/-!
# Setting parameters into a template

A field names a parameter by its number; a field without a name takes the next one, but a template
counts either all of its fields or none.  Parameters have no names, so any other name is an error.
Behind the name a field may ask for properties and items.  The fields of a layout are set before the
layout is read, one level deep.
-/

namespace ErDiagram

/-- How the fields of a template are counted. -/
inductive Numbering where
  | undecided
  /-- fields have no numbers, and the next one takes this parameter -/
  | automatic (next : Nat)
  /-- fields have numbers -/
  | manual
  deriving DecidableEq, Repr, Inhabited

namespace Format

/-- A fault with a reason from a literal. -/
def refuse {α : Type} (reason : String) : Except FormatFault α := .error (.unusable reason.toList)

/-- The number that a name spells in decimal digits of any script; none if it is no number.  Digits that
lead to a number beyond the limit are refused, whatever follows them. -/
def readIndex (name : Text) : Except FormatFault (Option Nat) :=
  let digits := name.takeWhile Numeral.isDecimal
  let n := Numeral.value (Numeral.digitsOf digits)
  if Layout.numberLimit < n then refuse "Too many decimal digits in format string"
  else .ok (if name.isEmpty || digits.length != name.length then none else some n)

/-- The parameter that the first part of a name stands for, and how fields are counted after it. -/
def choose (params : List Param) (numbering : Numbering) (name : Text) :
    Except FormatFault (Param × Numbering) :=
  match readIndex name with
  | .error fault => .error fault
  | .ok index =>
    let lookup := fun (n : Nat) (after : Numbering) =>
      match params[n]? with
      | some p => Except.ok (p, after)
      | none =>
        .error (.unusable ("Replacement index ".toList ++ Text.ofNat n
          ++ " out of range for positional args tuple".toList))
    match index, numbering with
    | some _, .automatic _ =>
      refuse "cannot switch from automatic field numbering to manual field specification"
    | some n, _ => lookup n .manual
    | none, _ =>
      if !name.isEmpty then .error (.unusable (Text.quoted name))
      else
        match numbering with
        | .manual =>
          refuse "cannot switch from manual field specification to automatic field numbering"
        | .automatic n => lookup n (.automatic (n + 1))
        | .undecided => lookup 0 (.automatic 1)

/-- Follows what stands behind the first part of a name, in at most `fuel` steps. -/
def follow : Nat → Facet → Text → Except FormatFault Facet
  | 0, f, _ => .ok f
  | _, f, [] => .ok f
  | fuel + 1, f, '[' :: rest =>
    let key := rest.takeWhile (· != ']')
    match rest.dropWhile (· != ']') with
    | [] => refuse "Missing ']' in format string"
    | _ :: after =>
      match readIndex key with
      | .error fault => .error fault
      | .ok index =>
        if key.isEmpty then refuse "Empty attribute in format string"
        else
          match f.item index with
          | .error fault => .error fault
          | .ok item => follow fuel item after
  | fuel + 1, f, '.' :: rest =>
    let name := rest.takeWhile fun c => c != '.' && c != '['
    if name.isEmpty then refuse "Empty attribute in format string"
    else
      match f.property? name with
      | none => .error .noProperty
      | some found => follow fuel found (rest.drop name.length)
  | _ + 1, _, _ => refuse "Only '.' or '[' may follow ']' in format field specifier"

/-- What a name stands for. -/
def resolve (params : List Param) (numbering : Numbering) (name : Text) :
    Except FormatFault (Facet × Numbering) :=
  let first := name.takeWhile fun c => c != '.' && c != '['
  let rest := name.dropWhile fun c => c != '.' && c != '['
  match choose params numbering first with
  | .error fault => .error fault
  | .ok (p, after) => (follow rest.length (Facet.ofParam p) rest).map fun f => (f, after)

/-- Converts an answer: quoted, plain, or quoted in ASCII. -/
def convert (f : Facet) : Option Char → Except FormatFault Facet
  | none => .ok f
  | some 's' => .ok (.text f.plain)
  | some 'r' => .ok (.text f.display)
  | some 'a' =>
    match f with
    | .text t => .ok (.text (Text.quotedAscii t))
    | f => .ok (.text f.display)
  | some c =>
    .error (.unusable ("Unknown conversion specifier ".toList ++ Layout.showCode 127 c))

/-- Sets the pieces of a template one after the other; `expand` sets the fields of a layout. -/
def setPieces (expand : Numbering → Text → Except FormatFault (Text × Numbering))
    (params : List Param) : Numbering → List TemplatePiece → Except FormatFault (Text × Numbering)
  | numbering, [] => .ok ([], numbering)
  | numbering, .literal t :: rest =>
    (setPieces expand params numbering rest).map fun r => (t ++ r.1, r.2)
  | numbering, .field f :: rest =>
    match resolve params numbering f.name with
    | .error fault => .error fault
    | .ok (p, counted) =>
      match convert p f.conversion with
      | .error fault => .error fault
      | .ok value =>
        match if f.layout.contains '{' then expand counted f.layout else .ok (f.layout, counted) with
        | .error fault => .error fault
        | .ok (layout, expanded) =>
          match value.set layout with
          | .error fault => .error fault
          | .ok t => (setPieces expand params expanded rest).map fun r => (t ++ r.1, r.2)

/-- Sets parameters into a template whose layouts are nested at most `depth` levels deep. -/
def setAt (params : List Param) : Nat → Numbering → Text → Except FormatFault (Text × Numbering)
  | 0, _, _ => refuse "Max string recursion exceeded"
  | depth + 1, numbering, t =>
    let template := Template.read t
    match setPieces (setAt params depth) params numbering template.pieces with
    | .error fault => .error fault
    | .ok result =>
      match template.fault with
      | some fault => .error (.unusable fault.message)
      | none => .ok result

/-- Sets parameters into a template. -/
def set (template : Text) (params : List Param) : Except FormatFault Text :=
  (setAt params 2 .undecided template).map (·.1)

end Format

end ErDiagram

import ErDiagram.Value.Basic

set_option autoImplicit false

/-!
# Checking values

A check says what a value should be and lists everything that is wrong with it, each violation with
the path to the place.  Violations are reported in the order of their paths; under one path they
keep the order of the checks.
-/

namespace ErDiagram

/-- Something that is wrong with a value, and the keys that lead to it. -/
structure Violation where
  path : List Text
  message : Text
  /-- no number in it has too many digits to be written -/
  isWritable : Bool := true
  deriving DecidableEq, Repr, Inhabited

/-- What is wrong with a value, which is shown in front of it. -/
def Violation.about (path : List Text) (v : Value) (what : Text) : Violation :=
  { path := path, message := v.display ++ what, isWritable := v.isWritable }

/-- Lists what is wrong with the value at the end of a path. -/
abbrev Check : Type := List Text → Value → List Violation

namespace Check

/-- Several checks, one after the other. -/
def all (checks : List Check) : Check := fun path v => checks.flatMap fun check => check path v

/-- The value is a text. -/
def isText : Check := fun path v =>
  match v with
  | .text _ => []
  | _ => [.about path v " is not of type 'string'".toList]

/-- The value is a mapping. -/
def isMapping : Check := fun path v =>
  match v with
  | .mapping _ => []
  | _ => [.about path v " is not of type 'object'".toList]

/-- The value is one of some texts. -/
def oneOf (allowed : List Text) : Check := fun path v =>
  if v.text?.any allowed.contains then []
  else [.about path v (" is not one of ".toList ++ Text.bracketed (allowed.map Text.quoted))]

/-- The value is no empty text. -/
def isNonEmpty : Check := fun path v =>
  match v with
  | .text [] => [.about path v " should be non-empty".toList]
  | _ => []

/-- A mapping has these keys. -/
def required (keys : List Text) : Check := fun path v =>
  match v with
  | .mapping entries =>
    (keys.filter fun key => (Value.lookup? key entries).isNone).map fun key =>
      .about path (.text key) " is a required property".toList
  | _ => []

/-- The key is a text and one of some. -/
def isKnown (known : List Text) (key : Value) : Bool := key.text?.any known.contains

/-- A mapping has no other keys than these. -/
def onlyKeys (known : List Text) : Check := fun path v =>
  match v with
  | .mapping entries =>
    let extra := (entries.map (·.1)).filter fun key => !isKnown known key
    let shown := (sortBy (fun a b => Text.le a.plain b.plain) extra).map Value.display
    if extra.isEmpty then []
    else
      [{ path := path
         message := "Additional properties are not allowed (".toList ++ Text.join [',', ' '] shown
          ++ (if extra.length = 1 then " was".toList else " were".toList) ++ " unexpected)".toList
         isWritable := extra.all Value.isWritable }]
  | _ => []

/-- The values under some keys of a mapping pass a check, where they are given. -/
def properties (checks : List (Text × Check)) : Check := fun path v =>
  checks.flatMap fun c =>
    match v.get? c.1 with
    | some value => c.2 (path ++ [c.1]) value
    | none => []

/-- The part of a path that a key is; nothing is no part of a path. -/
def pathPart : Value → List Text
  | .null => []
  | key => [key.plain]

/-- The values under all keys of a mapping pass a check. -/
def everyValue (check : Check) : Check := fun path v =>
  match v with
  | .mapping entries => entries.flatMap fun e =>
    (check (path ++ pathPart e.1) e.2).map fun found =>
      { found with isWritable := found.isWritable && e.1.isWritable }
  | _ => []

end Check

namespace Violation

/-- Paths are ordered key by key. -/
def pathLe : List Text → List Text → Bool
  | [], _ => true
  | _ :: _, [] => false
  | a :: p, b :: q => if a = b then pathLe p q else Text.le a b

/-- A path as reports show it. -/
def showPath (path : List Text) : Text := '$' :: path.flatMap fun key => '/' :: key

/-- A violation as an entry of a report. -/
def entry (v : Violation) : Text := '-' :: ' ' :: showPath v.path ++ ':' :: ' ' :: v.message

/-- Everything that a check finds wrong with a document, in the order of reports, unless one of them cannot
be written. -/
def find? (check : Check) (v : Value) : Option (List Violation) :=
  let found := check [] v
  if found.all isWritable then some (sortBy (fun a b => pathLe a.path b.path) found) else none

end Violation

end ErDiagram

import ErDiagram.Collection
import ErDiagram.Diagram.OptionName

set_option autoImplicit false

/-!
# Option maps

An option map holds one value for each name of a fixed set, in the order of the set.  A value is
laid over another only if its type is exactly the declared one, and only under a name of the map.
-/

namespace ErDiagram

/-- What is offered for an option: a value, or something of a type that no option holds. -/
inductive Offer where
  | value (v : OptionValue)
  | foreign (type : ValueType)
  deriving DecidableEq, Repr, Inhabited

/-- The type of what is offered. -/
def Offer.type : Offer → ValueType
  | .value v => v.type
  | .foreign t => t

/-- How an option map is misused. -/
inductive OptionFault where
  /-- a value is offered for a name that is not in the map -/
  | unknownName (name : OptionName)
  /-- something of a wrong type is offered for a name of the map -/
  | wrongType (name : OptionName) (got : ValueType)
  deriving DecidableEq, Repr, Inhabited

/-- What is said about a misused option map. -/
def OptionFault.message : OptionFault → Text
  | .unknownName n => "option ".toList ++ n.constant ++ " is not part of this map".toList
  | .wrongType n got =>
    "option ".toList ++ n.constant ++ " expects ".toList ++ n.type.word ++ ", got ".toList ++ got.word

/-- The values of a set of options, in the order of the set. -/
structure OptionMap where
  entries : List (OptionName × OptionValue)
  deriving DecidableEq, Repr, Inhabited

namespace OptionMap

/-- The defaults of some names; a name given twice counts once. -/
def ofNames (names : List OptionName) : OptionMap :=
  ⟨Table.ofList (names.map fun n => (n, n.default))⟩

/-- The names of the map, in order. -/
def names (m : OptionMap) : List OptionName := m.entries.map (·.1)

/-- The number of names. -/
def size (m : OptionMap) : Nat := m.entries.length

/-- The value of a name, if the map has it. -/
def get? (m : OptionMap) (name : OptionName) : Option OptionValue := m.entries.lookup name

/-- Puts what is offered for a name into the map. -/
def accept (m : OptionMap) (name : OptionName) (offer : Offer) : Except OptionFault OptionMap :=
  if name ∈ m.names then
    match offer with
    | .value v =>
      if v.type = name.type then .ok ⟨Table.put name v m.entries⟩ else .error (.wrongType name v.type)
    | .foreign t => .error (.wrongType name t)
  else .error (.unknownName name)

/-- Puts offers into the map one after the other; the first fault ends it. -/
def acceptAll (m : OptionMap) : List (OptionName × Offer) → Except OptionFault OptionMap
  | [] => .ok m
  | (name, offer) :: rest =>
    match accept m name offer with
    | .error fault => .error fault
    | .ok m' => acceptAll m' rest

/-- The map of some names with some of its values given. -/
def build (names : List OptionName) (offers : List (OptionName × Offer)) :
    Except OptionFault OptionMap :=
  acceptAll (ofNames names) offers

/-- The present values with offers laid over them; offers for new names come last. -/
def overlaid (m : OptionMap) (offers : List (OptionName × Offer)) : List (OptionName × Offer) :=
  offers.foldl (fun entries offer => Table.put offer.1 offer.2 entries)
    (m.entries.map fun e => (e.1, Offer.value e.2))

/-- The map with offers laid over its values.  Faults show in the order of the map, an unknown name
after all of its own. -/
def updated (m : OptionMap) (offers : List (OptionName × Offer)) : Except OptionFault OptionMap :=
  build m.names (m.overlaid offers)

/-! ## Typed access -/

/-- The text of a name, or none if it has no text. -/
def text (m : OptionMap) (name : OptionName) : Text :=
  match m.get? name with
  | some (.text t) => t
  | _ => []

/-- The number of a name, or a default if it has no number. -/
def whole (m : OptionMap) (name : OptionName) (default : Int) : Int :=
  match m.get? name with
  | some (.whole n) => n
  | _ => default

/-- The flag of a name, false if it has none. -/
def flag (m : OptionMap) (name : OptionName) : Bool :=
  match m.get? name with
  | some (.flag b) => b
  | _ => false

/-- The color of a name, or no color. -/
def color (m : OptionMap) (name : OptionName) : Color :=
  match m.get? name with
  | some (.color c) => c
  | _ => .none

/-! ## Display -/

/-- An option value as it is shown in an option map. -/
def displayValue : OptionValue → Text
  | .text t => Text.quoted t
  | .whole n => Text.ofInt n
  | .flag true => "True".toList
  | .flag false => "False".toList
  | .color c =>
    "<ColorPair.".toList ++ c.name ++ ": (".toList ++ Text.quoted c.dark ++ ", ".toList
      ++ Text.quoted c.light ++ ")>".toList

/-- An option map as it is shown. -/
def display (m : OptionMap) : Text :=
  "OptionMap(".toList
    ++ Text.join ", ".toList (m.entries.map fun e => e.1.spelling ++ '=' :: displayValue e.2)
    ++ [')']

end OptionMap

end ErDiagram

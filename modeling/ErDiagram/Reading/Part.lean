import ErDiagram.Diagram.Cardinality
import ErDiagram.Notation.Field
import ErDiagram.Reading.Basic

set_option autoImplicit false

/-!
# Reading the parts of a line

Names, cardinalities, verb phrases and option lists.  Each reader takes the text of one part, without
its brackets, and passes over the blanks around it.  A name or a phrase may stand between double quotes.
-/

namespace ErDiagram

/-! ## Names of entities -/

/-- Reads the name of an entity. -/
def readEntityName (t : Text) : Except Cause Text :=
  let body := Text.strip t
  let name := Quoting.unquote body
  if name.isEmpty then .error (.blankEntityName body) else .ok name

/-! ## Names of attributes -/

/-- The name of an attribute and its key marks. -/
structure AttributeName where
  name : Text
  isPrimaryKey : Bool
  isForeignKey : Bool
  deriving DecidableEq, Repr, Inhabited

/-- The mark of a key: a primary one in front of a name, a foreign one behind it. -/
def keyMark : Char := '*'

/-- Reads the name of an attribute with its key marks. -/
def readAttributeName (t : Text) : Except Cause AttributeName :=
  let body := Text.strip t
  let isPrimary := body.startsWith keyMark
  let isForeign := body.endsWith keyMark
  let afterFront := if isPrimary then Text.strip body.tail else body
  let afterBack := if isForeign then Text.strip afterFront.dropLast else afterFront
  let name := Quoting.unquote afterBack
  if name.isEmpty then .error .blankAttrName else .ok ⟨name, isPrimary, isForeign⟩

/-! ## Cardinalities -/

/-- What a symbol says about one end of a relationship. -/
def readEnd : Char → Except Cause End
  | '-' => .ok ⟨.unspecified, .unspecified⟩
  | '?' => .ok ⟨.one, .optional⟩
  | '1' => .ok ⟨.one, .mandatory⟩
  | '*' => .ok ⟨.many, .optional⟩
  | '+' => .ok ⟨.many, .mandatory⟩
  | c => .error (.invalidCardinalityChar c)

/-- Reads a cardinality: two symbols with two dashes between them. -/
def readCardinality (t : Text) : Except Cause Cardinality :=
  match Text.strip t with
  | [] => .error .blankCardinality
  | [a, '-', '-', b] =>
    match readEnd a with
    | .error c => .error c
    | .ok first =>
      match readEnd b with
      | .error c => .error c
      | .ok second =>
        if (first.count == .unspecified) != (second.count == .unspecified) then
          .error (.oneSidedCardinality [a, '-', '-', b])
        else .ok ⟨first, second⟩
  | body => .error (.invalidCardinalityFormat body)

/-! ## Verb phrases -/

/-- The mark of the way a verb phrase reads: to the second entity behind it, to the first in front. -/
def directionMark : Char := '-'

/-- A phrase without its double quotes, read one way. -/
def namePhrase (direction : Direction) (t : Text) : Except Cause VerbPhrase :=
  let phrase := Quoting.unquote t
  if phrase.isEmpty then .error .blankVerbPhrase else .ok ⟨phrase, direction⟩

/-- Reads a verb phrase with its direction. -/
def readVerbPhrase (t : Text) : Except Cause VerbPhrase :=
  let body := Text.strip t
  match body.startsWith directionMark, body.endsWith directionMark with
  | true, true => .error (.invalidVerbDirection body)
  | false, true => namePhrase .firstToSecond (Text.strip body.dropLast)
  | true, false => namePhrase .secondToFirst (Text.strip body.tail)
  | false, false => namePhrase .unspecified body

/-! ## Option lists

An option list has options between semicolons, each a name and a value around a colon.  Names are
taken in capitals and come once.  Characters of the notation may stand in an option only between
double quotes. An option whose name means nothing where the list stands is recorded and passed over. -/

/-- The mark between options. -/
def optionSeparator : Char := ';'

/-- The mark between the name and the value of an option. -/
def optionAssignment : Char := ':'

/-- The characters that may not stand unquoted in an option. -/
def optionInvalidChars : List Char :=
  (Bracket.all.flatMap fun b => [b.left, b.right]) ++ [optionAssignment, optionSeparator]

/-- The raw value of an option: the text between double quotes, or one without characters of the
notation. -/
def readRawValue (t : Text) : Except Cause Text :=
  if Quoting.isQuoted t then .ok (Quoting.unquote t)
  else
    match Quoting.firstChar? t optionInvalidChars with
    | some c => .error (.invalidOptionChar c)
    | none => .ok t

/-- Reads one option as its name in capitals and its raw value. -/
def readOptionPair (pair : Text) : Except Cause (Text × Text) :=
  match Quoting.pieces pair optionAssignment with
  | [nameText, valueText] =>
    let name := Text.upper nameText
    if name.isEmpty then .error (.blankOptionName pair)
    else
      match Quoting.firstChar? name optionInvalidChars with
      | some c => .error (.invalidOptionChar c)
      | none => (readRawValue valueText).map fun value => (name, value)
  | _ :: _ :: _ => .error (.tooManyColons pair)
  | _ => .error (.colonNotFound pair)

/-- Reads options one after the other, behind `before`. -/
def readOptionPairs (before : List (Text × Text)) (index : Nat) :
    List Text → Except Cause (List (Text × Text))
  | [] => .ok before
  | pair :: rest =>
    if pair.isEmpty then .error (.blankOptionPair index)
    else
      match readOptionPair pair with
      | .error c => .error c
      | .ok (name, value) =>
        if (before.lookup name).isSome then .error (.duplicateOptionName name)
        else readOptionPairs (before ++ [(name, value)]) (index + 1) rest

/-- Reads an option list as the raw values of its names, in order. -/
def readOptionList (t : Text) : Except Cause (List (Text × Text)) :=
  readOptionPairs [] 0 (Quoting.pieces t optionSeparator)

/-! ## Raw values as options -/

/-- The names of a list, each once. -/
def distinctNames (names : List OptionName) : List OptionName := (OptionMap.ofNames names).names

/-- The keys of raw values that mean nothing to the allowed names. -/
def ignoredKeys (raw : List (Text × Text)) (allowed : List OptionName) : List Text :=
  (raw.map (·.1)).filter fun key => !(allowed.map OptionName.key).contains key

/-- The values of the allowed names, read as their types in the order of the names.  A blank number is
left out. -/
def readValues (raw : List (Text × Text)) :
    List OptionName → Except Cause (List (OptionName × OptionValue))
  | [] => .ok []
  | name :: rest =>
    match raw.lookup name.key with
    | none => readValues raw rest
    | some t =>
      match name.read t with
      | .error _ => .error (.invalidOptionValue name t)
      | .ok none => readValues raw rest
      | .ok (some value) => (readValues raw rest).map fun values => (name, value) :: values

/-- Lays values over an option map. -/
def layValues (base : OptionMap) (values : List (OptionName × OptionValue)) : Reading OptionMap :=
  match base.updated (values.map fun v => (v.1, Offer.value v.2)) with
  | .ok m => Reading.done m
  | .error fault => Reading.fail (.option fault)

/-- Records the keys that are passed over on a line. -/
def recordIgnored (line : Option Line) (keys : List Text) : Reading Unit :=
  match line, keys with
  | _, [] => Reading.done ()
  | none, _ => Reading.fail .lineMissing
  | some l, _ => Reading.record (keys.map fun key => .optionIgnored l.number key)

/-- Lays the raw values of allowed names over an option map. -/
def applyOptions (raw : List (Text × Text)) (allowed : List OptionName) (base : OptionMap)
    (line : Option Line) : Reading OptionMap := do
  recordIgnored line (ignoredKeys raw allowed)
  let values ← Reading.on line (readValues raw (distinctNames allowed))
  layValues base values

/-- Reads an option list as an option map of the allowed names. -/
def readOptions (t : Text) (allowed : List OptionName) (line : Option Line) : Reading OptionMap := do
  let raw ← Reading.on line (readOptionList t)
  applyOptions raw allowed (OptionMap.ofNames allowed) line

end ErDiagram

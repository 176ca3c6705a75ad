import ErDiagram.Message.Format
import ErDiagram.Notation.Line
import ErDiagram.Problem

set_option autoImplicit false

/-!
# Message catalogs

A catalog has the words for lines, types of lines and parts of lines, and a template for each kind
of error.  A word that is missing is replaced by its key.
-/

namespace ErDiagram

/-! ## Reports

A report is a worded error.  It shows the line that it is about, when there is one, and several
reports together make one message with an entry for each. -/

/-- An error in words. -/
structure Report where
  kind : ErrorKind
  description : Text
  params : List Param := []
  line : Option Line := none
  /-- the word for a line -/
  lineLabel : Text := "line".toList
  deriving DecidableEq, Repr, Inhabited

namespace Report

/-- The description, with the line below it. -/
def message (r : Report) : Text :=
  match r.line with
  | none => r.description
  | some line =>
    r.description ++ '\n' :: r.lineLabel ++ ' ' :: Text.ofInt line.number ++ ':' :: ' ' :: line.text

/-- A report as an entry of a longer message: further lines are indented. -/
def entry (r : Report) : Text :=
  Text.replaceChar '\n' ['\n', ' ', ' '] ('-' :: ' ' :: r.message)

/-- The message of several reports. -/
def summary (reports : List Report) : Text :=
  "Parsing failed with ".toList ++ Text.ofNat reports.length ++ " error(s):\n".toList
    ++ Text.join ['\n'] (reports.map entry)

end Report

/-! ## Catalogs -/

/-- The words of error reports. -/
structure Catalog where
  lineLabel : Text
  lineTypes : List (Text × Text)
  parts : List (Text × Text)
  errors : List (Text × Text)
  deriving DecidableEq, Repr, Inhabited

/-- An error cannot be worded because its template does not fit its parameters. -/
structure WordingFault where
  kind : ErrorKind
  fault : FormatFault
  deriving DecidableEq, Repr, Inhabited

/-- The wording of an unusable template's fault. -/
def WordingFault.message (kind : ErrorKind) (reason : Text) : Text :=
  "Message ".toList ++ Text.quoted kind.key ++ " cannot be formatted: ".toList ++ reason

namespace Catalog

/-- The words under a key, or the key. -/
def wordsOr (table : List (Text × Text)) (key : Text) : Text := (table.lookup key).getD key

/-- The words for a type of line. -/
def lineType (c : Catalog) (key : Text) : Text := wordsOr c.lineTypes key

/-- The words for a part of a line. -/
def part (c : Catalog) (key : Text) : Text := wordsOr c.parts key

/-- An error in words; a kind without a template is worded by its key. -/
def word (c : Catalog) (kind : ErrorKind) (params : List Param) : Except WordingFault Text :=
  match c.errors.lookup kind.key with
  | none => .ok kind.key
  | some template =>
    match Format.set template params with
    | .ok t => .ok t
    | .error fault => .error ⟨kind, fault⟩

end Catalog

/-- The parameters that a cause supplies, in the words of a catalog. -/
def Cause.params (c : Catalog) : Cause → List Param
  | .invalidBrackets part t => [.text (c.part part.key), .text t]
  | .textBefore part line t => [.text (c.part part.key), .text (c.lineType line.key), .text t]
  | .textBetween first second line t =>
    [.text (c.part first.key), .text (c.part second.key), .text (c.lineType line.key), .text t]
  | .textAfter part line t => [.text (c.part part.key), .text (c.lineType line.key), .text t]
  | .blankEntityName t => [.text t]
  | .invalidCardinalityFormat t => [.text t]
  | .invalidCardinalityChar s => [.text [s]]
  | .oneSidedCardinality t => [.text t]
  | .invalidVerbDirection t => [.text t]
  | .invalidOptionChar s => [.text [s]]
  | .invalidOptionValue name t => [.text name.spelling, .text t]
  | .blankOptionPair index => [.number index]
  | .blankOptionName pair => [.text pair]
  | .colonNotFound pair => [.text pair]
  | .tooManyColons pair => [.text pair]
  | .duplicateOptionName key => [.text key]
  | .duplicateEntityName name => [.text name]
  | .duplicateAttrName name => [.text name]
  | _ => []

/-- The report of a cause on a line. -/
def Catalog.report (c : Catalog) (cause : Cause) (line : Option Line) : Except WordingFault Report :=
  match c.word cause.kind (cause.params c) with
  | .ok description => .ok ⟨cause.kind, description, cause.params c, line, c.lineLabel⟩
  | .error fault => .error fault

/-! ## The English catalog

The words that reports use unless another catalog is chosen.  Its templates also say which
parameters the templates of other catalogs may use. -/

/-- A type of line in English. -/
def LineType.english : LineType → Text
  | .entity => "entity name line".toList
  | .attribute => "entity attribute line".toList
  | .relationship => "relationship line".toList

/-- A part of a line in English. -/
def Part.english : Part → Text
  | .entityName => "entity name".toList
  | .attrName => "attribute name".toList
  | .cardinality => "cardinality".toList
  | .firstEntityName => "first entity name".toList
  | .secondEntityName => "second entity name".toList
  | .verbPhrase => "verb phrase".toList
  | .optionList => "option list".toList

/-- The English template of a kind of error. -/
def ErrorKind.english : ErrorKind → Text
  | .invalidBrackets => "The \x7b0\x7d is not enclosed by the expected brackets: \x7b1\x7d".toList
  | .unknownLineType => "The type of this line cannot be determined.".toList
  | .entityNotOpened => "An entity attribute line appears before any entity name line.".toList
  | .relationshipLineCount => "A relationship must be defined by exactly one line.".toList
  | .textBefore => "Unexpected text before the \x7b0\x7d in the \x7b1\x7d: \x7b2\x7d".toList
  | .textBetween =>
    "Unexpected text between the \x7b0\x7d and the \x7b1\x7d in the \x7b2\x7d: \x7b3\x7d".toList
  | .textAfter => "Unexpected text after the \x7b0\x7d in the \x7b1\x7d: \x7b2\x7d".toList
  | .blankEntityName => "The entity name is blank: \x7b0\x7d".toList
  | .blankAttrName => "The attribute name is blank.".toList
  | .blankCardinality => "The cardinality is blank.".toList
  | .blankVerbPhrase => "The verb phrase is blank.".toList
  | .invalidCardinalityFormat => "The cardinality must look like 'X--Y': \x7b0\x7d".toList
  | .invalidCardinalityChar => "Unknown cardinality symbol: \x7b0\x7d".toList
  | .oneSidedCardinality =>
    "Cardinality must be given on both sides or on neither: \x7b0\x7d".toList
  | .invalidVerbDirection => "A verb phrase cannot point in both directions: \x7b0\x7d".toList
  | .invalidOptionChar => "Invalid character in option list: \x7b0\x7d".toList
  | .invalidOptionValue => "Invalid value for option \x7b0\x7d: \x7b1\x7d".toList
  | .blankOptionPair => "Option #\x7b0\x7d in the option list is blank.".toList
  | .blankOptionName => "The option name is blank: \x7b0\x7d".toList
  | .colonNotFound => "The option has no ':' between name and value: \x7b0\x7d".toList
  | .tooManyColons => "The option has more than one ':': \x7b0\x7d".toList
  | .duplicateOptionName => "The option is given more than once: \x7b0\x7d".toList
  | .duplicateEntityName => "The entity name is already defined: \x7b0\x7d".toList
  | .duplicateAttrName => "The attribute name is already defined in this entity: \x7b0\x7d".toList
  | .dependentEntities => "Both entities of a relationship cannot be dependent.".toList
  | .dependentParent =>
    "The parent (one) side of a one-to-many relationship cannot be dependent.".toList
  | .dependentManyToMany =>
    "Both entities of a many-to-many relationship must be independent.".toList

/-- The English catalog. -/
def Catalog.english : Catalog where
  lineLabel := "line".toList
  lineTypes := LineType.all.map fun t => (t.key, t.english)
  parts := Part.all.map fun p => (p.key, p.english)
  errors := ErrorKind.all.map fun k => (k.key, k.english)

end ErDiagram

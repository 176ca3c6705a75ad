import ErDiagram.Number.Numeral
import ErDiagram.Text.Case

set_option autoImplicit false

/-!
# Options

An option has a spelling, a type of values and a default.  The options of the whole diagram, of an
entity, of an attribute and of a relationship are four sets of names.  Raw text is read as the type
that the name declares.
-/

namespace ErDiagram

/-! ## Colors

An entity is drawn in a named pair of colors, a dark one for its lines and a light one for its
surface. -/

/-- A named pair of colors. -/
inductive Color where
  /-- no color at all -/
  | none
  | white
  | red
  | blue
  | green
  | yellow
  | orange
  deriving DecidableEq, Repr, Inhabited

namespace Color

/-- Every pair. -/
def all : List Color := [none, white, red, blue, green, yellow, orange]

/-- The name in capitals. -/
def name : Color → Text
  | none => "NONE".toList
  | white => "WHITE".toList
  | red => "RED".toList
  | blue => "BLUE".toList
  | green => "GREEN".toList
  | yellow => "YELLOW".toList
  | orange => "ORANGE".toList

/-- The color of lines. -/
def dark : Color → Text
  | none => []
  | white => "#000000".toList
  | red => "#c00000".toList
  | blue => "#000040".toList
  | green => "#002000".toList
  | yellow => "#606000".toList
  | orange => "#804000".toList

/-- The color of surfaces. -/
def light : Color → Text
  | none => []
  | white => "#ffffff".toList
  | red => "#fcecec".toList
  | blue => "#ececfc".toList
  | green => "#d0e0d0".toList
  | yellow => "#fbfbdb".toList
  | orange => "#eee0a0".toList

/-- The pair of a name in whatever case; the empty name means no color. -/
def ofName? (t : Text) : Option Color :=
  if t.isEmpty then some none else all.find? fun c => c.name == Text.upper t

end Color

/-! ## Names of options -/

/-- The type of a value.  The options use the first four; the others are what a value may be mistaken
for. -/
inductive ValueType where
  | text
  | whole
  | flag
  | color
  | real
  | list
  | mapping
  | nothing
  deriving DecidableEq, Repr, Inhabited

/-- The word for a type in error texts. -/
def ValueType.word : ValueType → Text
  | .text => "str".toList
  | .whole => "int".toList
  | .flag => "bool".toList
  | .color => "ColorPair".toList
  | .real => "float".toList
  | .list => "list".toList
  | .mapping => "dict".toList
  | .nothing => "NoneType".toList

/-- A value that an option can hold. -/
inductive OptionValue where
  | text (t : Text)
  | whole (n : Int)
  | flag (b : Bool)
  | color (c : Color)
  deriving DecidableEq, Repr, Inhabited

/-- The type of an option value. -/
def OptionValue.type : OptionValue → ValueType
  | .text _ => .text
  | .whole _ => .whole
  | .flag _ => .flag
  | .color _ => .color

/-- The name of an option. -/
inductive OptionName where
  | title
  | titleSize
  | linkFiles
  | color
  | mark
  | n1
  | n2
  | verbReverse
  deriving DecidableEq, Repr, Inhabited

namespace OptionName

/-- Every name. -/
def all : List OptionName := [title, titleSize, linkFiles, color, mark, n1, n2, verbReverse]

/-- The options of the whole diagram. -/
def ofDiagram : List OptionName := [title, titleSize, linkFiles]

/-- The options of an entity. -/
def ofEntity : List OptionName := [color, mark]

/-- The options of an attribute. -/
def ofAttribute : List OptionName := [mark]

/-- The options of a relationship. -/
def ofRelationship : List OptionName := [n1, n2, verbReverse]

/-- The spelling in documents. -/
def spelling : OptionName → Text
  | title => "title".toList
  | titleSize => "title-size".toList
  | linkFiles => "link-files".toList
  | color => "color".toList
  | mark => "mark".toList
  | n1 => "n1".toList
  | n2 => "n2".toList
  | verbReverse => "verb-reverse".toList

/-- The spelling in error texts about misused options. -/
def constant : OptionName → Text
  | title => "TITLE".toList
  | titleSize => "TITLE_SIZE".toList
  | linkFiles => "LINK_FILES".toList
  | color => "COLOR".toList
  | mark => "MARK".toList
  | n1 => "N1".toList
  | n2 => "N2".toList
  | verbReverse => "VERB_REVERSE".toList

/-- The declared type of the values. -/
def type : OptionName → ValueType
  | titleSize => .whole
  | color => .color
  | verbReverse => .flag
  | _ => .text

/-- The value of an option that nobody sets. -/
def default : OptionName → OptionValue
  | titleSize => .whole 12
  | color => .color .none
  | verbReverse => .flag false
  | _ => .text []

/-- The name of a spelling in whatever case, with or without blanks around it. -/
def ofSpelling? (t : Text) : Option OptionName :=
  let key := Text.lower (Text.strip t)
  all.find? fun n => n.spelling == key

/-- The spelling in capitals, under which an option list is searched for the name. -/
def key (n : OptionName) : Text := Text.upper n.spelling

end OptionName

/-! ## Reading values -/

/-- Why a text is no value of a type. -/
inductive ValueFault where
  | noFlag (t : Text)
  | noColor (t : Text)
  | noNumber (t : Text) (fault : Numeral.Fault)
  deriving DecidableEq, Repr, Inhabited

/-- What is said about a text that is no value of its type. -/
def ValueFault.message : ValueFault → Text
  | .noFlag t => "invalid boolean value: ".toList ++ t
  | .noColor t => "invalid color pair value: ".toList ++ t
  | .noNumber t fault => fault.message t

/-- Reads true or false in whatever case; the empty text means false. -/
def readFlag (t : Text) : Except ValueFault Bool :=
  if t.isEmpty then .ok false
  else if Text.lower t = "true".toList then .ok true
  else if Text.lower t = "false".toList then .ok false
  else .error (.noFlag t)

/-- Reads a whole number; the empty text gives none. -/
def readWhole (t : Text) : Except ValueFault (Option Int) :=
  if t.isEmpty then .ok none
  else
    match Numeral.read t with
    | .ok n => .ok (some n)
    | .error fault => .error (.noNumber t fault)

/-- Reads the name of a color pair. -/
def readColor (t : Text) : Except ValueFault Color :=
  match Color.ofName? t with
  | some c => .ok c
  | none => .error (.noColor t)

/-- Reads a raw text as a value of the declared type of an option.  An empty text gives no number, so
that the option keeps the value it has. -/
def OptionName.read (n : OptionName) (t : Text) : Except ValueFault (Option OptionValue) :=
  match n.type with
  | .whole => (readWhole t).map fun v => v.map .whole
  | .flag => (readFlag t).map fun b => some (.flag b)
  | .color => (readColor t).map fun c => some (.color c)
  | _ => .ok (some (.text t))

end ErDiagram

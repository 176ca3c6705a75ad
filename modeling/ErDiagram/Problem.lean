import ErDiagram.Diagram.OptionName

set_option autoImplicit false

/-!
# Errors and their causes

Every error that reading a document can report has a kind and a cause.  The words for it come from a
message catalog.
-/

namespace ErDiagram

/-! ## Kinds of errors

Every error that reading a document can report has a kind.  The key of a kind is the name under
which a message catalog words it, and kinds fall into four categories. -/

/-- What an error is about. -/
inductive ErrorCategory where
  /-- brackets -/
  | lexical
  /-- the parts of a line and of the document -/
  | structural
  /-- the text of one part -/
  | field
  /-- names and dependencies across parts -/
  | semantic
  deriving DecidableEq, Repr, Inhabited

/-- The word for a category. -/
def ErrorCategory.word : ErrorCategory → Text
  | .lexical => "lexical".toList
  | .structural => "structural".toList
  | .field => "field".toList
  | .semantic => "semantic".toList

/-- The kind of an error. -/
inductive ErrorKind where
  | invalidBrackets
  | unknownLineType
  | entityNotOpened
  | relationshipLineCount
  | textBefore
  | textBetween
  | textAfter
  | blankEntityName
  | blankAttrName
  | blankCardinality
  | blankVerbPhrase
  | invalidCardinalityFormat
  | invalidCardinalityChar
  | oneSidedCardinality
  | invalidVerbDirection
  | invalidOptionChar
  | invalidOptionValue
  | blankOptionPair
  | blankOptionName
  | colonNotFound
  | tooManyColons
  | duplicateOptionName
  | duplicateEntityName
  | duplicateAttrName
  | dependentEntities
  | dependentParent
  | dependentManyToMany
  deriving DecidableEq, Repr, Inhabited

namespace ErrorKind

/-- Every kind, in the order in which catalogs list them. -/
def all : List ErrorKind :=
  [invalidBrackets, unknownLineType, entityNotOpened, relationshipLineCount, textBefore, textBetween,
    textAfter, blankEntityName, blankAttrName, blankCardinality, blankVerbPhrase,
    invalidCardinalityFormat, invalidCardinalityChar, oneSidedCardinality, invalidVerbDirection,
    invalidOptionChar, invalidOptionValue, blankOptionPair, blankOptionName, colonNotFound,
    tooManyColons, duplicateOptionName, duplicateEntityName, duplicateAttrName, dependentEntities,
    dependentParent, dependentManyToMany]

/-- The key of a kind. -/
def key : ErrorKind → Text
  | invalidBrackets => "invalid_brackets".toList
  | unknownLineType => "unknown_line_type".toList
  | entityNotOpened => "entity_not_opened".toList
  | relationshipLineCount => "relationship_line_count".toList
  | textBefore => "text_before".toList
  | textBetween => "text_between".toList
  | textAfter => "text_after".toList
  | blankEntityName => "blank_entity_name".toList
  | blankAttrName => "blank_attr_name".toList
  | blankCardinality => "blank_cardinality".toList
  | blankVerbPhrase => "blank_verb_phrase".toList
  | invalidCardinalityFormat => "invalid_cardinality_format".toList
  | invalidCardinalityChar => "invalid_cardinality_char".toList
  | oneSidedCardinality => "one_sided_cardinality".toList
  | invalidVerbDirection => "invalid_verb_direction".toList
  | invalidOptionChar => "invalid_option_char".toList
  | invalidOptionValue => "invalid_option_value".toList
  | blankOptionPair => "blank_option_pair".toList
  | blankOptionName => "blank_option_name".toList
  | colonNotFound => "colon_not_found".toList
  | tooManyColons => "too_many_colons".toList
  | duplicateOptionName => "duplicate_option_name".toList
  | duplicateEntityName => "duplicate_entity_name".toList
  | duplicateAttrName => "duplicate_attr_name".toList
  | dependentEntities => "dependent_entities".toList
  | dependentParent => "dependent_parent".toList
  | dependentManyToMany => "dependent_many_to_many".toList

/-- The kind of a key. -/
def ofKey? (t : Text) : Option ErrorKind := all.find? fun k => k.key == t

/-- The category of a kind. -/
def category : ErrorKind → ErrorCategory
  | invalidBrackets => .lexical
  | unknownLineType | entityNotOpened | relationshipLineCount => .structural
  | textBefore | textBetween | textAfter => .structural
  | duplicateEntityName | duplicateAttrName => .semantic
  | dependentEntities | dependentParent | dependentManyToMany => .semantic
  | _ => .field

end ErrorKind

/-! ## Causes of errors

A cause says what is wrong, with what it is about, and in no language: the words for the parts of a
line and the sentence around them come from a message catalog. -/

/-- A part of a line, as error reports name it. -/
inductive Part where
  | entityName
  | attrName
  | cardinality
  | firstEntityName
  | secondEntityName
  | verbPhrase
  | optionList
  deriving DecidableEq, Repr, Inhabited

/-- Every part, in the order in which catalogs list them. -/
def Part.all : List Part :=
  [.entityName, .attrName, .cardinality, .firstEntityName, .secondEntityName, .verbPhrase, .optionList]

/-- The key under which a catalog has the words for a part. -/
def Part.key : Part → Text
  | .entityName => "entity_name".toList
  | .attrName => "attr_name".toList
  | .cardinality => "cardinality".toList
  | .firstEntityName => "entity_name_1".toList
  | .secondEntityName => "entity_name_2".toList
  | .verbPhrase => "verb_phrase".toList
  | .optionList => "option_list".toList

/-- A type of line, as error reports name it. -/
inductive LineType where
  | entity
  | attribute
  | relationship
  deriving DecidableEq, Repr, Inhabited

/-- Every type of line, in the order in which catalogs list them. -/
def LineType.all : List LineType := [.entity, .attribute, .relationship]

/-- The key under which a catalog has the words for a type of line. -/
def LineType.key : LineType → Text
  | .entity => "entity".toList
  | .attribute => "attribute".toList
  | .relationship => "relationship".toList

/-- What is wrong. -/
inductive Cause where
  /-- a part is not enclosed by its brackets -/
  | invalidBrackets (part : Part) (t : Text)
  /-- a line has no kind -/
  | unknownLineType
  /-- an attribute stands outside of every entity block -/
  | entityNotOpened
  /-- a relationship is not given by exactly one line -/
  | relationshipLineCount
  /-- there is text before the first part of a line -/
  | textBefore (part : Part) (line : LineType) (t : Text)
  /-- there is text between two parts of a line -/
  | textBetween (first second : Part) (line : LineType) (t : Text)
  /-- there is text after the last part of a line -/
  | textAfter (part : Part) (line : LineType) (t : Text)
  | blankEntityName (t : Text)
  | blankAttrName
  | blankCardinality
  | blankVerbPhrase
  /-- a cardinality does not look like one -/
  | invalidCardinalityFormat (t : Text)
  /-- a cardinality has a symbol that means nothing -/
  | invalidCardinalityChar (c : Char)
  /-- a cardinality says something about one end only -/
  | oneSidedCardinality (t : Text)
  /-- a verb phrase points both ways -/
  | invalidVerbDirection (t : Text)
  /-- a character of the notation stands unquoted in an option -/
  | invalidOptionChar (c : Char)
  /-- the value of an option is not of its type -/
  | invalidOptionValue (name : OptionName) (t : Text)
  /-- the option at this place of a list, counted from zero, is blank -/
  | blankOptionPair (index : Nat)
  | blankOptionName (pair : Text)
  | colonNotFound (pair : Text)
  | tooManyColons (pair : Text)
  | duplicateOptionName (key : Text)
  | duplicateEntityName (name : Text)
  | duplicateAttrName (name : Text)
  /-- both sides of a relationship are dependent -/
  | dependentEntities
  /-- the one side of a one-to-many relationship is dependent -/
  | dependentParent
  /-- a side of a many-to-many relationship is dependent -/
  | dependentManyToMany
  deriving DecidableEq, Repr, Inhabited

/-- The kind of error that a cause makes. -/
def Cause.kind : Cause → ErrorKind
  | .invalidBrackets _ _ => .invalidBrackets
  | .unknownLineType => .unknownLineType
  | .entityNotOpened => .entityNotOpened
  | .relationshipLineCount => .relationshipLineCount
  | .textBefore _ _ _ => .textBefore
  | .textBetween _ _ _ _ => .textBetween
  | .textAfter _ _ _ => .textAfter
  | .blankEntityName _ => .blankEntityName
  | .blankAttrName => .blankAttrName
  | .blankCardinality => .blankCardinality
  | .blankVerbPhrase => .blankVerbPhrase
  | .invalidCardinalityFormat _ => .invalidCardinalityFormat
  | .invalidCardinalityChar _ => .invalidCardinalityChar
  | .oneSidedCardinality _ => .oneSidedCardinality
  | .invalidVerbDirection _ => .invalidVerbDirection
  | .invalidOptionChar _ => .invalidOptionChar
  | .invalidOptionValue _ _ => .invalidOptionValue
  | .blankOptionPair _ => .blankOptionPair
  | .blankOptionName _ => .blankOptionName
  | .colonNotFound _ => .colonNotFound
  | .tooManyColons _ => .tooManyColons
  | .duplicateOptionName _ => .duplicateOptionName
  | .duplicateEntityName _ => .duplicateEntityName
  | .duplicateAttrName _ => .duplicateAttrName
  | .dependentEntities => .dependentEntities
  | .dependentParent => .dependentParent
  | .dependentManyToMany => .dependentManyToMany

end ErDiagram

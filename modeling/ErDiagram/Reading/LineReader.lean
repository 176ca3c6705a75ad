import ErDiagram.Notation.Line
import ErDiagram.Reading.Part

set_option autoImplicit false

/-!
# Reading lines

The readers of whole lines.  A line is cut into its parts, and then the parts and the gaps around
them are read from the left; the first thing that is wrong is the fault.
-/

namespace ErDiagram

/-! ## Parts of a line

A line is cut into parts before the parts are read.  The fields in front of, between and behind the
parts are gaps, which should be blank.  A part that a line may leave out takes no field if it is
missing, and what would stand behind it belongs to the last gap. -/

/-- The fields of a line without its comment. -/
def lineFields (t : Text) : List Text :=
  Field.cut (Quoting.removeComment (Text.strip t)) Bracket.all

/-- The fields in front of the first one that opens with a bracket of some kinds, that field, and the
fields behind it; none if there is no such field. -/
def splitAtGroup (kinds : List Bracket) : List Text → Option (List Text × Text × List Text)
  | [] => none
  | field :: rest =>
    if opensWith field kinds then some ([], field, rest)
    else (splitAtGroup kinds rest).map fun s => (field :: s.1, s.2)

/-- Fields in a row, without the blanks around them. -/
def joined (fields : List Text) : Text := Text.strip fields.flatten

/-- The parts of a line that names an entity. -/
structure EntityParts where
  gapBefore : Text := []
  entity : Text := []
  gapBetween : Text := []
  options : Text := []
  gapAfter : Text := []
  deriving DecidableEq, Repr, Inhabited

/-- The parts of an attribute line. -/
structure AttributeParts where
  name : Text := []
  options : Text := []
  gapAfter : Text := []
  deriving DecidableEq, Repr, Inhabited

/-- The parts of a relationship line. -/
structure RelationshipParts where
  gapBefore : Text := []
  entity1 : Text := []
  cardinality : Text := []
  entity2 : Text := []
  gapBeforeVerb : Text := []
  verbPhrase : Text := []
  gapBeforeOptions : Text := []
  options : Text := []
  gapAfter : Text := []
  deriving DecidableEq, Repr, Inhabited

/-- The parts of the fields of a line that names an entity. -/
def EntityParts.ofFields (fields : List Text) : EntityParts :=
  match splitAtGroup Bracket.entity fields with
  | none => { gapBefore := joined fields }
  | some (before, entity, rest) =>
    match splitAtGroup [.curly] rest with
    | none =>
      { gapBefore := joined before, entity := Text.strip entity, gapAfter := joined rest }
    | some (between, options, after) =>
      { gapBefore := joined before, entity := Text.strip entity, gapBetween := joined between,
        options := Text.strip options, gapAfter := joined after }

/-- Cuts a line that names an entity. -/
def EntityParts.ofText (t : Text) : EntityParts := ofFields (lineFields t)

/-- The parts of the fields of an attribute line. -/
def AttributeParts.ofFields (fields : List Text) : AttributeParts :=
  match splitAtGroup [.curly] fields with
  | none => { name := joined fields }
  | some (name, options, after) =>
    { name := joined name, options := Text.strip options, gapAfter := joined after }

/-- Cuts an attribute line. -/
def AttributeParts.ofText (t : Text) : AttributeParts := ofFields (lineFields t)

/-- The parts of a relationship line up to its second entity.  The cardinality is whatever stands between
the two entities. -/
def RelationshipParts.ofSides (before : List Text) (entity1 : Text) (cardinality : List Text)
    (entity2 : Text) : RelationshipParts :=
  { gapBefore := joined before, entity1 := Text.strip entity1,
    cardinality := joined cardinality, entity2 := Text.strip entity2 }

/-- The parts with a verb phrase, and with what stands in front of it. -/
def RelationshipParts.withVerb (parts : RelationshipParts) (between : List Text) (verb : Text) :
    RelationshipParts :=
  { parts with gapBeforeVerb := joined between, verbPhrase := Text.strip verb }

/-- Cuts what stands behind the verb phrase of a relationship, or behind its second entity if there is
no verb phrase. -/
def RelationshipParts.withTail (parts : RelationshipParts) (rest : List Text) : RelationshipParts :=
  match splitAtGroup [.curly] rest with
  | none => { parts with gapAfter := joined rest }
  | some (between, options, after) =>
    { parts with
      gapBeforeOptions := joined between, options := Text.strip options, gapAfter := joined after }

/-- The parts of the fields of a relationship line. -/
def RelationshipParts.ofFields (fields : List Text) : RelationshipParts :=
  match splitAtGroup Bracket.entity fields with
  | none => { gapBefore := joined fields }
  | some (before, entity1, rest1) =>
    match splitAtGroup Bracket.entity rest1 with
    | none =>
      { gapBefore := joined before, entity1 := Text.strip entity1, cardinality := joined rest1 }
    | some (cardinality, entity2, rest2) =>
      match splitAtGroup [.angle] rest2 with
      | none => (ofSides before entity1 cardinality entity2).withTail rest2
      | some (between, verb, rest3) =>
        ((ofSides before entity1 cardinality entity2).withVerb between verb).withTail rest3

/-- Cuts a relationship line. -/
def RelationshipParts.ofText (t : Text) : RelationshipParts := ofFields (lineFields t)

/-! ## What lines say -/

/-- What a line says that names an entity. -/
structure EntityLine where
  name : Text
  dependency : Dependency
  options : OptionMap
  deriving DecidableEq, Repr, Inhabited

/-- What an attribute line says. -/
structure AttributeLine where
  name : Text
  isPrimaryKey : Bool
  isForeignKey : Bool
  options : OptionMap
  deriving DecidableEq, Repr, Inhabited

/-- What a relationship line says. -/
structure RelationshipLine where
  entity1 : Text
  dependency1 : Dependency
  entity2 : Text
  dependency2 : Dependency
  cardinality : Cardinality
  verb : VerbPhrase
  options : OptionMap
  deriving DecidableEq, Repr, Inhabited

/-! ## Parts in brackets -/

/-- Refuses a gap that is not blank. -/
def refuseGap (gap : Text) (cause : Text → Cause) : Except Cause Unit :=
  if gap.isEmpty then .ok () else .error (cause gap)

/-- Reads an entity name in its brackets, whose kind tells the dependency. -/
def readEntityPart (t : Text) (part : Part) : Except Cause (Text × Dependency) :=
  if !isEnclosed t Bracket.entity then .error (.invalidBrackets part t)
  else
    match readEntityName (stripBrackets t Bracket.entity) with
    | .error c => .error c
    | .ok name => .ok (name, if isEnclosed t [.square] then .independent else .dependent)

/-- Reads a verb phrase in its brackets; a part that is left out means no phrase. -/
def readVerbPart (t : Text) : Except Cause VerbPhrase :=
  if t.isEmpty then .ok {}
  else if !isEnclosed t [.angle] then .error (.invalidBrackets .verbPhrase t)
  else readVerbPhrase (stripBrackets t [.angle])

/-- Reads an option list in its brackets; a part that is left out means no options. -/
def readOptionPart (t : Text) (allowed : List OptionName) (line : Line) : Reading OptionMap :=
  if t.isEmpty then Reading.done (OptionMap.ofNames allowed)
  else if !isEnclosed t [.curly] then
    Reading.fail (.cause (.invalidBrackets .optionList t) (some line))
  else readOptions (stripBrackets t [.curly]) allowed (some line)

/-! ## Lines -/

/-- Reads a line that names an entity. -/
def readEntityLine (line : Line) : Reading EntityLine := do
  let parts := EntityParts.ofText line.text
  let here {α : Type} (x : Except Cause α) : Reading α := Reading.on (some line) x
  here (refuseGap parts.gapBefore (.textBefore .entityName .entity))
  let (name, dependency) ← here (readEntityPart parts.entity .entityName)
  here (refuseGap parts.gapBetween (.textBetween .entityName .optionList .entity))
  let options ← readOptionPart parts.options OptionName.ofEntity line
  here (refuseGap parts.gapAfter (.textAfter .optionList .entity))
  pure ⟨name, dependency, options⟩

/-- Reads an attribute line. -/
def readAttributeLine (line : Line) : Reading AttributeLine := do
  let parts := AttributeParts.ofText line.text
  let here {α : Type} (x : Except Cause α) : Reading α := Reading.on (some line) x
  let named ← here (readAttributeName parts.name)
  let options ← readOptionPart parts.options OptionName.ofAttribute line
  here (refuseGap parts.gapAfter (.textAfter .optionList .attribute))
  pure ⟨named.name, named.isPrimaryKey, named.isForeignKey, options⟩

/-- What is wrong with the dependencies of two sides, given their counts. -/
def dependencyCause (c1 c2 : Count) (d1 d2 : Dependency) : Option Cause :=
  let dependent1 := d1 == .dependent
  let dependent2 := d2 == .dependent
  if dependent1 && dependent2 then some .dependentEntities
  else
    match c1, c2 with
    | .one, .many => if dependent1 then some .dependentParent else none
    | .many, .one => if dependent2 then some .dependentParent else none
    | .many, .many => if dependent1 || dependent2 then some .dependentManyToMany else none
    | _, _ => none

/-- Reads a relationship line. -/
def readRelationshipLine (line : Line) : Reading RelationshipLine := do
  let parts := RelationshipParts.ofText line.text
  let here {α : Type} (x : Except Cause α) : Reading α := Reading.on (some line) x
  here (refuseGap parts.gapBefore (.textBefore .firstEntityName .relationship))
  let (name1, dependency1) ← here (readEntityPart parts.entity1 .firstEntityName)
  let cardinality ← here (readCardinality parts.cardinality)
  let (name2, dependency2) ← here (readEntityPart parts.entity2 .secondEntityName)
  here (refuseGap parts.gapBeforeVerb (.textBetween .secondEntityName .verbPhrase .relationship))
  let verb ← here (readVerbPart parts.verbPhrase)
  here (refuseGap parts.gapBeforeOptions (.textBetween .verbPhrase .optionList .relationship))
  let options ← readOptionPart parts.options OptionName.ofRelationship line
  here (refuseGap parts.gapAfter (.textAfter .optionList .relationship))
  Reading.refuse (some line)
    (dependencyCause cardinality.first.count cardinality.second.count dependency1 dependency2)
  pure ⟨name1, dependency1, name2, dependency2, cardinality, verb, options⟩

end ErDiagram

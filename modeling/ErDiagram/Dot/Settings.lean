import ErDiagram.Diagram.OptionName
import ErDiagram.Dot.Notation
import ErDiagram.Value.Check

set_option autoImplicit false

/-!
# Settings of a drawing

What a drawing looks like apart from what it shows: its notation, the color of entities that have
none of their own, the font of every label and the direction in which it grows.
-/

namespace ErDiagram

/-- The settings of a drawing. -/
structure Settings where
  style : DotNotation := .ie
  color : Color := .white
  font : Text := []
  direction : RankDirection := .leftToRight
  deriving DecidableEq, Repr, Inhabited

/-- Settings in words, each of them if it is given. -/
structure SettingTexts where
  style : Option Text := none
  color : Option Text := none
  font : Option Text := none
  direction : Option Text := none
  deriving DecidableEq, Repr, Inhabited

/-- A word that names no setting. -/
inductive SettingFault where
  | unknownNotation (t : Text)
  | unknownColor (t : Text)
  | unknownDirection (t : Text)
  deriving DecidableEq, Repr, Inhabited

/-- What is said about a word that names no setting. -/
def SettingFault.message : SettingFault → Text
  | .unknownNotation t => "unknown notation: ".toList ++ t
  | .unknownColor t => (ValueFault.noColor t).message
  | .unknownDirection t => "unknown rank direction: ".toList ++ t

/-- The notation of a word. -/
def readNotation (t : Text) : Except SettingFault DotNotation :=
  match DotNotation.ofSpelling? t with
  | some n => .ok n
  | none => .error (.unknownNotation t)

/-- The color of a word. -/
def readSettingColor (t : Text) : Except SettingFault Color :=
  match Color.ofName? t with
  | some c => .ok c
  | none => .error (.unknownColor t)

/-- The direction of a word. -/
def readDirection (t : Text) : Except SettingFault RankDirection :=
  match RankDirection.ofSpelling? t with
  | some d => .ok d
  | none => .error (.unknownDirection t)

/-- A setting of a word, or the present one if no word is given. -/
def readOr {α : Type} (read : Text → Except SettingFault α) (present : α) :
    Option Text → Except SettingFault α
  | none => .ok present
  | some t => read t

/-- Settings with others laid over them; one wrong word, and none of them changes. -/
def Settings.override (s : Settings) (texts : SettingTexts) : Except SettingFault Settings := do
  let style ← readOr readNotation s.style texts.style
  let color ← readOr readSettingColor s.color texts.color
  let direction ← readOr readDirection s.direction texts.direction
  pure ⟨style, color, texts.font.getD s.font, direction⟩

/-! ## Settings documents

The settings of a drawing can be written as a document, in which each of them may be given as a
word.  An empty document gives none. -/

/-- Why a document gives no settings. -/
inductive SettingsFault where
  | noMapping
  | violations (vs : List Violation)
  /-- what is wrong with the document cannot be written -/
  | unwritable
  | word (fault : SettingFault)
  deriving DecidableEq, Repr, Inhabited

/-- What is said about a document that gives no settings. -/
def SettingsFault.message : SettingsFault → Text
  | .noMapping => "Top level YAML structure must be a mapping/object.".toList
  | .violations vs =>
    "Config validation failed:\n".toList ++ Text.join ['\n'] (vs.map Violation.entry)
  | .unwritable => Numeral.writeLimitMessage
  | .word fault => fault.message

/-- The notations that can be chosen by name. -/
def DotNotation.choices : List DotNotation := [.ie, .ieStrict, .idef1x]

/-- What a settings document should be. -/
def settingsCheck : Check :=
  .all
    [.isMapping,
      .onlyKeys ["notation".toList, "color".toList, "font".toList, "rankdir".toList],
      .properties
        [("notation".toList, .all [.isText, .oneOf (DotNotation.choices.map DotNotation.spelling)]),
          ("color".toList, .isText), ("font".toList, .isText),
          ("rankdir".toList, .all [.isText, .oneOf (RankDirection.all.map RankDirection.spelling)])]]

/-- The words of a settings document. -/
def SettingTexts.ofDocument (document : Value) : SettingTexts :=
  let word := fun (key : String) => (document.get? key.toList).bind Value.text?
  ⟨word "notation", word "color", word "font", word "rankdir"⟩

/-- Lays the settings of a document over others. -/
def Settings.withDocument (s : Settings) (document : Value) : Except SettingsFault Settings :=
  match document with
  | .null => .ok s
  | .mapping _ =>
    match Violation.find? settingsCheck document with
    | none => .error .unwritable
    | some (v :: vs) => .error (.violations (v :: vs))
    | some [] =>
      match s.override (SettingTexts.ofDocument document) with
      | .ok after => .ok after
      | .error fault => .error (.word fault)
  | _ => .error .noMapping

end ErDiagram

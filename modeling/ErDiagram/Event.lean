import ErDiagram.Diagram.Model
import ErDiagram.Dot.Notation
import ErDiagram.Text.Quoted

set_option autoImplicit false

/-!
# Events

Reading, inferring and rendering record what they come upon.  An event is a value of the domain; its
level, its source and its wording are functions of it.
-/

namespace ErDiagram

/-- Something worth a record. -/
inductive Event where
  /-- the lines of a document have been grouped into this many units of each kind -/
  | grouped (options entities relationships : Nat)
  /-- the line of this number has no kind -/
  | unclassified (line : Int)
  /-- so many lines of global options are wrong -/
  | optionsFailed (errors : Nat)
  /-- so many entity blocks are wrong -/
  | entitiesFailed (errors : Nat)
  /-- so many relationship lines are wrong -/
  | relationshipsFailed (errors : Nat)
  /-- an entity is added because a relationship mentions it -/
  | entityAdded (name : Text)
  /-- a diagram of this size has been built -/
  | built (entities relationships : Nat)
  /-- the line of this number gives an option that means nothing there -/
  | optionIgnored (line : Int) (key : Text)
  /-- an entity turns out to be dependent -/
  | inferredDependent (name : Text)
  /-- the sides of a relationship turn out to be dependent -/
  | judgedAgain (id : Text)
  /-- a diagram of this size has been written in a notation -/
  | rendered (entities relationships : Nat) (style : DotNotation)
  deriving DecidableEq, Repr, Inhabited

namespace Event

/-- The event calls for attention even where records are not asked for. -/
def isWarning : Event → Bool
  | optionIgnored _ _ => true
  | _ => false

/-- The level under which the event is recorded. -/
def level (e : Event) : Text := if e.isWarning then "WARNING".toList else "DEBUG".toList

/-- The name of the source under which the event is recorded. -/
def source : Event → Text
  | optionIgnored _ _ => "erdplain.fields".toList
  | inferredDependent _ => "erdplain.inference".toList
  | judgedAgain _ => "erdplain.inference".toList
  | rendered _ _ _ => "erdplain.render_dot".toList
  | _ => "erdplain.parser".toList

/-- The wording of the event. -/
def message : Event → Text
  | grouped o e r =>
    "grouped ".toList ++ Text.ofNat o ++ " option line(s), ".toList ++ Text.ofNat e
      ++ " entity block(s), ".toList ++ Text.ofNat r ++ " relationship(s)".toList
  | unclassified n => "line ".toList ++ Text.ofInt n ++ " cannot be classified".toList
  | optionsFailed n => "global options failed with ".toList ++ Text.ofNat n ++ " error(s)".toList
  | entitiesFailed n => "entities failed with ".toList ++ Text.ofNat n ++ " error(s)".toList
  | relationshipsFailed n =>
    "relationships failed with ".toList ++ Text.ofNat n ++ " error(s)".toList
  | entityAdded name =>
    "entity ".toList ++ Text.quoted name ++ " is only used in relationships, adding it".toList
  | built e r =>
    "built model with ".toList ++ Text.ofNat e ++ " entities and ".toList ++ Text.ofNat r
      ++ " relationships".toList
  | optionIgnored n key =>
    "line ".toList ++ Text.ofInt n ++ ": option ".toList ++ Text.quoted (Text.lower key)
      ++ " is not recognized here and is ignored".toList
  | inferredDependent name =>
    "entity ".toList ++ Text.quoted name ++ " is inferred to be dependent".toList
  | judgedAgain id =>
    "relationship ".toList ++ id ++ " is judged again with dependent entities".toList
  | rendered e r n =>
    "rendered ".toList ++ Text.ofNat e ++ " entities and ".toList ++ Text.ofNat r
      ++ " relationships as ".toList ++ n.spelling

/-- The event as one line of a record. -/
def line (e : Event) : Text := e.level ++ ' ' :: e.source ++ ':' :: ' ' :: e.message

end Event

end ErDiagram

import ErDiagram.Yaml.Lexer
import ErDiagram.Yaml.Plain

set_option autoImplicit false

/-!
# The parts of a document

A part of a document is a scalar, a list or a mapping, and has a sort that its tag names, or that its
spelling shows.  An alias stands for the part with an anchor of its name.  The readers take tokens off a
row; they take a bound on their steps, which is large enough if it exceeds the number of tokens by far,
and a bound on the depth of the parts, which is part of the notation.
-/

namespace ErDiagram.Yaml

/-- A part of a document. -/
inductive Node where
  | scalar (sort : NodeSort) (t : Text)
  | list (sort : NodeSort) (items : List Node)
  | mapping (sort : NodeSort) (entries : List (Node × Node))
  /-- the list or the mapping that the part stands in -/
  | enclosing (isMapping : Bool)
  deriving Repr, Inhabited

/-- What stands where a part is left out. -/
def Node.omitted : Node := .scalar .null []

/-! ## Tags -/

/-- What most tags begin with. -/
def tagBeginning : Text := "tag:yaml.org,2002:".toList

/-- The sorts by the ends of their tags. -/
def tagEnds : List (String × NodeSort) :=
  [("null", .null), ("bool", .flag), ("int", .whole), ("float", .real), ("str", .text),
    ("binary", .bytes), ("timestamp", .moment), ("seq", .list), ("map", .mapping), ("set", .set),
    ("omap", .pairs), ("pairs", .pairs), ("merge", .merge), ("value", .self)]

/-- The sort that a tag names. -/
def sortOfTag (tag : Text) : NodeSort :=
  ((tagEnds.find? fun e => tagBeginning ++ e.1.toList == tag).map (·.2)).getD .foreign

/-- A tag that names no sort: the part is what it would be if it were plain. -/
def isOpenTag (tag : Text) : Bool := tag == ['!']

/-- The sort of a scalar. -/
def sortOfScalar (tag : Option Text) (isPlain : Bool) (t : Text) : NodeSort :=
  match tag with
  | none => if isPlain then sortOfPlain t else .text
  | some tag => if isOpenTag tag then sortOfPlain t else sortOfTag tag

/-- The sort of a list or a mapping; without a tag it is what it is written as. -/
def sortOfRow (tag : Option Text) (written : NodeSort) : NodeSort :=
  match tag with
  | none => written
  | some tag => if isOpenTag tag then written else sortOfTag tag

/-- The handles that every document has. -/
def commonHandles : List (Text × Text) := [(['!'], ['!']), (['!', '!'], tagBeginning)]

/-! ## Taking tokens -/

/-- The tokens that are left, and the names that are known. -/
structure Feed where
  row : TokenRow
  anchors : List (Text × Node) := []
  handles : List (Text × Text) := commonHandles
  deriving Repr, Inhabited

/-- A reader of parts. -/
abbrev Composer := StateT Feed (Except Fault)

/-- The next token, which stays in the row; none at the end of the document. -/
def peek : Composer (Option Token) := fun f =>
  match f.row.tokens, f.row.fault with
  | t :: _, _ => .ok (some t, f)
  | [], none => .ok (none, f)
  | [], some fault => .error fault

/-- Takes the next token away. -/
def skip : Composer Unit := fun f => .ok ((), { f with row := { f.row with tokens := f.row.tokens.tail } })

/-- The document is malformed. -/
def refuse {α : Type} : Composer α := fun _ => .error .malformed

/-- Takes the next token away if it is this one, and says whether it was. -/
def skipIf (t : Token) : Composer Bool := do
  if (← peek) == some t then
    skip
    pure true
  else pure false

/-- Takes this token away, which has to come next. -/
def expect (t : Token) : Composer Unit := do
  if !(← skipIf t) then refuse

/-! ## Anchors and tags -/

/-- What may stand before a part. -/
structure Properties where
  anchor : Option Text := none
  tag : Option Text := none
  deriving DecidableEq, Repr, Inhabited

/-- The full text of a tag. -/
def fullTag (s : TagSpelling) : Composer Text := fun f =>
  match s.handle with
  | none => .ok (s.rest, f)
  | some handle =>
    match f.handles.lookup handle with
    | some beginning => .ok (beginning ++ s.rest, f)
    | none => .error .malformed

/-- The anchor that comes next, if one does. -/
def takeAnchor : Composer (Option Text) := do
  match ← peek with
  | some (.anchor name) => skip; pure (some name)
  | _ => pure none

/-- The tag that comes next, if one does. -/
def takeTag : Composer (Option Text) := do
  match ← peek with
  | some (.tag spelling) => skip; some <$> fullTag spelling
  | _ => pure none

/-- An anchor and a tag, in any order. -/
def takeProperties : Composer Properties := do
  match ← takeAnchor with
  | some name => pure ⟨some name, ← takeTag⟩
  | none =>
    match ← takeTag with
    | some tag => pure ⟨← takeAnchor, some tag⟩
    | none => pure {}

/-- Gives a part the name of its anchor. -/
def define (anchor : Option Text) (n : Node) : Composer Unit := fun f =>
  match anchor with
  | none => .ok ((), f)
  | some name => .ok ((), { f with anchors := (name, n) :: f.anchors })

/-- Refuses a name that is in use. -/
def checkAnchor (anchor : Option Text) : Composer Unit := fun f =>
  if anchor.any fun name => (f.anchors.lookup name).isSome then .error .malformed else .ok ((), f)

/-- The part that has a name. -/
def resolve (name : Text) : Composer Node := fun f =>
  match f.anchors.lookup name with
  | some n => .ok (n, f)
  | none => .error .malformed

/-- Reads a list or a mapping; while that is being read, its name stands for what is around. -/
def composeRow (anchor : Option Text) (isMapping : Bool) (read : Composer Node) : Composer Node := do
  define anchor (.enclosing isMapping)
  let n ← read
  define anchor n
  pure n

/-- A scalar, with its name. -/
def composeScalar (p : Properties) (isPlain : Bool) (t : Text) : Composer Node := do
  let n := Node.scalar (sortOfScalar p.tag isPlain t) t
  define p.anchor n
  pure n

/-- What stands where nothing but an anchor or a tag is written. -/
def composeOmitted (p : Properties) : Composer Node :=
  if p.anchor.isSome || p.tag.isSome then composeScalar p true [] else refuse

/-! ## Parts -/

/-- Where a part stands: in lines, where the items of a list may hang right below a key, or in
brackets. -/
inductive Surroundings where
  | lines
  | key
  | brackets
  deriving DecidableEq, Repr, Inhabited

/-- Where a pair stands. -/
inductive PairPlace where
  | lines
  | list
  | mapping
  deriving DecidableEq, Repr, Inhabited

namespace PairPlace

/-- What stands around the parts of a pair. -/
def around : PairPlace → Surroundings
  | lines => .key
  | _ => .brackets

/-- The value of a pair is left out before this token. -/
def omitsValue : PairPlace → Token → Bool
  | lines, t => t == .key || t == .value || t == .linesEnd
  | list, t => t == .comma || t == .closeList
  | mapping, t => t == .comma || t == .closeMapping

/-- The key of a pair is left out before this token. -/
def omitsKey (p : PairPlace) (t : Token) : Bool := t == .value || p.omitsValue t

end PairPlace

/-- An item of a list in lines is left out before this token. -/
def omitsItem (isHanging : Bool) (t : Token) : Bool :=
  t == .item || t == .linesEnd || (isHanging && (t == .key || t == .value))

mutual

/-- A part. -/
def composeNode : Nat → Nat → Surroundings → Composer Node
  | 0, _, _ => refuse
  | _ + 1, 0, _ => fun _ => .error .tooDeep
  | fuel + 1, room + 1, around => do
    match ← peek with
    | some (.alias name) => skip; resolve name
    | _ =>
      let p ← takeProperties
      checkAnchor p.anchor
      let next ← peek
      let inLines := around != .brackets
      if next == some .item && around == .key then
        composeRow p.anchor false (.list (sortOfRow p.tag .list) <$> composeItems fuel room true)
      else
        match next with
        | some (.scalar t isPlain) => skip; composeScalar p isPlain t
        | some .openList =>
          skip
          composeRow p.anchor false (.list (sortOfRow p.tag .list) <$> composeBracketItems fuel room true)
        | some .openMapping =>
          skip
          composeRow p.anchor true
            (.mapping (sortOfRow p.tag .mapping) <$> composeBracketEntries fuel room true)
        | some .linesList =>
          if inLines then
            skip
            composeRow p.anchor false (.list (sortOfRow p.tag .list) <$> composeItems fuel room false)
          else composeOmitted p
        | some .linesMapping =>
          if inLines then
            skip
            composeRow p.anchor true (.mapping (sortOfRow p.tag .mapping) <$> composeEntries fuel room)
          else composeOmitted p
        | _ => composeOmitted p

/-- A part that may be left out before some tokens. -/
def composeOptional : Nat → Nat → Surroundings → (Token → Bool) → Composer Node
  | 0, _, _, _ => refuse
  | fuel + 1, room, around, omits => do
    if (← peek).any omits then pure Node.omitted else composeNode fuel room around

/-- The items of a list in lines.  Those that hang below a key end before any other token. -/
def composeItems : Nat → Nat → Bool → Composer (List Node)
  | 0, _, _ => refuse
  | fuel + 1, room, isHanging => do
    if ← skipIf .item then
      let item ← composeOptional fuel room .lines (omitsItem isHanging)
      let others ← composeItems fuel room isHanging
      pure (item :: others)
    else if isHanging then pure []
    else
      expect .linesEnd
      pure []

/-- The value of a pair. -/
def composeValue : Nat → Nat → PairPlace → Composer Node
  | 0, _, _ => refuse
  | fuel + 1, room, place => do
    if ← skipIf .value then composeOptional fuel room place.around place.omitsValue
    else pure Node.omitted

/-- A pair behind the sign of its key. -/
def composePair : Nat → Nat → PairPlace → Composer (Node × Node)
  | 0, _, _ => refuse
  | fuel + 1, room, place => do
    let key ← composeOptional fuel room place.around place.omitsKey
    let value ← composeValue fuel room place
    pure (key, value)

/-- The entries of a mapping in lines. -/
def composeEntries : Nat → Nat → Composer (List (Node × Node))
  | 0, _ => refuse
  | fuel + 1, room => do
    if ← skipIf .key then
      let entry ← composePair fuel room .lines
      let others ← composeEntries fuel room
      pure (entry :: others)
    else
      expect .linesEnd
      pure []

/-- The items of a list in brackets.  A pair is a mapping of its own. -/
def composeBracketItems : Nat → Nat → Bool → Composer (List Node)
  | 0, _, _ => refuse
  | fuel + 1, room, isFirst => do
    if ← skipIf .closeList then pure []
    else
      if !isFirst then expect .comma
      if ← skipIf .key then
        let entry ← composePair fuel (room - 1) .list
        let others ← composeBracketItems fuel room false
        pure (.mapping .mapping [entry] :: others)
      else if ← skipIf .closeList then pure []
      else
        let item ← composeNode fuel room .brackets
        let others ← composeBracketItems fuel room false
        pure (item :: others)

/-- The entries of a mapping in brackets.  A key without a colon has no value. -/
def composeBracketEntries : Nat → Nat → Bool → Composer (List (Node × Node))
  | 0, _, _ => refuse
  | fuel + 1, room, isFirst => do
    if ← skipIf .closeMapping then pure []
    else
      if !isFirst then expect .comma
      if ← skipIf .key then
        let entry ← composePair fuel room .mapping
        let others ← composeBracketEntries fuel room false
        pure (entry :: others)
      else if ← skipIf .closeMapping then pure []
      else
        let key ← composeNode fuel room .brackets
        let others ← composeBracketEntries fuel room false
        pure ((key, Node.omitted) :: others)

end

end ErDiagram.Yaml

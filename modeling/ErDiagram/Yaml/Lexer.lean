import ErDiagram.Yaml.Tag

set_option autoImplicit false

/-!
# The tokens of a document

A document is read from token to token.  In lines, a token right of its surroundings may open a list or
a mapping there, and a token left of them closes what stands further to the right.  Whether a part of
the document is a key shows only at the colon behind it.  So the place of a part that may be a key is
kept, and if the colon comes, the signs of the key, and of the mapping that it opens, are put in before
the part.  A key stands on one line and has at most 1024 characters up to its colon.
-/

namespace ErDiagram.Yaml

/-- A part of a document that may be a key. -/
structure PossibleKey where
  /-- the number of tokens before the part -/
  number : Nat
  /-- nothing but a key may stand here -/
  isRequired : Bool
  place : Cursor
  deriving DecidableEq, Repr, Inhabited

/-- The longest key, up to its colon. -/
def keyLimit : Nat := 1024

/-- A colon at a place comes too late for the part to be a key. -/
def PossibleKey.isStale (k : PossibleKey) (c : Cursor) : Bool :=
  k.place.line != c.line || k.place.index + keyLimit < c.index

/-- What is known between two tokens. -/
structure Lexer where
  place : Cursor
  /-- The columns of the lists and mappings in lines that are open, the innermost one first. -/
  columns : List Nat := []
  /-- The next part may be a key. -/
  allowsKey : Bool := true
  /-- The part that may be a key of the innermost brackets, or of what stands in lines. -/
  key : Option PossibleKey := none
  /-- The same for what is around each open bracket, the innermost one first. -/
  outerKeys : List (Option PossibleKey) := []
  /-- The tokens, the last one first. -/
  tokens : List Token := []
  deriving DecidableEq, Repr, Inhabited

/-- The tokens of a document, as far as they can be read. -/
structure TokenRow where
  tokens : List Token
  /-- Why they end before the document does. -/
  fault : Option Fault := none
  deriving DecidableEq, Repr, Inhabited

namespace Lexer

/-- A bracket is open. -/
def inBrackets (l : Lexer) : Bool := !l.outerKeys.isEmpty

/-- The column of the innermost list or mapping in lines; outside of all it is left of the text. -/
def column (l : Lexer) : Int := l.columns.head?.elim (-1) Int.ofNat

/-- Adds a token after which the text goes on at a place. -/
def emit (t : Token) (behind : Cursor) (l : Lexer) : Lexer :=
  { l with place := behind, tokens := t :: l.tokens }

/-! ## Lists and mappings in lines -/

/-- Opens a list or a mapping in lines at a column, unless one is open there. -/
def openAt (column : Nat) (l : Lexer) : Bool := !l.inBrackets && decide (l.column < (column : Int))

/-- Opens a list or a mapping in lines at the place, unless one is open there. -/
def openLines (t : Token) (l : Lexer) : Lexer :=
  if l.openAt l.place.column then
    { l with columns := l.place.column :: l.columns, tokens := t :: l.tokens }
  else l

/-- Closes the lists and mappings in lines that are right of a column. -/
def closeLines (column : Int) (l : Lexer) : Lexer :=
  if l.inBrackets then l
  else
    let kept := l.columns.dropWhile fun n => decide (column < Int.ofNat n)
    { l with
      columns := kept
      tokens := List.replicate (l.columns.length - kept.length) .linesEnd ++ l.tokens }

/-! ## Keys -/

/-- Gives up the part that may be a key. -/
def dropKey (l : Lexer) : Except Fault Lexer :=
  if l.key.any PossibleKey.isRequired then .error .malformed else .ok { l with key := none }

/-- Gives up the parts that are too far away to be keys. -/
def dropStale (l : Lexer) : Except Fault Lexer :=
  let isStale := fun (k : PossibleKey) => k.isStale l.place
  if (l.key :: l.outerKeys).any fun k => k.any fun p => p.isRequired && isStale p then .error .malformed
  else
    let fresh := fun (k : Option PossibleKey) => k.filter fun p => !isStale p
    .ok { l with key := fresh l.key, outerKeys := l.outerKeys.map fresh }

/-- Keeps the part that opens at the place, if it may be a key. -/
def saveKey (l : Lexer) : Except Fault Lexer :=
  if l.allowsKey then
    l.dropKey.map fun l =>
      let isRequired := !l.inBrackets && l.column == (l.place.column : Int)
      { l with key := some ⟨l.tokens.length, isRequired, l.place⟩ }
  else .ok l

/-! ## Signs -/

/-- A marker of three characters. -/
def readMarker (t : Token) (l : Lexer) : Except Fault Lexer :=
  (l.closeLines (-1)).dropKey.map fun l =>
    { l with allowsKey := false }.emit t (l.place.advance 3)

/-- A line that starts with a percent sign. -/
def directiveLine (l : Lexer) : Except Fault Lexer :=
  (l.closeLines (-1)).dropKey.bind fun l =>
    (readDirective l.place).map fun r => { l with allowsKey := false }.emit (.directive r.1) r.2

/-- A bracket that opens. -/
def openBracket (t : Token) (l : Lexer) : Except Fault Lexer :=
  l.saveKey.map fun l =>
    { l with allowsKey := true, key := none, outerKeys := l.key :: l.outerKeys }.emit t l.place.next

/-- A bracket that closes. -/
def closeBracket (t : Token) (l : Lexer) : Except Fault Lexer :=
  l.dropKey.bind fun l =>
    match l.outerKeys with
    | [] => .error .malformed
    | k :: rest => .ok ({ l with allowsKey := false, key := k, outerKeys := rest }.emit t l.place.next)

/-- A comma. -/
def readComma (l : Lexer) : Except Fault Lexer :=
  l.dropKey.map fun l => { l with allowsKey := true }.emit .comma l.place.next

/-- The sign of an item or of a key; in lines it may open a list or a mapping. -/
def readSign (t opening : Token) (l : Lexer) : Except Fault Lexer :=
  if !l.inBrackets && !l.allowsKey then .error .malformed
  else
    (l.openLines opening).dropKey.map fun l =>
      { l with allowsKey := !l.inBrackets || t == Token.item }.emit t l.place.next

/-- The colon of a value.  If the part before it may be a key, it is one. -/
def readColon (l : Lexer) : Except Fault Lexer :=
  match l.key with
  | none => readSign .value .linesMapping l
  | some k =>
    let opens := l.openAt k.place.column
    let later := l.tokens.length - k.number
    let inserted := if opens then [Token.key, Token.linesMapping] else [Token.key]
    .ok ({ l with
      allowsKey := false
      key := none
      columns := if opens then k.place.column :: l.columns else l.columns
      tokens := l.tokens.take later ++ inserted ++ l.tokens.drop later }.emit .value l.place.next)

/-! ## Parts -/

/-- A part that may be a key, or a property of one. -/
def readPart (read : Cursor → Except Fault (Token × Cursor)) (l : Lexer) : Except Fault Lexer :=
  l.saveKey.bind fun l => (read l.place).map fun r => { l with allowsKey := false }.emit r.1 r.2

/-- A scalar in quotes. -/
def quotedToken (fuel : Nat) (isDouble : Bool) (c : Cursor) : Except Fault (Token × Cursor) :=
  (readQuoted isDouble fuel c.next).map fun p => (.scalar p.1 false, p.2)

/-- A block. -/
def blockToken (fuel : Nat) (isFolded : Bool) (l : Lexer) : Except Fault Lexer :=
  l.dropKey.bind fun l =>
    (readBlock isFolded l.column fuel l.place.next).map fun p =>
      { l with allowsKey := true }.emit (.scalar p.1 false) p.2

/-- A plain scalar. -/
def plainToken (fuel : Nat) (l : Lexer) : Except Fault Lexer :=
  l.readPart fun c =>
    let p := plainWords l.inBrackets (l.column + 1) fuel c
    .ok (.scalar p.1 true, p.2)

/-- A sign counts as one before this text: in brackets always, in lines if a blank follows. -/
def standsAlone (l : Lexer) (rest : Text) : Bool := l.inBrackets || blankNext rest

/-- The token at the place, which opens with a character. -/
def readToken (fuel : Nat) (x : Char) (rest : Text) (l : Lexer) : Except Fault Lexer :=
  if x == '%' && l.place.column == 0 then l.directiveLine
  else if l.place.seesMarker '-' then l.readMarker .documentStart
  else if l.place.seesMarker '.' then l.readMarker .documentEnd
  else if x == '[' then l.openBracket .openList
  else if x == '{' then l.openBracket .openMapping
  else if x == ']' then l.closeBracket .closeList
  else if x == '}' then l.closeBracket .closeMapping
  else if x == ',' then l.readComma
  else if x == '-' && blankNext rest then l.readSign .item .linesList
  else if x == '?' && l.standsAlone rest then l.readSign .key .linesMapping
  else if x == ':' && l.standsAlone rest then l.readColon
  else if x == '*' then l.readPart fun c => (readName c).map fun p => (.alias p.1, p.2)
  else if x == '&' then l.readPart fun c => (readName c).map fun p => (.anchor p.1, p.2)
  else if x == '!' then l.readPart fun c => (readTag c).map fun r => (.tag r.1, r.2)
  else if x == '|' && !l.inBrackets then l.blockToken fuel false
  else if x == '>' && !l.inBrackets then l.blockToken fuel true
  else if x == '\'' then l.readPart (quotedToken fuel false)
  else if x == '"' then l.readPart (quotedToken fuel true)
  else if opensPlain l.inBrackets (x :: rest) then l.plainToken fuel
  else .error .malformed

/-! ## All tokens -/

/-- Goes on to the next token.  A line break outside of brackets allows a key. -/
def toNextToken (l : Lexer) : Except Fault Lexer :=
  let place := l.place.afterGap
  let allowsKey := l.allowsKey || (!l.inBrackets && place.line != l.place.line)
  { l with place := place, allowsKey := allowsKey }.dropStale.map fun (fresh : Lexer) =>
    fresh.closeLines fresh.place.column

/-- The tokens from a place on.  The bound is large enough if it exceeds the length of the text. -/
def run (fuel : Nat) : Nat → Lexer → TokenRow
  | 0, l => ⟨l.tokens.reverse, some .malformed⟩
  | steps + 1, l =>
    match l.toNextToken with
    | .error fault => ⟨l.tokens.reverse, some fault⟩
    | .ok l =>
      match l.place.rest with
      | [] =>
        match (l.closeLines (-1)).dropKey with
        | .error fault => ⟨l.tokens.reverse, some fault⟩
        | .ok l => ⟨l.tokens.reverse, none⟩
      | x :: rest =>
        match l.readToken fuel x rest with
        | .error fault => ⟨l.tokens.reverse, some fault⟩
        | .ok next => run fuel steps next

end Lexer

/-- The tokens of a document. -/
def tokensOf (t : Text) : TokenRow :=
  let fuel := t.length + 1
  Lexer.run fuel fuel { place := Cursor.start t }

end ErDiagram.Yaml

import ErDiagram.Text.Basic

set_option autoImplicit false

/-!
# Message templates

A template is literal text with replacement fields between braces; a doubled brace stands for
itself.  A field has a name, which may be followed by a conversion after an exclamation mark and by
a layout after a colon.  The layout may hold fields of its own.  A template is read from the left,
and what comes before the first malformed place is known even if the template is malformed.
-/

namespace ErDiagram

/-- What is wrong with a malformed template. -/
inductive TemplateFault where
  | loneOpening
  | loneClosing
  | openingInName
  | unclosed
  | unclosedLayout
  | conversionMissing
  | colonMissing
  deriving DecidableEq, Repr, Inhabited

/-- The wording of a malformed template's fault. -/
def TemplateFault.message : TemplateFault → Text
  | .loneOpening => "Single '\x7b' encountered in format string".toList
  | .loneClosing => "Single '\x7d' encountered in format string".toList
  | .openingInName => "unexpected '\x7b' in field name".toList
  | .unclosed => "expected '\x7d' before end of string".toList
  | .unclosedLayout => "unmatched '\x7b' in format spec".toList
  | .conversionMissing => "end of string while looking for conversion specifier".toList
  | .colonMissing => "expected ':' after conversion specifier".toList

/-- A replacement field. -/
structure TemplateField where
  name : Text
  conversion : Option Char
  layout : Text
  deriving DecidableEq, Repr, Inhabited

/-- A part of a template. -/
inductive TemplatePiece where
  | literal (t : Text)
  | field (f : TemplateField)
  deriving DecidableEq, Repr, Inhabited

/-- A template as read: its parts up to the first malformed place, and what is wrong there. -/
structure Template where
  pieces : List TemplatePiece
  fault : Option TemplateFault
  deriving DecidableEq, Repr, Inhabited

namespace Template

/-- A brace. -/
def isBrace (c : Char) : Bool := c == '{' || c == '}'

/-- A field name, the character that ends it and what follows.  Nothing ends a name between square
brackets. -/
def scanName (bracketed : Bool) : Text → Except TemplateFault (Text × Char × Text)
  | [] => .error .unclosed
  | c :: cs =>
    if bracketed then (scanName (c != ']') cs).map fun r => (c :: r.1, r.2)
    else if c == '{' then .error .openingInName
    else if c == '}' || c == ':' || c == '!' then .ok ([], c, cs)
    else (scanName (c == '[') cs).map fun r => (c :: r.1, r.2)

/-- A layout up to the brace that closes its field, and what follows; `depth` braces are open inside. -/
def scanLayout : Nat → Text → Except TemplateFault (Text × Text)
  | _, [] => .error .unclosedLayout
  | depth, '{' :: cs => (scanLayout (depth + 1) cs).map fun r => ('{' :: r.1, r.2)
  | 0, '}' :: cs => .ok ([], cs)
  | depth + 1, '}' :: cs => (scanLayout depth cs).map fun r => ('}' :: r.1, r.2)
  | depth, c :: cs => (scanLayout depth cs).map fun r => (c :: r.1, r.2)

/-- A field whose layout comes next. -/
def scanWithLayout (name : Text) (conversion : Option Char) (t : Text) :
    Except TemplateFault (TemplateField × Text) :=
  (scanLayout 0 t).map fun r => (⟨name, conversion, r.1⟩, r.2)

/-- A field whose conversion comes next. -/
def scanConversion (name : Text) : Text → Except TemplateFault (TemplateField × Text)
  | [] => .error .conversionMissing
  | [_] => .error .unclosedLayout
  | c :: '}' :: rest => .ok (⟨name, some c, []⟩, rest)
  | c :: ':' :: rest => scanWithLayout name (some c) rest
  | _ => .error .colonMissing

/-- A field behind its opening brace, and what follows it. -/
def scanField (t : Text) : Except TemplateFault (TemplateField × Text) :=
  match scanName false t with
  | .error fault => .error fault
  | .ok (name, '!', rest) => scanConversion name rest
  | .ok (name, ':', rest) => scanWithLayout name none rest
  | .ok (name, _, rest) => .ok (⟨name, none, []⟩, rest)

/-- Puts parts in front of a template. -/
def prepend (pieces : List TemplatePiece) (t : Template) : Template := ⟨pieces ++ t.pieces, t.fault⟩

/-- The parts in front of a malformed place. -/
def stopped (fault : TemplateFault) : Template := ⟨[], some fault⟩

/-- Reads a template of at most `fuel` characters. -/
def readFuel : Nat → Text → Template
  | 0, _ => ⟨[], none⟩
  | fuel + 1, t =>
    let literal := t.takeWhile fun c => !isBrace c
    match t.dropWhile fun c => !isBrace c with
    | [] => ⟨[.literal literal], none⟩
    | '{' :: '{' :: rest => prepend [.literal (literal ++ ['{'])] (readFuel fuel rest)
    | '}' :: '}' :: rest => prepend [.literal (literal ++ ['}'])] (readFuel fuel rest)
    | ['{'] => stopped .loneOpening
    | '{' :: rest =>
      match scanField rest with
      | .error fault => stopped fault
      | .ok (field, after) => prepend [.literal literal, .field field] (readFuel fuel after)
    | _ => stopped .loneClosing

/-- Reads a template. -/
def read (t : Text) : Template := readFuel (t.length + 1) t

/-- The fields of a template, in order. -/
def fields (t : Template) : List TemplateField :=
  t.pieces.filterMap fun p =>
    match p with
    | .field f => some f
    | .literal _ => none

end Template

end ErDiagram

import ErDiagram.Dot.Settings
import ErDiagram.Event

set_option autoImplicit false

/-!
# Drawings

A diagram becomes a directed graph in the language of graph drawing: defaults for the graph, its
nodes and its edges, then a node for each entity and an edge for each relationship, each under a
comment that names it.  A node label is a record, whose fields are the name of the entity and two
columns of attributes.
-/

namespace ErDiagram

/-- The value of a drawing attribute. -/
inductive DotValue where
  /-- a bare word or number -/
  | plain (t : Text)
  /-- a text between double quotes, with what escapes it needs -/
  | quoted (body : Text)
  deriving DecidableEq, Repr, Inhabited

/-- An attribute of the drawing. -/
structure DotAttribute where
  name : Text
  value : DotValue
  deriving DecidableEq, Repr, Inhabited

namespace Dot

/-! ## Texts in drawings

User text stands in labels, where some characters have a meaning, and between double quotes.  Both
places need escapes.  The escapes of a label are put in by one pass for each character, the
backslash first and the tab last, so that no pass touches what another one has put in. -/

/-- The passes that escape a label: a character and what it gives way to. -/
def labelPasses : List (Char × Text) :=
  [('\\', ['\\', '\\']), ('[', ['\\', '[']), (']', ['\\', ']']), ('(', ['\\', '(']), (')', ['\\', ')']),
    ('<', ['\\', '<']), ('>', ['\\', '>']), ('{', ['\\', '{']), ('}', ['\\', '}']),
    ('|', ['\\', '|']), (' ', ['\\', ' ']),
    ('\t', ['\\', ' ', '\\', ' ', '\\', ' ', '\\', ' '])]

/-- Runs passes over a text, one after the other. -/
def runPasses (passes : List (Char × Text)) (t : Text) : Text :=
  passes.foldl (fun text pass => Text.replaceChar pass.1 pass.2 text) t

/-- A text as it stands in a label. -/
def escapeLabel (t : Text) : Text := runPasses labelPasses t

/-- A text with a blank on either side, unless it is empty. -/
def wrapLabel (t : Text) : Text := if t.isEmpty then [] else ' ' :: t ++ [' ']

/-- The passes that escape a text between double quotes. -/
def quotePasses : List (Char × Text) := [('\\', ['\\', '\\']), ('"', ['\\', '"'])]

/-- A text between double quotes. -/
def quote (t : Text) : Text := '"' :: runPasses quotePasses t ++ ['"']

/-- Texts between commas; a blank one is left out. -/
def joinAttributes (texts : List Text) : Text :=
  Text.join [',', ' '] ((texts.map Text.strip).filter fun t => !t.isEmpty)

/-! ## Attributes -/

/-- An attribute as it is written. -/
def writeAttribute (a : DotAttribute) : Text :=
  a.name ++ '=' ::
    (match a.value with
    | .plain t => t
    | .quoted body => '"' :: body ++ ['"'])

/-- Attributes as they are written. -/
def writeAttributes (attributes : List DotAttribute) : Text :=
  joinAttributes (attributes.map writeAttribute)

/-- An attribute with a bare value. -/
def plain (name : String) (t : Text) : DotAttribute := ⟨name.toList, .plain t⟩

/-- An attribute whose value is written between double quotes as it is. -/
def verbatim (name : String) (body : Text) : DotAttribute := ⟨name.toList, .quoted body⟩

/-- An attribute whose value is escaped between double quotes. -/
def escaped (name : String) (t : Text) : DotAttribute :=
  ⟨name.toList, .quoted (runPasses quotePasses t)⟩

/-- Attributes under a condition. -/
def onlyIf (condition : Bool) (attributes : List DotAttribute) : List DotAttribute :=
  if condition then attributes else []

/-! ## Defaults -/

/-- The attribute of the font, if there is one. -/
def fontAttribute (s : Settings) : List DotAttribute :=
  onlyIf (!s.font.isEmpty) [escaped "fontname" s.font]

/-- The attributes of the graph, given the digits of the size of its title. -/
def graphAttributes (d : Diagram) (s : Settings) (size : Text) : List DotAttribute :=
  let title := d.options.text .title
  onlyIf (!title.isEmpty) [escaped "label" title, plain "labelloc" ['t']]
    ++ [plain "fontsize" size, plain "rankdir" s.direction.spelling] ++ fontAttribute s

/-- The attributes that nodes have by default. -/
def nodeDefaults (s : Settings) : List DotAttribute :=
  [plain "shape" "record".toList]
    ++ onlyIf (s.color != .none)
      [plain "style" "filled".toList, escaped "color" s.color.dark, escaped "fillcolor" s.color.light]
    ++ [plain "fontsize" "10".toList] ++ fontAttribute s

/-- The attributes that edges have by default. -/
def edgeDefaults (s : Settings) : List DotAttribute :=
  [plain "dir" "both".toList, plain "fontsize" ['9']] ++ fontAttribute s

/-- A statement that gives defaults. -/
def defaultLine (what : String) (attributes : List DotAttribute) : Text :=
  what.toList ++ ' ' :: '[' :: writeAttributes attributes ++ [']', ';']

/-! ## Nodes -/

/-- What stands between a name and its mark. -/
def markSeparator : Text := [' ', ' ']

/-- A name with its mark, if it has one. -/
def marked (name mark : Text) : Text := if mark.isEmpty then name else name ++ markSeparator ++ mark

/-- The cell that shows whether an attribute is a primary key. -/
def keyCell (a : Attribute) : Text := if a.isPrimaryKey then ['*'] else [' ']

/-- The cell that shows the name of an attribute, a foreign key and a mark. -/
def nameCell (a : Attribute) : Text :=
  let mark := a.options.text .mark
  escapeLabel a.name
    ++ (if a.isForeignKey then escapeLabel " (FK)".toList else [])
    ++ (if mark.isEmpty then [] else escapeLabel (markSeparator ++ mark))
    ++ ['\\', 'l']

/-- The record that shows an entity. -/
def nodeLabel (e : Entity) : Text :=
  let title := escapeLabel (marked e.name (e.options.text .mark))
  if e.attributes.isEmpty then title
  else
    title ++ ['|', '{', '{'] ++ Text.join ['|'] (e.attributes.map keyCell)
      ++ ['}', '|', '{'] ++ Text.join ['|'] (e.attributes.map nameCell) ++ ['}', '}']

/-- A label as it stands in a drawing of a direction: turned by braces if the drawing grows downwards. -/
def turned (direction : RankDirection) (label : Text) : Text :=
  match direction with
  | .topToBottom => '{' :: label ++ ['}']
  | .leftToRight => label

/-- What stands for the name of the entity in a link. -/
def linkPlaceholder : Text := "$\x7bentity\x7d".toList

/-- The attributes of the node of an entity. -/
def nodeAttributes (d : Diagram) (s : Settings) (e : Entity) : List DotAttribute :=
  let color := e.options.color .color
  let link := d.options.text .linkFiles
  [plain "shape" (s.style.nodeShape (some e.dependency)),
      verbatim "label" (turned s.direction (nodeLabel e))]
    ++ onlyIf (color != .none)
      [plain "style" "filled".toList, verbatim "color" color.dark, verbatim "fillcolor" color.light]
    ++ onlyIf (!link.isEmpty) [verbatim "URL" (Text.replaceAll linkPlaceholder e.name link)]
    ++ [verbatim "tooltip" (escapeLabel e.name)]

/-- The statement of a node. -/
def nodeLine (d : Diagram) (s : Settings) (e : Entity) : Text :=
  e.id ++ ' ' :: '[' :: writeAttributes (nodeAttributes d s e) ++ [']']

/-! ## Edges -/

/-- The verb of a relationship, turned around if its option says so. -/
def shownVerb (r : Relationship) : VerbPhrase :=
  if r.options.flag .verbReverse then r.verb.reversed else r.verb

/-- The words on an edge, with the sign of the way they read. -/
def edgeLabel (v : VerbPhrase) : Text :=
  if v.text.isEmpty then []
  else
    escapeLabel (wrapLabel
      (match v.direction with
      | .firstToSecond => '[' :: v.text ++ ['>']
      | .secondToFirst => '<' :: v.text ++ [']']
      | .unspecified => v.text))

/-- The label at one end of an edge: the option, or else what the notation puts there. -/
def endLabel (s : Settings) (given : Text) (e : End) (role : Role) : Text :=
  escapeLabel (wrapLabel (if given.isEmpty then s.style.endLabel e role else given))

/-- The attributes of the edge of a relationship. -/
def edgeAttributes (s : Settings) (r : Relationship) : List DotAttribute :=
  [plain "arrowtail" (s.style.arrow r.cardinality.first r.roles.1),
    verbatim "taillabel" (endLabel s (r.options.text .n1) r.cardinality.first r.roles.1),
    plain "arrowhead" (s.style.arrow r.cardinality.second r.roles.2),
    verbatim "headlabel" (endLabel s (r.options.text .n2) r.cardinality.second r.roles.2),
    plain "style" (s.style.edgeStyle r.kind),
    verbatim "label" (edgeLabel (shownVerb r))]

/-- The id of the node of an entity name: that of the last entity of the name, or the name itself if
there is no such entity. -/
def nodeId (d : Diagram) (name : Text) : Text :=
  match d.entity? name with
  | some e => e.id
  | none => name

/-- The statement of an edge. -/
def edgeLine (d : Diagram) (s : Settings) (r : Relationship) : Text :=
  nodeId d r.first.name ++ " -> ".toList ++ nodeId d r.second.name
    ++ ' ' :: '[' :: writeAttributes (edgeAttributes s r) ++ [']']

/-! ## The drawing -/

/-- A line of the body, indented. -/
def indented (line : Text) : Text := ' ' :: ' ' :: line

/-- The lines about an entity. -/
def entityLines (d : Diagram) (s : Settings) (e : Entity) : List Text :=
  [[], indented ("//E [".toList ++ e.name ++ [']']), indented (nodeLine d s e)]

/-- The lines about a relationship. -/
def relationshipLines (d : Diagram) (s : Settings) (r : Relationship) : List Text :=
  [[], indented ("//R [".toList ++ r.first.name ++ "]--[".toList ++ r.second.name ++ [']']),
    indented (edgeLine d s r)]

/-- The name of the graph. -/
def graphName (d : Diagram) : Text :=
  let title := d.options.text .title
  if title.isEmpty then "erd".toList else title

/-- The lines of a drawing, given the digits of the size of its title. -/
def lines (d : Diagram) (s : Settings) (size : Text) : List Text :=
  ["digraph ".toList ++ quote (graphName d) ++ [' ', '{'],
      indented (defaultLine "graph" (graphAttributes d s size)),
      indented (defaultLine "node" (nodeDefaults s)),
      indented (defaultLine "edge" (edgeDefaults s))]
    ++ d.entities.flatMap (entityLines d s)
    ++ d.relationships.flatMap (relationshipLines d s)
    ++ [['}']]

/-- The size of the title of a diagram. -/
def titleSize (d : Diagram) : Int := d.options.whole .titleSize 12

/-- Draws a diagram.  There is no drawing if the size of its title has too many digits to be written. -/
def render? (d : Diagram) (s : Settings) : Option Text :=
  (Numeral.write? (titleSize d)).map fun size =>
    (lines d s size).flatMap fun line => line ++ ['\n']

/-- What is recorded about a drawing. -/
def renderEvent (d : Diagram) (s : Settings) : Event :=
  .rendered d.entities.length d.relationships.length s.style

end Dot

end ErDiagram

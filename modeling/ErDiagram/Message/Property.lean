import ErDiagram.Message.Typeset
import ErDiagram.Text.Quoted

set_option autoImplicit false

/-!
# Properties of parameters

A field of a template may ask a parameter for a property, and the answer for a property of its own.
Every answer has a kind, and the kind lists its members by name.  A member is an attribute or a slot
that has a value, or it is an operation.  Asked of an answer, an operation comes tied to it; asked of
its kind, it is shown as a member of the kind that lists it.
-/

namespace ErDiagram

/-- The kinds of answers. -/
inductive FacetKind where
  | text
  | number
  | kind
  | object
  | row
  | nothing
  | method
  | wrapper
  | quality
  | slot
  | boundMethod
  | boundWrapper
  deriving DecidableEq, Repr, Inhabited

/-- How a kind lists a member. -/
inductive MemberRole where
  | wrapper
  | method
  | quality
  | slot
  deriving DecidableEq, Repr, Inhabited

/-- What a field of a template can stand for. -/
inductive Facet where
  | text (t : Text)
  | number (n : Int)
  | kind (k : FacetKind)
  | row (kinds : List FacetKind)
  | nothing
  /-- a member as its owner lists it -/
  | member (role : MemberRole) (owner : FacetKind) (name : Text)
  /-- an operation tied to the answer that was asked for it -/
  | bound (isWrapper : Bool) (owner : FacetKind) (name : Text) (subject : Facet)
  deriving DecidableEq, Repr, Inhabited

/-- The members of a kind by their names. -/
structure Members where
  wrappers : List String := []
  methods : List String := []
  /-- operations that are tied to the kind itself -/
  bound : List String := []
  attributes : List String := []
  slots : List String := []
  deriving Repr, Inhabited

namespace FacetKind

/-- The name of a kind. -/
def name : FacetKind → Text
  | text => "str".toList
  | number => "int".toList
  | kind => "type".toList
  | object => "object".toList
  | row => "tuple".toList
  | nothing => "NoneType".toList
  | method => "method_descriptor".toList
  | wrapper => "wrapper_descriptor".toList
  | quality => "getset_descriptor".toList
  | slot => "member_descriptor".toList
  | boundMethod => "builtin_function_or_method".toList
  | boundWrapper => "method-wrapper".toList

/-- A kind and everything it is a special case of. -/
def lineage : FacetKind → List FacetKind
  | object => [object]
  | k => [k, object]

/-- What a kind says about itself. -/
def summary : FacetKind → Option String
  | text => some <|
    "str(object='') -> str\n"
      ++ "str(bytes_or_buffer[, encoding[, errors]]) -> str\n"
      ++ "\n"
      ++ "Create a new string object from the given object. If encoding or\n"
      ++ "errors is specified, then the object must expose a data buffer\n"
      ++ "that will be decoded using the given encoding and error handler.\n"
      ++ "Otherwise, returns the result of object.__str__() (if defined)\n"
      ++ "or repr(object).\n"
      ++ "encoding defaults to sys.getdefaultencoding().\n"
      ++ "errors defaults to 'strict'."
  | number => some <|
    "int([x]) -> integer\n"
      ++ "int(x, base=10) -> integer\n"
      ++ "\n"
      ++ "Convert a number or string to an integer, or return 0 if no arguments\n"
      ++ "are given.  If x is a number, return x.__int__().  For floating point\n"
      ++ "numbers, this truncates towards zero.\n"
      ++ "\n"
      ++ "If x is not a number or if base is given, then x must be a string,\n"
      ++ "bytes, or bytearray instance representing an integer literal in the\n"
      ++ "given base.  The literal can be preceded by '+' or '-' and be surrounded\n"
      ++ "by whitespace.  The base defaults to 10.  Valid bases are 0 and 2-36.\n"
      ++ "Base 0 means to interpret the base from the string as an integer literal.\n"
      ++ ">>> int('0b100', base=0)\n"
      ++ "4"
  | kind => some <|
    "type(object) -> the object's type\n"
      ++ "type(name, bases, dict, **kwds) -> a new type"
  | object => some <|
    "The base class of the class hierarchy.\n"
      ++ "\n"
      ++ "When called, it accepts no arguments and returns a new featureless\n"
      ++ "instance that has no instance attributes and cannot be given any.\n"
  | row => some <|
    "Built-in immutable sequence.\n"
      ++ "\n"
      ++ "If no argument is given, the constructor returns an empty tuple.\n"
      ++ "If iterable is specified the tuple is initialized from iterable's items.\n"
      ++ "\n"
      ++ "If the argument is a tuple, the return value is the same object."
  | _ => none

/-- The call signature of a kind, where it is known. -/
def signature : FacetKind → Option String
  | object => some "()"
  | row => some "(iterable=(), /)"
  | _ => none

/-- The sizes of a kind in memory: of its answers, of their items, the places of two pointers in them,
and the flags of the kind. -/
def sizes : FacetKind → Nat × Nat × Nat × Nat × Nat
  | text => (80, 0, 0, 0, 273159424)
  | number => (24, 4, 0, 0, 21501184)
  | kind => (904, 40, 264, 368, 2148031744)
  | object => (16, 0, 0, 0, 529664)
  | row => (24, 8, 0, 0, 71849248)
  | nothing => (16, 0, 0, 0, 528640)
  | method => (56, 0, 0, 0, 153984)
  | wrapper => (56, 0, 0, 0, 151936)
  | quality => (48, 0, 0, 0, 545152)
  | slot => (48, 0, 0, 0, 545152)
  | boundMethod => (56, 0, 0, 40, 547200)
  | boundWrapper => (32, 0, 0, 0, 20864)

/-- The members that a kind lists itself. -/
def members : FacetKind → Members
  | text =>
    { wrappers := ["__repr__", "__hash__", "__str__", "__getattribute__", "__lt__", "__le__", "__eq__",
       "__ne__", "__gt__", "__ge__", "__iter__", "__mod__", "__rmod__", "__len__", "__getitem__",
       "__add__", "__mul__", "__rmul__", "__contains__"],
      methods := ["encode", "replace", "split", "rsplit", "join", "capitalize", "casefold", "title", "center",
       "count", "expandtabs", "find", "partition", "index", "ljust", "lower", "lstrip", "rfind",
       "rindex", "rjust", "rstrip", "rpartition", "splitlines", "strip", "swapcase", "translate",
       "upper", "startswith", "endswith", "removeprefix", "removesuffix", "isascii", "islower",
       "isupper", "istitle", "isspace", "isdecimal", "isdigit", "isnumeric", "isalpha", "isalnum",
       "isidentifier", "isprintable", "zfill", "format", "format_map", "__format__", "__sizeof__",
       "__getnewargs__"],
      bound := ["__new__", "maketrans"] }
  | number =>
    { wrappers := ["__repr__", "__hash__", "__getattribute__", "__lt__", "__le__", "__eq__", "__ne__", "__gt__",
       "__ge__", "__add__", "__radd__", "__sub__", "__rsub__", "__mul__", "__rmul__", "__mod__",
       "__rmod__", "__divmod__", "__rdivmod__", "__pow__", "__rpow__", "__neg__", "__pos__",
       "__abs__", "__bool__", "__invert__", "__lshift__", "__rlshift__", "__rshift__",
       "__rrshift__", "__and__", "__rand__", "__xor__", "__rxor__", "__or__", "__ror__", "__int__",
       "__float__", "__floordiv__", "__rfloordiv__", "__truediv__", "__rtruediv__", "__index__"],
      methods := ["conjugate", "bit_length", "bit_count", "to_bytes", "as_integer_ratio", "__trunc__",
       "__floor__", "__ceil__", "__round__", "__getnewargs__", "__format__", "__sizeof__"],
      bound := ["__new__", "from_bytes"],
      attributes := ["real", "imag", "numerator", "denominator"] }
  | kind =>
    { wrappers := ["__repr__", "__call__", "__getattribute__", "__setattr__", "__delattr__", "__init__",
       "__or__", "__ror__"],
      methods := ["mro", "__subclasses__", "__instancecheck__", "__subclasscheck__", "__dir__", "__sizeof__"],
      bound := ["__new__", "__prepare__"],
      attributes := ["__name__", "__qualname__", "__bases__", "__module__", "__abstractmethods__", "__dict__",
       "__doc__", "__text_signature__", "__annotations__"],
      slots := ["__basicsize__", "__itemsize__", "__flags__", "__weakrefoffset__", "__base__",
       "__dictoffset__", "__mro__"] }
  | object =>
    { wrappers := ["__repr__", "__hash__", "__str__", "__getattribute__", "__setattr__", "__delattr__",
       "__lt__", "__le__", "__eq__", "__ne__", "__gt__", "__ge__", "__init__"],
      methods := ["__reduce_ex__", "__reduce__", "__getstate__", "__format__", "__sizeof__", "__dir__"],
      bound := ["__new__", "__subclasshook__", "__init_subclass__"],
      attributes := ["__class__"] }
  | row =>
    { wrappers := ["__repr__", "__hash__", "__getattribute__", "__lt__", "__le__", "__eq__", "__ne__", "__gt__",
       "__ge__", "__iter__", "__len__", "__getitem__", "__add__", "__mul__", "__rmul__",
       "__contains__"],
      methods := ["__getnewargs__", "index", "count"],
      bound := ["__new__", "__class_getitem__"] }
  | nothing =>
    { wrappers := ["__repr__", "__bool__"],
      bound := ["__new__"] }
  | method =>
    { wrappers := ["__repr__", "__call__", "__getattribute__", "__get__"],
      methods := ["__reduce__"],
      attributes := ["__doc__", "__qualname__", "__text_signature__"],
      slots := ["__objclass__", "__name__"] }
  | wrapper =>
    { wrappers := ["__repr__", "__call__", "__getattribute__", "__get__"],
      methods := ["__reduce__"],
      attributes := ["__doc__", "__qualname__", "__text_signature__"],
      slots := ["__objclass__", "__name__"] }
  | quality =>
    { wrappers := ["__repr__", "__getattribute__", "__get__", "__set__", "__delete__"],
      attributes := ["__doc__", "__qualname__"],
      slots := ["__objclass__", "__name__"] }
  | slot =>
    { wrappers := ["__repr__", "__getattribute__", "__get__", "__set__", "__delete__"],
      methods := ["__reduce__"],
      attributes := ["__doc__", "__qualname__"],
      slots := ["__objclass__", "__name__"] }
  | boundMethod =>
    { wrappers := ["__repr__", "__hash__", "__call__", "__getattribute__", "__lt__", "__le__", "__eq__",
       "__ne__", "__gt__", "__ge__"],
      methods := ["__reduce__"],
      attributes := ["__doc__", "__name__", "__qualname__", "__self__", "__text_signature__"],
      slots := ["__module__"] }
  | boundWrapper =>
    { wrappers := ["__repr__", "__hash__", "__call__", "__getattribute__", "__lt__", "__le__", "__eq__",
       "__ne__", "__gt__", "__ge__"],
      methods := ["__reduce__"],
      attributes := ["__objclass__", "__name__", "__qualname__", "__doc__", "__text_signature__"],
      slots := ["__self__"] }

end FacetKind

namespace Facet

/-- The facet of a parameter. -/
def ofParam : Param → Facet
  | .text t => text t
  | .number n => number n

/-- The kind of an answer. -/
def kindOf : Facet → FacetKind
  | text _ => .text
  | number _ => .number
  | kind _ => .kind
  | row _ => .row
  | nothing => .nothing
  | member .wrapper _ _ => .wrapper
  | member .method _ _ => .method
  | member .quality _ _ => .quality
  | member .slot _ _ => .slot
  | bound isWrapper _ _ _ => if isWrapper then .boundWrapper else .boundMethod

/-! ## Texts of answers -/

/-- A kind as it is shown. -/
def showKind (k : FacetKind) : Text := "<class '".toList ++ k.name ++ "'>".toList

/-- The word for the role of a member. -/
def roleWord : MemberRole → Text
  | .wrapper => "slot wrapper".toList
  | .method => "method".toList
  | .quality => "attribute".toList
  | .slot => "member".toList

/-- An answer as it is shown between other texts.  Where a tied operation is kept is not known, so its
place is shown as zero. -/
def display : Facet → Text
  | text t => Text.quoted t
  | number n => Text.ofInt n
  | kind k => showKind k
  | row [k] => '(' :: showKind k ++ [',', ')']
  | row kinds => '(' :: Text.join [',', ' '] (kinds.map showKind) ++ [')']
  | nothing => "None".toList
  | member role owner name =>
    '<' :: roleWord role ++ " '".toList ++ name ++ "' of '".toList ++ owner.name ++ "' objects>".toList
  | bound isWrapper _ name subject =>
    '<' :: (if isWrapper then "method-wrapper '".toList ++ name ++ ['\''] else "built-in method ".toList ++ name)
      ++ " of ".toList ++ subject.kindOf.name ++ " object at 0x000000000000>".toList

/-- An answer as plain text: a text is itself. -/
def plain : Facet → Text
  | text t => t
  | f => f.display

/-- Sets an answer as a layout says.  Only texts and numbers have layouts. -/
def set (f : Facet) (layout : Text) : Except FormatFault Text :=
  match f with
  | text t => Layout.setText t layout
  | number n => Layout.setNumber n layout
  | f =>
    if layout.isEmpty then .ok f.plain
    else
      .error (.misused ("unsupported format string passed to ".toList ++ f.kindOf.name
        ++ ".__format__".toList))

/-! ## Asking for properties -/

/-- An optional text as an answer. -/
def ofText? (t : Option String) : Facet :=
  match t with
  | some s => text s.toList
  | none => nothing

/-- The value of an attribute or a slot of a kind. -/
def kindProperty (k : FacetKind) (name : Text) : Option Facet :=
  let (own, items, dictionary, references, flags) := k.sizes
  let table : List (String × Facet) :=
    [("__name__", text k.name), ("__qualname__", text k.name), ("__module__", text "builtins".toList),
      ("__class__", kind .kind), ("__bases__", row (k.lineage.drop 1)), ("__mro__", row k.lineage),
      ("__base__", if k = .object then nothing else kind .object), ("__doc__", ofText? k.summary),
      ("__text_signature__", ofText? k.signature), ("__basicsize__", number own),
      ("__itemsize__", number items), ("__dictoffset__", number dictionary),
      ("__weakrefoffset__", number references), ("__flags__", number flags)]
  (table.find? fun e => e.1.toList == name).map (·.2)

/-- The value of an attribute or a slot of an operation or a member. -/
def memberProperty (owner : FacetKind) (memberName name : Text) : Option Facet :=
  let table : List (String × Facet) :=
    [("__name__", text memberName), ("__qualname__", text (owner.name ++ '.' :: memberName)),
      ("__objclass__", kind owner)]
  (table.find? fun e => e.1.toList == name).map (·.2)

/-- The value of an attribute or a slot of an answer. -/
def value (f : Facet) (name : Text) : Option Facet :=
  if name == "__class__".toList then some (kind f.kindOf)
  else
    match f with
    | number n =>
      if name == "imag".toList then some (number 0)
      else if name == "denominator".toList then some (number 1)
      else some (number n)
    | kind k => kindProperty k name
    | member _ owner memberName => memberProperty owner memberName name
    | bound _ owner memberName subject =>
      if name == "__self__".toList then some subject
      else if name == "__module__".toList then some nothing
      else memberProperty owner memberName name
    | _ => none

/-- The names of a list have this one among them. -/
def lists (names : List String) (name : Text) : Bool := names.any fun s => s.toList == name

/-- The first kind of a lineage that lists a member, with the member's role; no role if it is tied to
the kind. -/
def findMember (name : Text) : List FacetKind → Option (FacetKind × Option MemberRole)
  | [] => none
  | k :: rest =>
    let m := k.members
    if lists m.wrappers name then some (k, some .wrapper)
    else if lists m.methods name then some (k, some .method)
    else if lists m.attributes name then some (k, some .quality)
    else if lists m.slots name then some (k, some .slot)
    else if lists m.bound name then some (k, none)
    else findMember name rest

/-- An operation or a value of an answer, by the kind's list of members. -/
def ownProperty (f : Facet) (name : Text) : Option Facet :=
  match findMember name f.kindOf.lineage with
  | some (owner, some .wrapper) => some (bound true owner name f)
  | some (owner, some .method) => some (bound false owner name f)
  | some (owner, none) => some (bound false owner name (kind owner))
  | some (_, some _) => f.value name
  | none => if name == "__doc__".toList then some (ofText? f.kindOf.summary) else none

/-- The property of an answer under a name, if it has one.  A kind's values come first, then the members
that it lists for its answers, then its own operations. -/
def property? (f : Facet) (name : Text) : Option Facet :=
  match f with
  | kind k =>
    match f.value name with
    | some found => some found
    | none =>
      match findMember name k.lineage with
      | some (owner, some role) => some (member role owner name)
      | some (owner, none) => some (bound false owner name f)
      | none => ownProperty f name
  | f => ownProperty f name

/-! ## Asking for items -/

/-- The item of an answer that square brackets ask for, by its number or by another key. -/
def item (f : Facet) (index : Option Nat) : Except FormatFault Facet :=
  match f, index with
  | text t, some n =>
    match t[n]? with
    | some c => .ok (text [c])
    | none => Layout.refuse "string index out of range"
  | text _, none => .error (.misused "string indices must be integers, not 'str'".toList)
  | row kinds, some n =>
    match kinds[n]? with
    | some k => .ok (kind k)
    | none => Layout.refuse "tuple index out of range"
  | row _, none =>
    .error (.misused "tuple indices must be integers or slices, not str".toList)
  | kind k, _ => .error (.misused ("type '".toList ++ k.name ++ "' is not subscriptable".toList))
  | f, _ =>
    .error (.misused ('\'' :: f.kindOf.name ++ "' object is not subscriptable".toList))

end Facet

end ErDiagram

import ErDiagram.Message.Catalog
import ErDiagram.Value.Check

set_option autoImplicit false

/-!
# Catalog documents

A catalog can be written as a document.  The document is checked for its keys, all of whose values
are texts, and then its templates are checked for their fields: a field is a number, and a template
may only use the numbers that the English template of the same kind uses.
-/

namespace ErDiagram

/-- Why a document is no catalog. -/
inductive CatalogFault where
  | noMapping
  | violations (vs : List Violation)
  /-- what is wrong with the document cannot be written -/
  | unwritable
  | malformedTemplate (template : Text) (fault : TemplateFault)
  /-- templates have fields that they may not have -/
  | fields (entries : List Text)
  /-- the keys of the templates cannot be ordered, for this reason -/
  | keyOrder (reason : Text)
  deriving DecidableEq, Repr, Inhabited

/-- What is said about a catalog that is not valid, entry by entry. -/
def invalidCatalogMessage (entries : List Text) : Text :=
  "Message catalog validation failed:\n".toList ++ Text.join ['\n'] entries

/-- What is said about a document that is no catalog. -/
def CatalogFault.message : CatalogFault → Text
  | .noMapping => "Message catalog must be a mapping/object.".toList
  | .violations vs => invalidCatalogMessage (vs.map Violation.entry)
  | .unwritable => Numeral.writeLimitMessage
  | .malformedTemplate template fault =>
    "Malformed message template ".toList ++ Text.quoted template ++ ':' :: ' ' :: fault.message
  | .fields entries => invalidCatalogMessage entries
  | .keyOrder reason => reason

/-! ## Fields of templates -/

/-- The names of the fields of a template, in order and each once. -/
def fieldNames (template : Text) : Except CatalogFault (List Text) :=
  let read := Template.read template
  match read.fault with
  | some fault => .error (.malformedTemplate template fault)
  | none => .ok (sortBy Text.le (read.fields.map (·.name)).eraseDups)

/-- An entry about the fields of a template. -/
def fieldEntry (key : Text) (what : String) (names : List Text) : Text :=
  "- $/errors/".toList ++ key ++ ": ".toList ++ what.toList ++ " placeholders ".toList
    ++ Text.bracketed (names.map Text.quoted)

/-- What is wrong with the fields of one template. -/
def checkFields (reference : Option (List (Text × Text))) (key template : Text) :
    Except CatalogFault (List Text) :=
  match fieldNames template with
  | .error fault => .error fault
  | .ok names =>
    let bad := names.filter fun n => !Text.isDigits n
    if !bad.isEmpty then .ok [fieldEntry key "unsupported" bad]
    else
      match reference.bind fun table => table.lookup key with
      | none => .ok []
      | some other =>
        match fieldNames other with
        | .error fault => .error fault
        | .ok known =>
          let extra := names.filter fun n => !known.contains n
          .ok (if extra.isEmpty then [] else [fieldEntry key "unknown" extra])

/-- What is wrong with the fields of templates, one after the other. -/
def checkAllFields (reference : Option (List (Text × Text))) :
    List (Text × Text) → Except CatalogFault (List Text)
  | [] => .ok []
  | (key, template) :: rest =>
    match checkFields reference key template with
    | .error fault => .error fault
    | .ok entries => (checkAllFields reference rest).map fun more => entries ++ more

/-- Refuses templates that have fields they may not have.  Templates are looked at in the order of their
keys, and a malformed one ends the check. -/
def checkTemplates (errors : List (Text × Text)) (reference : Option (List (Text × Text))) :
    Except CatalogFault Unit :=
  match checkAllFields reference (sortBy (fun a b => Text.le a.1 b.1) errors) with
  | .error fault => .error fault
  | .ok [] => .ok ()
  | .ok entries => .error (.fields entries)

/-! ## Documents -/

/-- A text that is not empty. -/
def someText : Check := .all [.isText, .isNonEmpty]

/-- A mapping from exactly these keys to texts. -/
def textSection (keys : List Text) : Check :=
  .all [.isMapping, .onlyKeys keys, .required keys, .properties (keys.map fun key => (key, someText))]

/-- The keys of a catalog document. -/
def catalogKeys : List Text :=
  ["line_label".toList, "line_types".toList, "parts".toList, "errors".toList]

/-- What a catalog document should be. -/
def catalogCheck : Check :=
  .all
    [.isMapping, .onlyKeys catalogKeys, .required catalogKeys,
      .properties
        [("line_label".toList, someText),
          ("line_types".toList, textSection (LineType.all.map LineType.key)),
          ("parts".toList, textSection (Part.all.map Part.key)),
          ("errors".toList,
            .all [.isMapping, .required (ErrorKind.all.map ErrorKind.key), .everyValue someText])]]

/-- Refuses keys that have no order between them. -/
def checkKeyOrder (entries : List (Value × Value)) : Except CatalogFault Unit :=
  match Sorting.sort Value.before (entries.map (·.1)) with
  | .ok _ => .ok ()
  | .error reason => .error (.keyOrder reason)

/-- The catalog of a document; `reference` has the templates whose fields may be used. -/
def Catalog.ofDocument (reference : Option (List (Text × Text))) (document : Value) :
    Except CatalogFault Catalog :=
  match document with
  | .mapping _ =>
    let errors := (document.get? "errors".toList).getD .null
    let table := fun (key : String) => ((document.get? key.toList).getD .null).textTable
    match Violation.find? catalogCheck document with
    | none => .error .unwritable
    | some (v :: vs) => .error (.violations (v :: vs))
    | some [] =>
      match checkKeyOrder (match errors with | .mapping entries => entries | _ => []) with
      | .error fault => .error fault
      | .ok () =>
        match checkTemplates errors.textTable reference with
        | .error fault => .error fault
        | .ok () =>
          .ok ⟨((document.get? "line_label".toList).bind Value.text?).getD [],
            table "line_types", table "parts", errors.textTable⟩
  | _ => .error .noMapping

/-- The catalog of a document that is chosen in place of the English one. -/
def Catalog.ofAlternative (document : Value) : Except CatalogFault Catalog :=
  Catalog.ofDocument (some Catalog.english.errors) document

/-- The document of a catalog. -/
def Catalog.toDocument (c : Catalog) : Value :=
  .mapping
    [(.text "line_label".toList, .text c.lineLabel),
      (.text "line_types".toList, Value.ofTextTable c.lineTypes),
      (.text "parts".toList, Value.ofTextTable c.parts),
      (.text "errors".toList, Value.ofTextTable c.errors)]

end ErDiagram

import ErDiagram.Proofs.Reading.Run
import ErDiagram.Proofs.Writing.Document

set_option autoImplicit false

/-!
# Written documents are read back

Every stage goes past the lines of a written document without a fault, and what the stages leave is
what was written.  So a document is accepted whatever stands between its double quotes, and its
diagram shows every name, phrase and value as it was.
-/

namespace ErDiagram

open Stage (CleanRun)
open IdSource (Numbered idOf entityWord relationshipWord)

/-! ## The diagram of a document -/

/-- Things that get ids of a word, numbered from `n` on. -/
def numberedFrom {α : Type} (word : Text) (n : Nat) : List (Text → α) → List α
  | [] => []
  | make :: rest => make (idOf word n) :: numberedFrom word (n + 1) rest

/-- The entity of a block, under an id. -/
def WrittenEntity.toEntity (e : WrittenEntity) (id : Text) : Entity where
  id := id
  name := e.name
  dependency := e.head.part.dependency
  attributes := e.attributes.map (·.toAttribute)
  options := givenOptions e.head.options

/-- The relationship, under an id. -/
def WrittenRelationship.toRelationship (r : WrittenRelationship) (id : Text) : Relationship where
  id := id
  first := ⟨r.first.name.text, r.first.dependency⟩
  second := ⟨r.second.name.text, r.second.dependency⟩
  cardinality := r.cardinality.toCardinality
  verb := givenVerb r.verb
  options := givenOptions r.options

/-- An entity of which nothing is said but its name, under an id. -/
def bareEntity (name id : Text) : Entity := { id := id, name := name }

namespace WrittenDocument

variable (doc : WrittenDocument)

/-- The names that only relationships mention, in the order of first mention. -/
def undeclared : List Text :=
  ((doc.relationships.flatMap fun r => [r.first.name.text, r.second.name.text]).removeAll
    (doc.entities.map (·.name))).eraseDups

/-- The options of the diagram: each list puts what it gives over what was there. -/
def givenOptions : OptionMap :=
  doc.options.foldl OptionMap.set (OptionMap.ofNames OptionName.ofDiagram)

/-- The entities before inference: those of the blocks, and bare ones for the other names. -/
def givenEntities : List Entity :=
  numberedFrom entityWord 1 (doc.entities.map (·.toEntity) ++ doc.undeclared.map bareEntity)

/-- The relationships before inference. -/
def givenRelationships : List Relationship :=
  numberedFrom relationshipWord 1 (doc.relationships.map (·.toRelationship))

/-- The diagram that the document means. -/
def diagram : Diagram :=
  inferredDiagram doc.givenOptions doc.givenEntities doc.givenRelationships

end WrittenDocument

/-! ## Ids -/

/-- Things that are what is made of their ids are numbered, if their ids are. -/
theorem eq_numberedFrom {α : Type} {word : Text} {id : α → Text} {things : List α}
    {makes : List (Text → α)}
    (h : List.Forall₂ (fun thing make => thing = make (id thing)) things makes) :
    ∀ {start : Nat}, things.map id = (List.range' start things.length).map (idOf word) →
      things = numberedFrom word start makes := by
  induction h with
  | nil =>
    intro _ _
    rfl
  | @cons thing make things makes hthing _ ih =>
    intro start hids
    rw [List.map_cons, List.length_cons, List.range'_succ, List.map_cons, List.cons.injEq] at hids
    rw [numberedFrom, ← hids.1, ← hthing, ← ih hids.2]

/-! ## The runs -/

theorem optionsRun_written {lines : List Line} {lists : List (WrittenOptions OptionName.ofDiagram)}
    (h : List.Forall₂ (fun line s => line.text = WrittenOptions.line s) lines lists) :
    ∀ {m : OptionMap}, m.TypedFor OptionName.ofDiagram →
      CleanRun stepOptions m lines (lists.foldl OptionMap.set m) := by
  induction h with
  | nil =>
    intro m _
    exact .nil m
  | @cons line s lines lists hline _ ih =>
    intro m hm
    obtain ⟨hfault, hstate⟩ := stepOptions_clean.mpr (s.readGlobalOptions_line hline hm)
    refine .cons hfault ?_
    rw [hstate]
    exact ih (s.typedFor_set hm)

/-- A block of written lines is read as its entity. -/
theorem Block.Writes.read {b : Block} {e : WrittenEntity} (h : b.Writes e) (id : Text) :
    (b.read id).result = .ok (e.toEntity id) := by
  rw [Block.read_eq_ok]
  refine ⟨rfl, ?_, ?_, e.head.readEntityLine_written h.head⟩
  · rw [WrittenEntity.toEntity, List.forall₂_map_right_iff]
    exact h.attributes.imp fun _ a ha => a.readsAttribute_written ha
  · rw [WrittenEntity.toEntity, List.map_map]
    exact e.nodup

/-- Blocks of distinct names, none of which is taken, are all read. -/
theorem blocksRun_written {blocks : List Block} {entities : List WrittenEntity}
    (h : List.Forall₂ Block.Writes blocks entities) {s : EntityStage}
    (hnodup : (s.entities.map (·.name) ++ entities.map (·.name)).Nodup) :
    ∃ s', CleanRun stepBlock s blocks s' := by
  have hread : List.Forall₂ ReadsBlock blocks (entities.map fun e => e.toEntity []) := by
    rw [List.forall₂_map_right_iff]
    exact h.imp fun _ _ hblock => hblock.read []
  refine exists_blocksRun hread ?_
  rw [List.map_map]
  exact hnodup

theorem relationshipsRun_written {lines : List Line} {relationships : List WrittenRelationship}
    (h : List.Forall₂ (fun line r => line.text = WrittenRelationship.written r) lines
      relationships) {s : RelationshipStage} :
    ∃ s', CleanRun stepRelationship s lines s' := by
  have hread : List.Forall₂ ReadsRelationship lines
      (relationships.map fun r => r.toRelationshipLine.toRelationship []) := by
    rw [List.forall₂_map_right_iff]
    exact h.imp fun _ r hline => ⟨_, r.readRelationshipLine_written hline, rfl⟩
  exact exists_relationshipsRun hread

/-! ## What the runs leave -/

section Accepted

variable {doc : WrittenDocument} {ids : IdSource} {lines : List Line} {d : Diagram} {g : Grouping}
  {options : OptionMap} {named : EntityStage} {built : RelationshipStage}

/-- The entities of the blocks are those that were written. -/
theorem AcceptedAs.named_written (h : AcceptedAs ids lines d g options named built)
    (hwrites : g.Writes doc.units) :
    List.Forall₂ (fun e w => e = WrittenEntity.toEntity w e.id) named.entities doc.entities := by
  refine (forall₂_span h.namedFrom.read hwrites.blocks).imp ?_
  rintro e w ⟨b, hread, hblock⟩
  exact Except.ok.inj (hread.symm.trans (hblock.read e.id))

/-- The relationships are those that were written. -/
theorem AcceptedAs.related_written (h : AcceptedAs ids lines d g options named built)
    (hwrites : g.Writes doc.units) :
    List.Forall₂ (fun r w => r = WrittenRelationship.toRelationship w r.id) built.relationships
      doc.relationships := by
  refine (forall₂_span h.builtFrom.read hwrites.relationships).imp ?_
  rintro r w ⟨line, ⟨read, hread, hr⟩, hline⟩
  have hsame : read = w.toRelationshipLine :=
    Except.ok.inj (hread.symm.trans (w.readRelationshipLine_written hline))
  rw [hsame] at hr
  exact hr

theorem AcceptedAs.names_written (h : AcceptedAs ids lines d g options named built)
    (hwrites : g.Writes doc.units) : named.entities.map (·.name) = doc.entities.map (·.name) := by
  refine forall₂_map_eq_iff.mp ((h.named_written hwrites).imp ?_)
  intro e w he
  rw [he]
  rfl

theorem AcceptedAs.mentions_written (h : AcceptedAs ids lines d g options named built)
    (hwrites : g.Writes doc.units) :
    built.relationships.flatMap Relationship.names =
      doc.relationships.flatMap fun r => [r.first.name.text, r.second.name.text] := by
  rw [List.flatMap_def, List.flatMap_def]
  refine congrArg List.flatten (forall₂_map_eq_iff.mp ((h.related_written hwrites).imp ?_))
  intro r w hr
  rw [hr]
  rfl

/-- Behind the entities of the blocks stand bare ones for the undeclared names. -/
theorem AcceptedAs.entities_written (h : AcceptedAs ids lines d g options named built)
    (hwrites : g.Writes doc.units) :
    List.Forall₂ (fun (e : Entity) make => e = make e.id) built.entities
      (doc.entities.map (·.toEntity) ++ doc.undeclared.map bareEntity) := by
  obtain ⟨added, hentities, hbare, hnames⟩ := h.builtFrom.mentioned.exists_added h.namedFrom.nodup
  have hadded : added.map (·.name) = doc.undeclared := by
    rw [hnames, h.names_written hwrites, h.mentions_written hwrites]
    rfl
  rw [hentities, ← hadded]
  refine List.rel_append ?_ ?_
  · rw [List.forall₂_map_right_iff]
    exact h.named_written hwrites
  · rw [List.forall₂_map_right_iff, List.forall₂_map_right_iff, List.forall₂_same]
    exact hbare

/-- Under a fresh source of ids, the diagram is the one that was written. -/
theorem AcceptedAs.diagram_written (h : AcceptedAs {} lines d g doc.givenOptions named built)
    (hwrites : g.Writes doc.units) : d = doc.diagram := by
  have hentities : built.entities = doc.givenEntities := by
    refine eq_numberedFrom (h.entities_written hwrites) ?_
    simpa [IdSource.issued] using h.builtFrom.mentioned.numbered.given_eq
  have hrelationships : built.relationships = doc.givenRelationships := by
    have hids := h.builtFrom.numbered.given_eq
    rw [h.namedFrom.others] at hids
    refine eq_numberedFrom ?_ (by simpa [IdSource.issued] using hids)
    rw [List.forall₂_map_right_iff]
    exact h.related_written hwrites
  rw [h.diagram_eq, hentities, hrelationships, WrittenDocument.diagram]

end Accepted

/-! ## What the diagram shows -/

/-- All that is said of an entity but its id and its dependency. -/
def Entity.said (e : Entity) : Text × List Attribute × OptionMap := (e.name, e.attributes, e.options)

/-- All that is said of a relationship but its id and the dependencies of its sides. -/
def Relationship.said (r : Relationship) : Text × Text × Cardinality × VerbPhrase × OptionMap :=
  (r.first.name, r.second.name, r.cardinality, r.verb, r.options)

/-- The diagram shows every name, key mark, cardinality, phrase and value of the document as it was
written, in order. -/
structure Diagram.Shows (d : Diagram) (doc : WrittenDocument) : Prop where
  entities : d.entities.map Entity.said =
    (doc.entities.map fun e =>
      (e.name, e.attributes.map (·.toAttribute), givenOptions e.head.options)) ++
    doc.undeclared.map fun name => (name, [], OptionMap.ofNames OptionName.ofEntity)
  relationships : d.relationships.map Relationship.said =
    doc.relationships.map fun r =>
      (r.first.name.text, r.second.name.text, r.cardinality.toCardinality, givenVerb r.verb,
        givenOptions r.options)
  options : d.options = doc.givenOptions

/-- What does not depend on ids can be read off before there are any. -/
theorem map_numberedFrom {α β : Type} {f : α → β} {word : Text} {makes : List (Text → α)}
    (h : ∀ make ∈ makes, ∀ id, f (make id) = f (make [])) :
    ∀ n, (numberedFrom word n makes).map f = makes.map fun make => f (make []) := by
  induction makes with
  | nil => exact fun _ => rfl
  | cons make rest ih =>
    intro n
    have hrest := ih fun m hm => h m (List.mem_cons_of_mem _ hm)
    rw [numberedFrom, List.map_cons, List.map_cons, hrest, h make List.mem_cons_self]

theorem WrittenDocument.shows_diagram (doc : WrittenDocument) : doc.diagram.Shows doc := by
  constructor
  case entities =>
    have hsaid : ∀ make ∈ doc.entities.map (·.toEntity) ++ doc.undeclared.map bareEntity,
        ∀ id, (make id).said = (make []).said := by
      intro make hmake id
      rcases List.mem_append.mp hmake with hblock | hbare
      · obtain ⟨e, -, rfl⟩ := List.mem_map.mp hblock
        rfl
      · obtain ⟨name, -, rfl⟩ := List.mem_map.mp hbare
        rfl
    refine (propagate_map (fun _ => rfl) _ _).trans ((map_numberedFrom hsaid 1).trans ?_)
    rw [List.map_append, List.map_map, List.map_map]
    rfl
  case relationships =>
    have hsaid : ∀ make ∈ doc.relationships.map (·.toRelationship),
        ∀ id, (make id).said = (make []).said := by
      intro make hmake id
      obtain ⟨r, -, rfl⟩ := List.mem_map.mp hmake
      rfl
    refine (align_map (fun _ _ _ => rfl) _ _).trans ((map_numberedFrom hsaid 1).trans ?_)
    rw [List.map_map]
    rfl
  case options => rfl

/-- Whatever a document holds between its double quotes: written down, it is accepted, and its diagram
is the one that it means. -/
theorem readLines_written (c : Catalog) (doc : WrittenDocument) :
    (readLines c {} (doc.lines.map some)).result = .ok (.ok doc.diagram) ∧
      doc.diagram.Shows doc := by
  have htexts : (doc.lines.map some).map (fun l => l.getD []) = doc.lines := by
    rw [List.map_map]
    exact List.map_id _
  obtain ⟨g, hgroup, hwrites⟩ :=
    Grouping.ofLines_written (Line.map_text_ofTexts doc.lines)
  have hoptions := optionsRun_written hwrites.options
    (OptionMap.typedFor_ofNames OptionMap.nodup_ofDiagram)
  obtain ⟨named, hnamed⟩ := @blocksRun_written _ _ hwrites.blocks ⟨{}, []⟩ doc.nodup
  obtain ⟨built, hbuilt⟩ :=
    @relationshipsRun_written _ _ hwrites.relationships ⟨named.ids, named.entities, []⟩
  have haccepted : AcceptedAs {} (Line.ofTexts doc.lines)
      (inferredDiagram doc.givenOptions built.entities built.relationships) g doc.givenOptions named
      built := ⟨hgroup, hoptions, hnamed, hbuilt, rfl⟩
  refine ⟨?_, doc.shows_diagram⟩
  rw [← haccepted.diagram_written hwrites, readLines, htexts]
  exact readDocument_eq_diagram_iff.mpr ⟨g, doc.givenOptions, named, built, haccepted⟩

/-- A document of brackets, separators and marks between double quotes. -/
def crowdedDocument : WrittenDocument where
  units :=
    let name : QuotableName := ⟨"[a]* # b;".toList, by decide, by decide⟩
    [.options ⟨[⟨.title, .text "\x7d: c".toList, rfl, by decide⟩], by decide, by decide⟩,
      .entity ⟨⟨⟨name, true⟩, none⟩, [⟨name, true, false, none⟩], by decide⟩]
  nodup := by decide

example : crowdedDocument.lines =
    ["\x7btitle: \"\x7d: c\"\x7d".toList, "(\"[a]* # b;\")".toList, "*\"[a]* # b;\"".toList] := by
  decide

end ErDiagram

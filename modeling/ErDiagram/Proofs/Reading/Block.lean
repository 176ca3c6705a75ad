import ErDiagram.Proofs.Reading.Result
import ErDiagram.Reading.Block
import Mathlib.Data.List.Nodup

set_option autoImplicit false

/-!
# What grouping and blocks leave

Grouping sorts the lines of a document into its units, and an entity block is then read from its
attributes to its name.  Both are told here by the lines and by what they are read as.
-/

namespace ErDiagram

/-! ## The units of a document by the kinds of its lines

Grouping sorts lines into queues.  When it succeeds, the queue of global options, the names of the
blocks and the queue of relationships are the lines of the three kinds, in document order, and the
attribute lines of the blocks are attribute lines of the document. -/

/-- Numbering texts as lines keeps the texts. -/
theorem Line.map_text_ofTexts (texts : List Text) : (Line.ofTexts texts).map (·.text) = texts := by
  have hfrom : ∀ (texts : List Text) (n : Nat), (Line.numberFrom n texts).map (·.text) = texts := by
    intro texts
    induction texts with
    | nil => exact fun _ => rfl
    | cons t rest ih =>
      intro n
      rw [Line.numberFrom, List.map_cons, ih]
  exact hfrom texts 1

/-- The lines of one kind, in order. -/
def linesOfKind (kind : LineKind) (lines : List Line) : List Line :=
  lines.filter fun line => line.kind == kind

@[simp] theorem linesOfKind_nil (kind : LineKind) : linesOfKind kind [] = [] := rfl

theorem linesOfKind_cons (kind : LineKind) (line : Line) (rest : List Line) :
    linesOfKind kind (line :: rest) =
      if line.kind = kind then line :: linesOfKind kind rest else linesOfKind kind rest := by
  simp [linesOfKind, List.filter_cons]

theorem mem_linesOfKind {kind : LineKind} {line : Line} {lines : List Line} :
    line ∈ linesOfKind kind lines ↔ line ∈ lines ∧ line.kind = kind := by
  simp [linesOfKind]

/-- A mapped result comes from a result. -/
theorem Except.map_eq_ok_iff {ε α β : Type} {f : α → β} {x : Except ε α} {b : β} :
    x.map f = .ok b ↔ ∃ a, x = .ok a ∧ f a = b := by
  cases x with
  | error e => simp [Except.map]
  | ok a => simp [Except.map]

/-- Results with equal images are the same fault, or values with equal images. -/
theorem Except.cases_of_map_eq {ε α β γ : Type} {f : α → γ} {g : β → γ} {x : Except ε α}
    {y : Except ε β} (h : x.map f = y.map g) :
    (∃ e, x = .error e ∧ y = .error e) ∨ ∃ a b, x = .ok a ∧ y = .ok b ∧ f a = g b := by
  cases x with
  | error e =>
    cases y with
    | error e' => exact .inl ⟨e, rfl, congrArg Except.error (Except.error.inj h).symm⟩
    | ok b => cases h
  | ok a =>
    cases y with
    | error e' => cases h
    | ok b => exact .inr ⟨a, b, rfl, rfl, Except.ok.inj h⟩

namespace Grouping

/-- The queues are the lines of their kinds. -/
structure Sorts (g : Grouping) (lines : List Line) : Prop where
  options_eq : g.options = linesOfKind .globalOptions lines
  heads_eq : g.blocks.map (·.head) = linesOfKind .entityName lines
  relationships_eq : g.relationships = linesOfKind .relationship lines

theorem sorts_of_ofLinesFrom {lines : List Line} :
    ∀ {isOpen : Bool} {pending : List Line} {g : Grouping},
      ofLinesFrom isOpen lines = .ok (pending, g) → g.Sorts lines := by
  induction lines with
  | nil =>
    intro isOpen pending g h
    cases h
    exact ⟨rfl, rfl, rfl⟩
  | cons line rest ih =>
    intro isOpen pending g h
    -- each kind of line goes to its own queue, or to none
    cases hkind : line.kind with
    | blank | commentOnly =>
      simp only [ofLinesFrom, hkind] at h
      obtain ⟨hoptions, hheads, hrelationships⟩ := ih h
      constructor <;> simpa [linesOfKind_cons, hkind]
    | globalOptions | entityName | relationship =>
      simp only [ofLinesFrom, hkind] at h
      obtain ⟨⟨pending', g'⟩, hrest, heq⟩ := Except.map_eq_ok_iff.mp h
      cases heq
      obtain ⟨hoptions, hheads, hrelationships⟩ := ih hrest
      constructor <;> simpa [linesOfKind_cons, hkind]
    | entityAttribute =>
      simp only [ofLinesFrom, hkind] at h
      split at h
      · obtain ⟨⟨pending', g'⟩, hrest, heq⟩ := Except.map_eq_ok_iff.mp h
        cases heq
        obtain ⟨hoptions, hheads, hrelationships⟩ := ih hrest
        constructor <;> simpa [linesOfKind_cons, hkind]
      · cases h
    | unknown =>
      simp only [ofLinesFrom, hkind] at h
      cases h

/-- When grouping succeeds, the queues are the lines of their kinds, in document order. -/
theorem sorts_of_ofLines {lines : List Line} {g : Grouping} (h : ofLines lines = .ok g) :
    g.Sorts lines := by
  obtain ⟨⟨pending, g'⟩, hfrom, rfl⟩ := Except.map_eq_ok_iff.mp h
  exact sorts_of_ofLinesFrom hfrom

/-- Attribute lines are put to the open block. -/
theorem ofLinesFrom_attributes {attributes : List Line}
    (hkind : ∀ line ∈ attributes, line.kind = .entityAttribute) (rest : List Line) :
    ofLinesFrom true (attributes ++ rest) =
      (ofLinesFrom true rest).map fun r => (attributes ++ r.1, r.2) := by
  induction attributes with
  | nil =>
    rw [List.nil_append]
    cases ofLinesFrom true rest <;> rfl
  | cons line attributes ih =>
    have hrest := ih fun l hl => hkind l (List.mem_cons_of_mem _ hl)
    rw [List.cons_append, ofLinesFrom, hkind line List.mem_cons_self]
    simp only [if_true, hrest]
    cases ofLinesFrom true rest <;> rfl

end Grouping

/-! ## What an accepted block holds

An entity block is accepted exactly if its attribute lines are read as attributes of distinct names
and its first line as the head of the entity. -/

/-- What an attribute line says about an attribute. -/
def Attribute.toLine (a : Attribute) : AttributeLine :=
  ⟨a.name, a.isPrimaryKey, a.isForeignKey, a.options⟩

/-- The line is read as the attribute. -/
def ReadsAttribute (line : Line) (a : Attribute) : Prop :=
  (readAttributeLine line).result = .ok a.toLine

theorem readsAttribute_mk {line : Line} {read : AttributeLine} :
    ReadsAttribute line ⟨read.name, read.isPrimaryKey, read.isForeignKey, read.options⟩ ↔
      (readAttributeLine line).result = .ok read :=
  Iff.rfl

/-- Attribute lines are read behind other attributes exactly if each is read as an attribute and the
names of all of them are distinct. -/
theorem readAttributes_eq_ok {lines : List Line} :
    ∀ {before all : List Attribute}, (before.map (·.name)).Nodup →
      ((readAttributes before lines).result = .ok all ↔
        ∃ added, all = before ++ added ∧ List.Forall₂ ReadsAttribute lines added ∧
          (all.map (·.name)).Nodup) := by
  induction lines with
  | nil =>
    intro before all hbefore
    simp only [readAttributes, Reading.pure_result, Except.ok.injEq, List.forall₂_nil_left_iff]
    constructor
    · rintro rfl
      exact ⟨[], by simp, rfl, hbefore⟩
    · rintro ⟨added, hall, rfl, -⟩
      simpa using hall.symm
  | cons line rest ih =>
    intro before all hbefore
    have hnew : ∀ name : Text,
        (if before.any (fun a => a.name == name) then some (Cause.duplicateAttrName name) else none) =
          none ↔ name ∉ before.map (·.name) := by
      intro name
      simp [List.mem_map]
    have hnodup : ∀ a : Attribute, a.name ∉ before.map (·.name) →
        ((before ++ [a]).map (·.name)).Nodup := by
      intro a ha
      rw [List.map_append, List.nodup_append]
      refine ⟨hbefore, by simp, ?_⟩
      simp only [List.map_cons, List.map_nil, List.mem_singleton]
      rintro x hx y rfl rfl
      exact ha hx
    simp only [readAttributes, Reading.bind_eq_ok, Reading.refuse_eq_ok, hnew]
    constructor
    · rintro ⟨read, hread, _, hfresh, hrest⟩
      obtain ⟨added, rfl, hadded, hall⟩ := (ih (hnodup _ hfresh)).mp hrest
      exact ⟨_ :: added, by simp, .cons (readsAttribute_mk.mpr hread) hadded, hall⟩
    · rintro ⟨added, rfl, hadded, hall⟩
      obtain ⟨a, added', hline, hrest, rfl⟩ := List.forall₂_cons_left_iff.mp hadded
      have hfresh : a.name ∉ before.map (·.name) := by
        intro hmem
        rw [List.map_append, List.nodup_append] at hall
        exact hall.2.2 _ hmem _ (by simp) rfl
      refine ⟨a.toLine, hline, (), hfresh, ?_⟩
      exact (ih (hnodup a hfresh)).mpr ⟨added', by simp, hrest, hall⟩

/-- A block is read as an entity exactly if its attribute lines are read as the attributes, whose
names are distinct, and its first line as the rest of the entity. -/
theorem Block.read_eq_ok {b : Block} {id : Text} {e : Entity} :
    (b.read id).result = .ok e ↔
      e.id = id ∧ List.Forall₂ ReadsAttribute b.attributes e.attributes ∧
        (e.attributes.map (·.name)).Nodup ∧
        (readEntityLine b.head).result = .ok ⟨e.name, e.dependency, e.options⟩ := by
  simp only [Block.read, Reading.bind_eq_ok, Reading.pure_result, Except.ok.injEq,
    @readAttributes_eq_ok b.attributes [] _ List.nodup_nil, List.nil_append]
  constructor
  · rintro ⟨attributes, ⟨added, rfl, hadded, hnodup⟩, head, hhead, rfl⟩
    exact ⟨rfl, hadded, hnodup, hhead⟩
  · rintro ⟨rfl, hattributes, hnodup, hhead⟩
    exact ⟨_, ⟨_, rfl, hattributes, hnodup⟩, _, hhead, rfl⟩

/-- One line is read as a relationship exactly if it is read as a relationship line. -/
theorem readRelationship_eq_ok {line : Line} {id : Text} {r : Relationship} :
    (readRelationship [line] id).result = .ok r ↔
      ∃ read, (readRelationshipLine line).result = .ok read ∧ r = read.toRelationship id := by
  simp only [readRelationship, Reading.bind_eq_ok, Reading.pure_result, Except.ok.injEq,
    @eq_comm _ r]

end ErDiagram

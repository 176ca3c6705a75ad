import ErDiagram.Proofs.Notation.Body
import ErDiagram.Proofs.Collection
import ErDiagram.Proofs.Reading.Block
import ErDiagram.Proofs.Reading.Judge
import ErDiagram.Proofs.Reading.OptionList

set_option autoImplicit false

/-!
# Lines that say the same are read alike

A reader takes nothing from a line but its body, and puts the line on its fault.  So lines that say the
same are read alike: with the same result, or with the same cause on either line.  From the readers this
goes to the steps of the stages, and from one step to all units of a stage: their faults are alike, and
the state behind them is the same.  Grouping agrees too, and looks only at the lines that are neither
passed over nor global options.  In the end two documents whose lines say the same have the same diagram,
or the same reports on lines that correspond.
-/

namespace ErDiagram

/-- Two results are both faults or both values, and in either case related. -/
inductive ExceptRel {ε ε' α α' : Type} (E : ε → ε' → Prop) (A : α → α' → Prop) :
    Except ε α → Except ε' α' → Prop where
  | error {e : ε} {e' : ε'} (h : E e e') : ExceptRel E A (.error e) (.error e')
  | ok {a : α} {a' : α'} (h : A a a') : ExceptRel E A (.ok a) (.ok a')

theorem ExceptRel.cases {ε ε' α α' : Type} {E : ε → ε' → Prop} {A : α → α' → Prop}
    {x : Except ε α} {y : Except ε' α'} (h : ExceptRel E A x y) :
    (∃ e e', x = .error e ∧ y = .error e' ∧ E e e') ∨ ∃ a a', x = .ok a ∧ y = .ok a' ∧ A a a' := by
  cases h with
  | error h => exact .inl ⟨_, _, rfl, rfl, h⟩
  | ok h => exact .inr ⟨_, _, rfl, rfl, h⟩

theorem ExceptRel.map {ε ε' α α' β β' : Type} {E : ε → ε' → Prop} {A : α → α' → Prop}
    {B : β → β' → Prop} {f : α → β} {g : α' → β'} {x : Except ε α} {y : Except ε' α'}
    (h : ExceptRel E A x y) (hvalue : ∀ a a', A a a' → B (f a) (g a')) :
    ExceptRel E B (x.map f) (y.map g) := by
  cases h with
  | error h => exact .error h
  | ok h => exact .ok (hvalue _ _ h)

/-- Lines that correspond say the same: they have the same body and are of the same kind. -/
structure SaysSame (R : Line → Line → Prop) : Prop where
  body_eq : ∀ {line line' : Line}, R line line' → line.body = line'.body
  kind_eq : ∀ {line line' : Line}, R line line' → line.kind = line'.kind

section Readers

variable {R : Line → Line → Prop} {α β : Type} {line line' : Line} {lines lines' : List Line}

/-! ## Faults and results -/

/-- The same fault, on lines that correspond. -/
inductive ReadFault.Alike (R : Line → Line → Prop) : ReadFault → ReadFault → Prop where
  | cause (c : Cause) {line line' : Line} (h : R line line') :
      Alike R (.cause c (some line)) (.cause c (some line'))
  | option (fault : OptionFault) : Alike R (.option fault) (.option fault)

/-- The same result, or the same fault on lines that correspond. -/
def Reading.Alike (R : Line → Line → Prop) (r r' : Reading α) : Prop :=
  ExceptRel (ReadFault.Alike R) Eq r.result r'.result

namespace Reading

theorem alike_pure (R : Line → Line → Prop) (a : α) : Alike R (pure a) (pure a : Reading α) :=
  .ok rfl

theorem alike_done (R : Line → Line → Prop) (a : α) : Alike R (done a) (done a) :=
  .ok rfl

theorem alike_fail (h : R line line') (c : Cause) :
    Alike R (fail (.cause c (some line)) : Reading α) (fail (.cause c (some line'))) :=
  .error (.cause c h)

theorem alike_on (h : R line line') (x : Except Cause α) :
    Alike R (on (some line) x) (on (some line') x) := by
  cases x with
  | error c => exact alike_fail h c
  | ok a => exact alike_done R a

theorem alike_refuse (h : R line line') (cause : Option Cause) :
    Alike R (refuse (some line) cause) (refuse (some line') cause) := by
  cases cause with
  | none => exact alike_done R ()
  | some c => exact alike_fail h c

theorem Alike.bind {r r' : Reading α} {next next' : α → Reading β} (h : Alike R r r')
    (hnext : ∀ a, Alike R (next a) (next' a)) : Alike R (r >>= next) (r' >>= next') := by
  unfold Alike
  rw [bind_result, bind_result]
  rcases ExceptRel.cases h with ⟨fault, fault', hr, hr', hfault⟩ | ⟨a, _, hr, hr', rfl⟩
  · rw [hr, hr']
    exact .error hfault
  · rw [hr, hr']
    exact hnext a

end Reading

open Reading (alike_pure alike_done alike_fail alike_on alike_refuse)

/-! ## Option lists -/

theorem alike_recordIgnored (line line' : Line) (keys : List Text) :
    Reading.Alike R (recordIgnored (some line) keys) (recordIgnored (some line') keys) := by
  unfold Reading.Alike
  rw [recordIgnored_result, recordIgnored_result]
  exact .ok rfl

theorem alike_layValues (base : OptionMap) (values : List (OptionName × OptionValue)) :
    Reading.Alike R (layValues base values) (layValues base values) := by
  unfold layValues
  split
  · exact alike_done R _
  · exact .error (.option _)

theorem alike_applyOptions (h : R line line') (raw : List (Text × Text)) (allowed : List OptionName)
    (base : OptionMap) :
    Reading.Alike R (applyOptions raw allowed base (some line))
      (applyOptions raw allowed base (some line')) := by
  refine (alike_recordIgnored line line' _).bind fun _ => (alike_on h _).bind fun values => ?_
  exact alike_layValues base values

theorem alike_readOptions (h : R line line') (t : Text) (allowed : List OptionName) :
    Reading.Alike R (readOptions t allowed (some line)) (readOptions t allowed (some line')) :=
  (alike_on h _).bind fun raw => alike_applyOptions h raw allowed _

theorem alike_readOptionPart (h : R line line') (t : Text) (allowed : List OptionName) :
    Reading.Alike R (readOptionPart t allowed line) (readOptionPart t allowed line') := by
  unfold readOptionPart
  split
  · exact alike_done R _
  · split
    · exact alike_fail h _
    · exact alike_readOptions h _ allowed

/-! ## Lines -/

variable (hR : SaysSame R)
include hR

theorem alike_readGlobalOptions (h : R line line') (base : OptionMap) :
    Reading.Alike R (readGlobalOptions base line) (readGlobalOptions base line') := by
  unfold readGlobalOptions
  rw [hR.body_eq h]
  exact (alike_on h _).bind fun raw => alike_applyOptions h raw _ base

theorem alike_readEntityLine (h : R line line') :
    Reading.Alike R (readEntityLine line) (readEntityLine line') := by
  unfold readEntityLine
  rw [Line.entityParts_eq_of_body_eq (hR.body_eq h)]
  refine (alike_on h _).bind fun _ => (alike_on h _).bind fun named => ?_
  refine (alike_on h _).bind fun _ => (alike_readOptionPart h _ _).bind fun options => ?_
  exact (alike_on h _).bind fun _ => alike_pure R _

theorem alike_readAttributeLine (h : R line line') :
    Reading.Alike R (readAttributeLine line) (readAttributeLine line') := by
  unfold readAttributeLine
  rw [Line.attributeParts_eq_of_body_eq (hR.body_eq h)]
  refine (alike_on h _).bind fun named => (alike_readOptionPart h _ _).bind fun options => ?_
  exact (alike_on h _).bind fun _ => alike_pure R _

theorem alike_readRelationshipLine (h : R line line') :
    Reading.Alike R (readRelationshipLine line) (readRelationshipLine line') := by
  unfold readRelationshipLine
  rw [Line.relationshipParts_eq_of_body_eq (hR.body_eq h)]
  refine (alike_on h _).bind fun _ => (alike_on h _).bind fun first => ?_
  refine (alike_on h _).bind fun cardinality => (alike_on h _).bind fun second => ?_
  refine (alike_on h _).bind fun _ => (alike_on h _).bind fun verb => (alike_on h _).bind fun _ => ?_
  refine (alike_readOptionPart h _ _).bind fun options => (alike_on h _).bind fun _ => ?_
  exact (alike_refuse h _).bind fun _ => alike_pure R _

/-! ## Blocks and relationships -/

omit hR in
/-- Blocks whose lines correspond, one by one. -/
structure Block.Alike (R : Line → Line → Prop) (b b' : Block) : Prop where
  head : R b.head b'.head
  attributes : List.Forall₂ R b.attributes b'.attributes

theorem alike_readAttributes (h : List.Forall₂ R lines lines') : ∀ before : List Attribute,
    Reading.Alike R (readAttributes before lines) (readAttributes before lines') := by
  induction h with
  | nil => exact fun before => alike_pure R before
  | cons hline _ ih =>
    intro before
    refine (alike_readAttributeLine hR hline).bind fun read => ?_
    exact (alike_refuse hline _).bind fun _ => ih _

theorem Block.Alike.read {b b' : Block} (h : b.Alike R b') (id : Text) :
    Reading.Alike R (b.read id) (b'.read id) := by
  refine (alike_readAttributes hR h.attributes []).bind fun attributes => ?_
  exact (alike_readEntityLine hR h.head).bind fun head => alike_pure R _

theorem alike_readRelationship (h : R line line') (id : Text) :
    Reading.Alike R (readRelationship [line] id) (readRelationship [line'] id) :=
  (alike_readRelationshipLine hR h).bind fun _ => alike_pure R _

end Readers

/-! ## Steps -/

/-- The same state behind a unit, and the same fault on lines that correspond, or none. -/
structure StageStep.Alike {σ : Type} (R : Line → Line → Prop) (x y : StageStep σ) : Prop where
  state_eq : x.state = y.state
  fault : Option.Rel (ReadFault.Alike R) x.fault y.fault

section Steps

variable {R : Line → Line → Prop} {line line' : Line} (hR : SaysSame R)
include hR

theorem alike_stepOptions (h : R line line') (m : OptionMap) :
    (stepOptions m line).Alike R (stepOptions m line') := by
  have halike := alike_readGlobalOptions hR h m
  unfold stepOptions
  generalize readGlobalOptions m line = r at halike ⊢
  generalize readGlobalOptions m line' = r' at halike ⊢
  obtain ⟨log, result⟩ := r
  obtain ⟨log', result'⟩ := r'
  change ExceptRel (ReadFault.Alike R) Eq result result' at halike
  cases halike with
  | error hfault => exact ⟨rfl, .some hfault⟩
  | ok hread =>
    subst hread
    exact ⟨rfl, .none⟩

theorem alike_stepBlock {b b' : Block} (h : b.Alike R b') (s : EntityStage) :
    (stepBlock s b).Alike R (stepBlock s b') := by
  have halike := h.read hR s.ids.nextEntity.1
  unfold stepBlock
  generalize b.read s.ids.nextEntity.1 = r at halike ⊢
  generalize b'.read s.ids.nextEntity.1 = r' at halike ⊢
  obtain ⟨log, result⟩ := r
  obtain ⟨log', result'⟩ := r'
  change ExceptRel (ReadFault.Alike R) Eq result result' at halike
  cases halike with
  | error hfault => exact ⟨rfl, .some hfault⟩
  | @ok e e' hread =>
    subst hread
    by_cases hname : hasEntity s.entities e.name = true
    · simp only [hname, if_true]
      exact ⟨rfl, .some (.cause _ h.head)⟩
    · simp only [hname, Bool.false_eq_true, if_false]
      exact ⟨rfl, .none⟩

theorem alike_stepRelationship (h : R line line') (s : RelationshipStage) :
    (stepRelationship s line).Alike R (stepRelationship s line') := by
  have halike := alike_readRelationship hR h s.ids.nextRelationship.1
  unfold stepRelationship
  generalize readRelationship [line] s.ids.nextRelationship.1 = r at halike ⊢
  generalize readRelationship [line'] s.ids.nextRelationship.1 = r' at halike ⊢
  obtain ⟨log, result⟩ := r
  obtain ⟨log', result'⟩ := r'
  change ExceptRel (ReadFault.Alike R) Eq result result' at halike
  cases halike with
  | error hfault => exact ⟨rfl, .some hfault⟩
  | ok hread =>
    subst hread
    exact ⟨rfl, .none⟩

end Steps

/-! ## Reports -/

/-- The same error in the same words, on lines that correspond. -/
structure Report.Alike (R : Line → Line → Prop) (r r' : Report) : Prop where
  kind_eq : r.kind = r'.kind
  description_eq : r.description = r'.description
  params_eq : r.params = r'.params
  lineLabel_eq : r.lineLabel = r'.lineLabel
  line : ∃ line line', r.line = some line ∧ r'.line = some line' ∧ R line line'

/-- Faults that are alike cannot be worded for the same reason, or have reports that are alike. -/
theorem ReadFault.Alike.describe {R : Line → Line → Prop} {fault fault' : ReadFault}
    (h : fault.Alike R fault') (c : Catalog) :
    ExceptRel Eq (Report.Alike R) (c.describe fault) (c.describe fault') := by
  cases h with
  | option fault => exact .error rfl
  | @cause cause line line' hline =>
    cases hword : c.word cause.kind (cause.params c) with
    | error fault =>
      simp only [Catalog.describe, Catalog.report, hword]
      exact .error rfl
    | ok description =>
      simp only [Catalog.describe, Catalog.report, hword]
      exact .ok ⟨rfl, rfl, rfl, rfl, line, line', rfl, rfl, hline⟩

/-- Faults that are alike, one by one, are worded alike: the first one that cannot be worded is in the same
place. -/
theorem alike_describe {R : Line → Line → Prop} {faults faults' : List ReadFault}
    (h : List.Forall₂ (ReadFault.Alike R) faults faults') (c : Catalog) :
    ExceptRel Eq (List.Forall₂ (Report.Alike R)) (faults.mapM c.describe)
      (faults'.mapM c.describe) := by
  induction h with
  | nil => exact .ok .nil
  | @cons fault fault' faults faults' hfault _ ih =>
    rw [List.mapM_cons, List.mapM_cons]
    rcases (hfault.describe c).cases with
      ⟨cause, _, hhalt, hhalt', rfl⟩ | ⟨r, r', hreport, hreport', hr⟩
    · rw [hhalt, hhalt']
      exact .error rfl
    · rw [hreport, hreport']
      exact ih.map fun _ _ hrest => .cons hr hrest

namespace Stage

variable {σ α β : Type} {R : Line → Line → Prop}
  {step : σ → α → StageStep σ} {step' : σ → β → StageStep σ} {units : List α} {units' : List β}
  (h : List.Forall₂ (fun u u' => ∀ s, (step s u).Alike R (step' s u')) units units')
include h

/-- Past units whose steps are alike in every state, the faults are alike, and the state is the same. -/
theorem alike_faultsFrom : ∀ s,
    List.Forall₂ (ReadFault.Alike R) (faultsFrom step s units) (faultsFrom step' s units') ∧
      behind step s units = behind step' s units' := by
  induction h with
  | nil => exact fun s => ⟨.nil, rfl⟩
  | @cons u u' units units' hunit _ ih =>
    intro s
    obtain ⟨hstate, hfault⟩ := hunit s
    obtain ⟨hfaults, hbehind⟩ := ih (step s u).state
    rw [faultsFrom, faultsFrom, behind, behind, ← hstate]
    generalize (step s u).fault = fault at hfault
    generalize (step' s u').fault = fault' at hfault
    cases hfault with
    | none => exact ⟨hfaults, hbehind⟩
    | some hfault => exact ⟨.cons hfault hfaults, hbehind⟩

/-- A run stays clean past units whose steps are alike, and leads to the same state. -/
theorem CleanRun.alike {s s' : σ} (hrun : CleanRun step s units s') :
    CleanRun step' s units' s' := by
  obtain ⟨hnone, rfl⟩ := cleanRun_iff.mp hrun
  obtain ⟨hfaults, hbehind⟩ := alike_faultsFrom h s
  rw [hnone] at hfaults
  exact cleanRun_iff.mpr ⟨List.forall₂_nil_left_iff.mp hfaults, hbehind.symm⟩

/-- Stages that are alike find the same, if what follows them does. -/
theorem alike_judge {γ : Type} (s : σ) {next next' : σ → Except (List ReadFault) γ}
    (hnext : ∀ s, ExceptRel (List.Forall₂ (ReadFault.Alike R)) Eq (next s) (next' s)) :
    ExceptRel (List.Forall₂ (ReadFault.Alike R)) Eq (judge step s units next)
      (judge step' s units' next') := by
  obtain ⟨hfaults, hbehind⟩ := alike_faultsFrom h s
  unfold judge
  rw [← hbehind]
  generalize faultsFrom step s units = faults at hfaults
  generalize faultsFrom step' s units' = faults' at hfaults
  cases hfaults with
  | nil => exact hnext _
  | cons hfault hrest => exact .error (.cons hfault hrest)

end Stage

/-! ## Grouping -/

/-- The kind of a line that counts among those that form blocks and relationships: the line is not
passed over and holds no global options. -/
def LineKind.isPlaced : LineKind → Bool
  | .blank | .commentOnly | .globalOptions => false
  | _ => true

/-- The line counts among those that form blocks and relationships. -/
def Line.isPlaced (line : Line) : Bool := line.kind.isPlaced

/-- The lines that form blocks and relationships. -/
def placedLines (lines : List Line) : List Line := lines.filter Line.isPlaced

theorem placedLines_cons (line : Line) (rest : List Line) :
    placedLines (line :: rest) =
      if line.isPlaced = true then line :: placedLines rest else placedLines rest := by
  rw [placedLines, List.filter_cons, placedLines]

/-- Grouping takes the global options out of the lines and puts together the others as if they stood
alone. -/
theorem Grouping.ofLinesFrom_eq (lines : List Line) : ∀ isOpen : Bool,
    ofLinesFrom isOpen lines = (ofLinesFrom isOpen (placedLines lines)).map fun r =>
      (r.1, { r.2 with options := linesOfKind .globalOptions lines }) := by
  induction lines with
  | nil => exact fun _ => rfl
  | cons line rest ih =>
    intro isOpen
    rw [placedLines_cons, linesOfKind_cons, Line.isPlaced]
    cases hkind : line.kind with
    | blank | commentOnly =>
      simp only [ofLinesFrom, hkind, LineKind.isPlaced, Bool.false_eq_true, if_false, reduceCtorEq]
      exact ih isOpen
    | globalOptions =>
      simp only [ofLinesFrom, hkind, LineKind.isPlaced, Bool.false_eq_true, if_false, if_true, ih isOpen]
      cases ofLinesFrom isOpen (placedLines rest) <;> rfl
    | entityName =>
      simp only [ofLinesFrom, hkind, LineKind.isPlaced, if_true, if_false, reduceCtorEq, ih true]
      cases ofLinesFrom true (placedLines rest) <;> rfl
    | entityAttribute =>
      simp only [ofLinesFrom, hkind, LineKind.isPlaced, if_true, if_false, reduceCtorEq, ih true]
      cases isOpen with
      | false => rfl
      | true => cases ofLinesFrom true (placedLines rest) <;> rfl
    | relationship =>
      simp only [ofLinesFrom, hkind, LineKind.isPlaced, if_true, if_false, reduceCtorEq, ih false]
      cases ofLinesFrom false (placedLines rest) <;> rfl
    | unknown =>
      simp only [ofLinesFrom, hkind, LineKind.isPlaced, if_true, if_false, reduceCtorEq]
      rfl

/-- The same reason why a line does not fit, on lines that correspond. -/
structure GroupingFault.Alike (R : Line → Line → Prop) (fault fault' : GroupingFault) : Prop where
  cause_eq : fault.cause = fault'.cause
  line : R fault.line fault'.line

/-- Units whose lines correspond, one by one. -/
structure Grouping.Alike (R : Line → Line → Prop) (g g' : Grouping) : Prop where
  options : List.Forall₂ R g.options g'.options
  blocks : List.Forall₂ (Block.Alike R) g.blocks g'.blocks
  relationships : List.Forall₂ R g.relationships g'.relationships

/-- The units, and in front of them the attributes of the block that is open already. -/
structure GroupedAlike (R : Line → Line → Prop) (r r' : List Line × Grouping) : Prop where
  pending : List.Forall₂ R r.1 r'.1
  units : r.2.Alike R r'.2

section Documents

variable {R : Line → Line → Prop} (hR : SaysSame R) {lines lines' : List Line}
include hR

/-- Lines that correspond, one by one, are grouped into units that correspond, or the first line that
does not fit corresponds to the other first one. -/
theorem alike_ofLinesFrom (h : List.Forall₂ R lines lines') : ∀ isOpen : Bool,
    ExceptRel (GroupingFault.Alike R) (GroupedAlike R) (Grouping.ofLinesFrom isOpen lines)
      (Grouping.ofLinesFrom isOpen lines') := by
  induction h with
  | nil => exact fun _ => .ok ⟨.nil, .nil, .nil, .nil⟩
  | @cons line line' lines lines' hline _ ih =>
    intro isOpen
    have hkind := hR.kind_eq hline
    rw [Grouping.ofLinesFrom, Grouping.ofLinesFrom, ← hkind]
    cases line.kind with
    | blank | commentOnly => exact ih isOpen
    | globalOptions =>
      refine (ih isOpen).map fun r r' hr => ?_
      exact ⟨hr.pending, .cons hline hr.units.options, hr.units.blocks, hr.units.relationships⟩
    | entityName =>
      refine (ih true).map fun r r' hr => ?_
      exact ⟨.nil, hr.units.options, .cons ⟨hline, hr.pending⟩ hr.units.blocks,
        hr.units.relationships⟩
    | entityAttribute =>
      cases isOpen with
      | false => exact .error ⟨rfl, hline⟩
      | true => exact (ih true).map fun r r' hr => ⟨.cons hline hr.pending, hr.units⟩
    | relationship =>
      refine (ih false).map fun r r' hr => ?_
      exact ⟨hr.pending, hr.units.options, hr.units.blocks, .cons hline hr.units.relationships⟩
    | unknown => exact .error ⟨rfl, hline⟩

/-- For the units of a document it is enough that the global options correspond among themselves, and
the lines that form blocks and relationships among themselves. -/
theorem alike_ofLines
    (hoptions : List.Forall₂ R (linesOfKind .globalOptions lines) (linesOfKind .globalOptions lines'))
    (hplaced : List.Forall₂ R (placedLines lines) (placedLines lines')) :
    ExceptRel (GroupingFault.Alike R) (Grouping.Alike R) (Grouping.ofLines lines)
      (Grouping.ofLines lines') := by
  rw [Grouping.ofLines, Grouping.ofLinesFrom_eq lines, Grouping.ofLines,
    Grouping.ofLinesFrom_eq lines']
  have hgrouped : ExceptRel (GroupingFault.Alike R) (GroupedAlike R)
      ((Grouping.ofLinesFrom false (placedLines lines)).map fun r =>
        (r.1, { r.2 with options := linesOfKind .globalOptions lines }))
      ((Grouping.ofLinesFrom false (placedLines lines')).map fun r =>
        (r.1, { r.2 with options := linesOfKind .globalOptions lines' })) :=
    (alike_ofLinesFrom hR hplaced false).map fun r r' hr =>
      ⟨hr.pending, hoptions, hr.units.blocks, hr.units.relationships⟩
  exact hgrouped.map fun _ _ hr => hr.units

/-! ## Documents -/

omit hR in
/-- Two documents halt for the same reason, have reports that are alike, or have the same diagram. -/
def OutcomeAlike (R : Line → Line → Prop) (x y : Except Halt (Except (List Report) Diagram)) : Prop :=
  ExceptRel Eq (ExceptRel (List.Forall₂ (Report.Alike R)) Eq) x y

/-- Documents are found to be alike if their global options correspond, and the lines that form blocks
and relationships correspond. -/
theorem alike_judgeDocument
    (hoptions : List.Forall₂ R (linesOfKind .globalOptions lines) (linesOfKind .globalOptions lines'))
    (hplaced : List.Forall₂ R (placedLines lines) (placedLines lines')) (ids : IdSource) :
    ExceptRel (List.Forall₂ (ReadFault.Alike R)) Eq (judgeDocument ids lines)
      (judgeDocument ids lines') := by
  unfold judgeDocument
  rcases (alike_ofLines hR hoptions hplaced).cases with
    ⟨fault, fault', hfault, hfault', hcause, hline⟩ | ⟨g, g', hg, hg', hunits⟩
  · rw [hfault, hfault']
    exact .error (.cons (hcause ▸ .cause fault.cause hline) .nil)
  · rw [hg, hg']
    apply Stage.alike_judge (hunits.options.imp fun _ _ hline => alike_stepOptions hR hline)
    intro options
    apply Stage.alike_judge (hunits.blocks.imp fun _ _ hblock => alike_stepBlock hR hblock)
    intro named
    apply Stage.alike_judge
      (hunits.relationships.imp fun _ _ hline => alike_stepRelationship hR hline)
    intro built
    exact .ok rfl

/-- Documents are then read alike. -/
theorem alike_readDocument
    (hoptions : List.Forall₂ R (linesOfKind .globalOptions lines) (linesOfKind .globalOptions lines'))
    (hplaced : List.Forall₂ R (placedLines lines) (placedLines lines')) (c : Catalog)
    (ids : IdSource) :
    OutcomeAlike R (readDocument c ids lines).result (readDocument c ids lines').result := by
  rw [readDocument_eq_worded, readDocument_eq_worded]
  rcases (alike_judgeDocument hR hoptions hplaced ids).cases with
    ⟨faults, faults', hjudge, hjudge', hfaults⟩ | ⟨d, _, hjudge, hjudge', rfl⟩
  · rw [hjudge, hjudge']
    exact (alike_describe hfaults c).map fun _ _ hreports => .error hreports
  · rw [hjudge, hjudge']
    exact .ok (.ok rfl)

end Documents

end ErDiagram

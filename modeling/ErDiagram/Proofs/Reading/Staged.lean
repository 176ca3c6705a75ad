import ErDiagram.Proofs.Message.English
import ErDiagram.Proofs.Reading.Agreement
import ErDiagram.Proofs.Reading.Blocks

set_option autoImplicit false

/-!
# Which errors a document is reported to have

In English every error can be worded, so every document is either accepted or rejected with reports.
The reports belong to one stage: the first line that does not fit, or each line of global options that
cannot be read, or each entity block that cannot be read or has the name of a block before it, or each
relationship that cannot be read.  They come in the order of the lines that they show.
-/

namespace ErDiagram

open Stage (CleanRun Run)

/-! ## What is wrong with a unit -/

/-- A line of global options is wrong if it cannot be read over the defaults, whatever stands before
it. -/
def OptionFails (_ : List Line) (line : Line) (fault : ReadFault) : Prop :=
  (readGlobalOptions (OptionMap.ofNames OptionName.ofDiagram) line).result = .error fault

/-- Some block is read as an entity of this name. -/
def ReadAsName (blocks : List Block) (name : Text) : Prop :=
  ∃ b ∈ blocks, ∃ e, (b.read []).result = .ok e ∧ e.name = name

/-- An entity block is wrong if it cannot be read, or if a block before it is read under its name. -/
def BlockFails (before : List Block) (b : Block) (fault : ReadFault) : Prop :=
  (b.read []).result = .error fault ∨
    ∃ e, (b.read []).result = .ok e ∧ ReadAsName before e.name ∧
      fault = .cause (.duplicateEntityName e.name) (some b.head)

/-- A relationship line is wrong if it cannot be read. -/
def RelationshipFails (_ : List Line) (line : Line) (fault : ReadFault) : Prop :=
  (readRelationshipLine line).result = .error fault

/-- The reports are one for each unit that fails behind those before it, in order. -/
inductive Itemizes {α : Type} (c : Catalog) (Fails : List α → α → ReadFault → Prop) :
    List α → List α → List Report → Prop where
  | nil (before : List α) : Itemizes c Fails before [] []
  | pass {before : List α} {unit : α} {rest : List α} {reports : List Report}
      (hpass : ∀ fault, ¬ Fails before unit fault)
      (hrest : Itemizes c Fails (before ++ [unit]) rest reports) :
      Itemizes c Fails before (unit :: rest) reports
  | report {before : List α} {unit : α} {rest : List α} {reports : List Report} {fault : ReadFault}
      {r : Report} (hfails : Fails before unit fault) (hreport : c.describe fault = .ok r)
      (hrest : Itemizes c Fails (before ++ [unit]) rest reports) :
      Itemizes c Fails before (unit :: rest) (r :: reports)

section Itemizes

variable {σ α : Type} {c : Catalog} {step : σ → α → StageStep σ}
  {Fails : List α → α → ReadFault → Prop}

/-- A run itemizes what fails, if the state that it keeps tells which units fail. -/
theorem Itemizes.of_run {P : List α → σ → Prop} {s s' : σ} {units : List α} {reports : List Report}
    (hrun : Run c step s units reports s')
    (hstep : ∀ before s, P before s → ∀ unit ∈ units, P (before ++ [unit]) (step s unit).state ∧
      ∀ fault, (step s unit).fault = some fault ↔ Fails before unit fault) :
    ∀ before, P before s → Itemizes c Fails before units reports := by
  induction hrun with
  | nil s => exact fun before _ => .nil before
  | @pass s s' unit rest reports hfault _ ih =>
    intro before hbefore
    obtain ⟨hnext, hfails⟩ := hstep before s hbefore unit List.mem_cons_self
    refine .pass ?_ (ih (fun b t ht u hu => hstep b t ht u (List.mem_cons_of_mem _ hu)) _ hnext)
    intro fault h
    rw [(hfails fault).mpr h] at hfault
    cases hfault
  | @report s s' unit rest reports fault r hfault hreport _ ih =>
    intro before hbefore
    obtain ⟨hnext, hfails⟩ := hstep before s hbefore unit List.mem_cons_self
    exact .report ((hfails fault).mp hfault) hreport
      (ih (fun b t ht u hu => hstep b t ht u (List.mem_cons_of_mem _ hu)) _ hnext)

/-- If what fails fails on a line of the unit, the reports show lines of the units, in their order. -/
theorem Itemizes.exists_lines (linesOf : α → List Line) {before units : List α}
    {reports : List Report} (h : Itemizes c Fails before units reports)
    (hon : ∀ before, ∀ unit ∈ units, ∀ fault, Fails before unit fault → fault.IsOn (linesOf unit)) :
    ∃ shown : List Line, reports.map (·.line) = shown.map some ∧
      shown.Sublist (units.flatMap linesOf) := by
  induction h with
  | nil before => exact ⟨[], rfl, List.Sublist.slnil⟩
  | @pass before unit rest reports _ _ ih =>
    obtain ⟨shown, hshown, hsublist⟩ := ih fun b u hu => hon b u (List.mem_cons_of_mem _ hu)
    exact ⟨shown, hshown, hsublist.trans (List.sublist_append_right _ _)⟩
  | @report before unit rest reports fault r hfails hreport _ ih =>
    obtain ⟨shown, hshown, hsublist⟩ := ih fun b u hu => hon b u (List.mem_cons_of_mem _ hu)
    obtain ⟨cause, line, hline, rfl, -⟩ := hon before unit List.mem_cons_self fault hfails
    have hr : r.line = some line := (kind_of_report (Catalog.describe_cause.mp hreport)).2
    refine ⟨line :: shown, by simp [hr, hshown], ?_⟩
    rw [List.flatMap_cons, ← List.singleton_append]
    exact (List.singleton_sublist.mpr hline).append hsublist

end Itemizes

/-! ## Units that fail in a stage -/

/-- What a line of global options does to options of the declared types. -/
theorem readGlobalOptions_result {m : OptionMap} {line : Line}
    (hm : m.TypedFor OptionName.ofDiagram) :
    (readGlobalOptions m line).result =
      match readOptionList (stripBrackets line.body [.curly]) with
      | .error c => .error (.cause c (some line))
      | .ok raw =>
        match readValues raw OptionName.ofDiagram with
        | .error c => .error (.cause c (some line))
        | .ok values => .ok (m.assign values) := by
  have hdistinct : distinctNames OptionName.ofDiagram = OptionName.ofDiagram :=
    OptionMap.names_ofNames OptionMap.nodup_ofDiagram
  rw [readGlobalOptions, Reading.bind_result, Reading.on_result]
  cases readOptionList (stripBrackets line.body [.curly]) with
  | error c => rfl
  | ok raw =>
    simp only [applyOptions, Reading.bind_result, recordIgnored_result, Reading.on_result, hdistinct]
    rcases readValues_cases raw OptionName.ofDiagram with ⟨values, heq, htyped⟩ | ⟨name, t, heq⟩
    · rw [heq]
      exact layValues_eq_ok.mpr (hm.updated_values OptionMap.nodup_ofDiagram htyped)
    · rw [heq]

/-- Whether a line of global options is wrong does not depend on the options before it. -/
theorem readGlobalOptions_error_iff {m m' : OptionMap} {line : Line} {fault : ReadFault}
    (hm : m.TypedFor OptionName.ofDiagram) (hm' : m'.TypedFor OptionName.ofDiagram) :
    (readGlobalOptions m line).result = .error fault ↔
      (readGlobalOptions m' line).result = .error fault := by
  rw [readGlobalOptions_result hm, readGlobalOptions_result hm']
  cases readOptionList (stripBrackets line.body [.curly]) with
  | error c => exact Iff.rfl
  | ok raw =>
    cases hvalues : readValues raw OptionName.ofDiagram with
    | error c => simp only [hvalues]
    | ok values => simp [hvalues]

theorem typedFor_defaults : (OptionMap.ofNames OptionName.ofDiagram).TypedFor OptionName.ofDiagram :=
  OptionMap.typedFor_ofNames OptionMap.nodup_ofDiagram

/-- The stage of the global options itemizes the lines that are wrong on their own. -/
theorem itemizes_options {c : Catalog} {lines : List Line} {reports : List Report} {m : OptionMap}
    (h : Run c stepOptions (OptionMap.ofNames OptionName.ofDiagram) lines reports m) :
    Itemizes c OptionFails [] lines reports := by
  refine Itemizes.of_run (P := fun _ m => m.TypedFor OptionName.ofDiagram) h ?_ [] typedFor_defaults
  intro before m hm line _
  refine ⟨typedFor_of_stepOptions hm line, fun fault => ?_⟩
  rw [stepOptions_fault_iff, OptionFails]
  exact readGlobalOptions_error_iff hm typedFor_defaults

theorem readAsName_concat {before : List Block} {b : Block} {name : Text} :
    ReadAsName (before ++ [b]) name ↔
      ReadAsName before name ∨ ∃ e, (b.read []).result = .ok e ∧ e.name = name := by
  simp only [ReadAsName, List.mem_append, List.mem_singleton, or_and_right, exists_or,
    exists_eq_left]

/-- A block that is read adds its name to those of the entities, if it is new. -/
theorem mem_names_stepBlock {s : EntityStage} {b : Block} {e : Entity} {name : Text}
    (h : (b.read []).result = .ok e) :
    name ∈ (stepBlock s b).state.entities.map (·.name) ↔
      name ∈ s.entities.map (·.name) ∨ e.name = name := by
  rw [(stepBlock_of_ok h).1]
  by_cases hname : hasEntity s.entities e.name = true
  · have hold : e.name ∈ s.entities.map (·.name) := hasEntity_iff.mp hname
    simp only [hname, if_true]
    exact ⟨.inl, fun hor => hor.elim id fun heq => heq ▸ hold⟩
  · simp only [hname, Bool.false_eq_true, if_false, List.map_append, List.map_cons, List.map_nil,
      List.mem_append, List.mem_singleton]
    exact or_congr_right eq_comm

/-- The stage of the entity blocks knows the names of the blocks that were read. -/
def NamesRead (before : List Block) (s : EntityStage) : Prop :=
  ∀ name, name ∈ s.entities.map (·.name) ↔ ReadAsName before name

theorem NamesRead.step {before : List Block} {s : EntityStage} (h : NamesRead before s) (b : Block) :
    NamesRead (before ++ [b]) (stepBlock s b).state ∧
      ∀ fault, (stepBlock s b).fault = some fault ↔ BlockFails before b fault := by
  cases hresult : (b.read []).result with
  | error first =>
    obtain ⟨hstate, hfault⟩ := stepBlock_of_error (s := s) hresult
    constructor
    · intro name
      rw [readAsName_concat, ← h name, hstate, hresult]
      simp
    · intro fault
      rw [hfault, BlockFails, hresult]
      simp
  | ok e =>
    constructor
    · intro name
      rw [readAsName_concat, ← h name, mem_names_stepBlock hresult, hresult]
      simp
    · intro fault
      rw [(stepBlock_of_ok hresult).2, BlockFails, hresult]
      by_cases hname : hasEntity s.entities e.name = true
      · have hold : ReadAsName before e.name := (h e.name).mp (hasEntity_iff.mp hname)
        simp [hname, hold, eq_comm]
      · have hnew : ¬ ReadAsName before e.name := fun hread =>
          hname (hasEntity_iff.mpr ((h e.name).mpr hread))
        simp [hname, hnew]

/-- The stage of the entity blocks itemizes the blocks that cannot be read and the names that come
again. -/
theorem itemizes_blocks {c : Catalog} {ids : IdSource} {blocks : List Block} {reports : List Report}
    {named : EntityStage} (h : Run c stepBlock ⟨ids, []⟩ blocks reports named) :
    Itemizes c BlockFails [] blocks reports := by
  refine Itemizes.of_run (P := NamesRead) h (fun before s hs b _ => hs.step b) [] ?_
  intro name
  simp [ReadAsName]

/-- The stage of the relationships itemizes the lines that cannot be read. -/
theorem itemizes_relationships {c : Catalog} {s s' : RelationshipStage} {lines : List Line}
    {reports : List Report} (h : Run c stepRelationship s lines reports s') :
    Itemizes c RelationshipFails [] lines reports :=
  Itemizes.of_run (P := fun _ _ => True) h
    (fun _ _ _ _ _ => ⟨trivial, fun _ => stepRelationship_fault_iff⟩) [] trivial

/-! ## Reading in English -/

/-- A fault of a unit can be described in English. -/
theorem exists_english_description {fault : ReadFault} {lines : List Line} (h : fault.IsOn lines) :
    ∃ r, Catalog.english.describe fault = .ok r := by
  obtain ⟨cause, line, -, rfl, -⟩ := h
  obtain ⟨r, hr⟩ := Catalog.exists_english_report cause (some line)
  exact ⟨r, Catalog.describe_cause.mpr hr⟩

/-- In English, every document is accepted or rejected. -/
theorem exists_result_english (ids : IdSource) (lines : List Line) :
    ∃ outcome, (readDocument Catalog.english ids lines).result = .ok outcome := by
  unfold readDocument
  cases hgroup : Grouping.ofLines lines with
  | error fault =>
    obtain ⟨r, hr⟩ := Catalog.exists_english_report fault.cause (some fault.line)
    rw [← Catalog.describe_cause] at hr
    simp only [hr]
    exact ⟨_, rfl⟩
  | ok g =>
    have hsorts := Grouping.sorts_of_ofLines hgroup
    simp only [readUnits]
    obtain ⟨options, hoptions⟩ := @Stage.through_eq_ok _ _ Catalog.english stepOptions
      (fun m => m.TypedFor OptionName.ofDiagram) g.options
      (fun m hm line _ => ⟨typedFor_of_stepOptions hm line,
        fun _ hfault => exists_english_description (isOn_of_stepOptions hm hfault)⟩)
      ⟨OptionMap.ofNames OptionName.ofDiagram, [g.event], []⟩ typedFor_defaults
    simp only [hoptions]
    split
    · simp only [readEntities]
      obtain ⟨named, hnamed⟩ := @Stage.through_eq_ok _ _ Catalog.english stepBlock (fun _ => True)
        g.blocks
        (fun _ _ b hb => ⟨trivial, fun _ hfault =>
          exists_english_description (isOn_of_stepBlock (hsorts.kind_head hb) hfault)⟩)
        ⟨⟨ids, []⟩, options.log, []⟩ trivial
      simp only [hnamed]
      split
      · simp only [readRelationships]
        obtain ⟨built, hbuilt⟩ := @Stage.through_eq_ok _ _ Catalog.english stepRelationship
          (fun _ => True) g.relationships
          (fun _ _ line hline => ⟨trivial, fun _ hfault => exists_english_description
            (isOn_of_stepRelationship (hsorts.kind_relationship hline) hfault)⟩)
          ⟨⟨named.state.ids, named.state.entities, []⟩, named.log, []⟩ trivial
        simp only [hbuilt]
        split
        · exact ⟨_, rfl⟩
        · exact ⟨_, rfl⟩
      · exact ⟨_, rfl⟩
    · exact ⟨_, rfl⟩

/-! ## Accepted and rejected documents -/

/-- The reports of a document with errors, by the stage that they belong to. -/
inductive StagedErrors (lines : List Line) : List Report → Prop where
  /-- the first line that does not fit -/
  | grouping {fault : GroupingFault} {r : Report} (hfirst : FirstMisfit [] lines fault)
      (hreport : Catalog.english.report fault.cause (some fault.line) = .ok r) :
      StagedErrors lines [r]
  /-- each line of global options that is wrong -/
  | options {reports : List Report} (hfit : AllFit [] lines) (hne : reports ≠ [])
      (hoptions :
        Itemizes Catalog.english OptionFails [] (linesOfKind .globalOptions lines) reports) :
      StagedErrors lines reports
  /-- each entity block that is wrong, where the global options are right -/
  | blocks {reports : List Report} (hfit : AllFit [] lines) (hne : reports ≠ [])
      (hoptions : Itemizes Catalog.english OptionFails [] (linesOfKind .globalOptions lines) [])
      (hblocks : Itemizes Catalog.english BlockFails [] (blocksOf lines) reports) :
      StagedErrors lines reports
  /-- each relationship that is wrong, where all else is right -/
  | relationships {reports : List Report} (hfit : AllFit [] lines) (hne : reports ≠ [])
      (hoptions : Itemizes Catalog.english OptionFails [] (linesOfKind .globalOptions lines) [])
      (hblocks : Itemizes Catalog.english BlockFails [] (blocksOf lines) [])
      (hrelationships :
        Itemizes Catalog.english RelationshipFails [] (linesOfKind .relationship lines) reports) :
      StagedErrors lines reports

/-- Nothing is wrong with the document. -/
structure ErrorFree (lines : List Line) : Prop where
  fit : AllFit [] lines
  options : Itemizes Catalog.english OptionFails [] (linesOfKind .globalOptions lines) []
  blocks : Itemizes Catalog.english BlockFails [] (blocksOf lines) []
  relationships : Itemizes Catalog.english RelationshipFails [] (linesOfKind .relationship lines) []

theorem AcceptedAs.errorFree {ids : IdSource} {lines : List Line} {d : Diagram} {g : Grouping}
    {options : OptionMap} {named : EntityStage} {built : RelationshipStage}
    (h : AcceptedAs ids lines d g options named built) : ErrorFree lines := by
  obtain ⟨hfit, hblocks, -⟩ := blocks_of_ofLines h.grouped
  obtain ⟨hoptions, -, hrelationships⟩ := Grouping.sorts_of_ofLines h.grouped
  constructor
  · exact hfit
  · exact hoptions ▸ itemizes_options h.optionsRun.run
  · exact hblocks ▸ itemizes_blocks h.blocksRun.run
  · exact hrelationships ▸ itemizes_relationships h.relationshipsRun.run

theorem RejectedAs.stagedErrors {ids : IdSource} {lines : List Line} {reports : List Report}
    (h : RejectedAs Catalog.english ids lines reports) : StagedErrors lines reports := by
  cases h with
  | grouping hgroup hreport =>
    exact .grouping (firstMisfit_of_ofLines hgroup) (Catalog.describe_cause.mp hreport)
  | options hgroup hne hrun =>
    obtain ⟨hfit, -, -⟩ := blocks_of_ofLines hgroup
    obtain ⟨hoptions, -, -⟩ := Grouping.sorts_of_ofLines hgroup
    exact .options hfit hne (hoptions ▸ itemizes_options hrun)
  | blocks hgroup hne hoptionsRun hrun =>
    obtain ⟨hfit, hblocks, -⟩ := blocks_of_ofLines hgroup
    obtain ⟨hoptions, -, -⟩ := Grouping.sorts_of_ofLines hgroup
    exact .blocks hfit hne (hoptions ▸ itemizes_options hoptionsRun.run)
      (hblocks ▸ itemizes_blocks hrun)
  | relationships hgroup hne hoptionsRun hblocksRun hrun =>
    obtain ⟨hfit, hblocks, -⟩ := blocks_of_ofLines hgroup
    obtain ⟨hoptions, -, hrelationships⟩ := Grouping.sorts_of_ofLines hgroup
    exact .relationships hfit hne (hoptions ▸ itemizes_options hoptionsRun.run)
      (hblocks ▸ itemizes_blocks hblocksRun.run) (hrelationships ▸ itemizes_relationships hrun)

/-- The reports show lines of the document, in its order. -/
theorem RejectedAs.exists_lines {ids : IdSource} {lines : List Line} {reports : List Report}
    (h : RejectedAs Catalog.english ids lines reports) :
    ∃ shown : List Line, reports.map (·.line) = shown.map some ∧ shown.Sublist lines := by
  have hsingle : ∀ {units : List Line}, units.flatMap (fun line => [line]) = units :=
    List.flatMap_singleton' _
  cases h with
  | @grouping fault r hgroup hreport =>
    obtain ⟨front, rest, hlines, -⟩ := firstMisfit_of_ofLines hgroup
    refine ⟨[fault.line], ?_, ?_⟩
    · simp [(kind_of_report (Catalog.describe_cause.mp hreport)).2]
    · rw [List.singleton_sublist, hlines]
      simp
  | options hgroup hne hrun =>
    obtain ⟨hoptions, -, -⟩ := Grouping.sorts_of_ofLines hgroup
    obtain ⟨shown, hshown, hsublist⟩ := (itemizes_options hrun).exists_lines (fun l => [l])
      fun _ line _ => blames_readGlobalOptions typedFor_defaults (List.mem_singleton_self line)
    rw [hsingle, hoptions] at hsublist
    exact ⟨shown, hshown, hsublist.trans List.filter_sublist⟩
  | @blocks g _ _ _ hgroup hne _ hrun =>
    obtain ⟨-, -, hblocks⟩ := blocks_of_ofLines hgroup
    have hsorts := Grouping.sorts_of_ofLines hgroup
    have hon : ∀ before, ∀ b ∈ g.blocks, ∀ fault, BlockFails before b fault → fault.IsOn b.lines := by
      rintro before b hb fault (hread | ⟨e, -, -, rfl⟩)
      · exact blames_readBlock (hsorts.kind_head hb) [] fault hread
      · exact ⟨_, b.head, List.mem_cons_self, rfl, rfl⟩
    obtain ⟨shown, hshown, hsublist⟩ := (itemizes_blocks hrun).exists_lines Block.lines hon
    exact ⟨shown, hshown, hsublist.trans hblocks⟩
  | relationships hgroup hne _ _ hrun =>
    have hsorts := Grouping.sorts_of_ofLines hgroup
    obtain ⟨shown, hshown, hsublist⟩ :=
      (itemizes_relationships hrun).exists_lines (fun l => [l]) fun _ line hline =>
        blames_of_kind_relationship (hsorts.kind_relationship hline) (List.mem_singleton_self line)
    rw [hsingle, hsorts.relationships_eq] at hsublist
    exact ⟨shown, hshown, hsublist.trans List.filter_sublist⟩

/-- Numbered lines are accepted if nothing is wrong with them, and otherwise rejected with the reports
of one stage, which show lines of the document in the order of their numbers. -/
theorem staged_errors_english (ids : IdSource) {lines : List Line}
    (hnumbers : lines.Pairwise fun a b => a.number < b.number) :
    ((∃ d, (readDocument Catalog.english ids lines).result = .ok (.ok d)) ∧ ErrorFree lines) ∨
      ∃ reports, (readDocument Catalog.english ids lines).result = .ok (.error reports) ∧
        reports ≠ [] ∧ StagedErrors lines reports ∧
          ∃ shown : List Line, reports.map (·.line) = shown.map some ∧
            (∀ line ∈ shown, line ∈ lines) ∧ shown.Pairwise fun a b => a.number < b.number := by
  obtain ⟨outcome, houtcome⟩ := exists_result_english ids lines
  cases outcome with
  | ok d =>
    obtain ⟨g, options, named, built, haccepted⟩ := readDocument_eq_diagram_iff.mp houtcome
    exact .inl ⟨⟨d, houtcome⟩, haccepted.errorFree⟩
  | error reports =>
    have hrejected := rejectedAs_of_readDocument houtcome
    obtain ⟨shown, hshown, hsublist⟩ := hrejected.exists_lines
    refine .inr ⟨reports, houtcome, ?_, hrejected.stagedErrors, shown, hshown,
      fun line hline => hsublist.subset hline, hnumbers.sublist hsublist⟩
    cases hrejected with
    | grouping => exact List.cons_ne_nil _ _
    | options _ hne => exact hne
    | blocks _ hne => exact hne
    | relationships _ hne => exact hne

/-- A document with a stray word in one block, the name of another block again, and a relationship
that is wrong as well. -/
def mistakenLines : List Line :=
  [⟨1, "[Track]".toList⟩, ⟨2, "*id".toList⟩, ⟨4, "[Album] red".toList⟩, ⟨7, "[Track]".toList⟩,
    ⟨9, "[Track] of [Album]".toList⟩]

/-- Only the blocks are reported. -/
theorem staged_errors_at_mistakenLines :
    ∃ reports, StagedErrors mistakenLines reports ∧
      reports.map (fun r => (r.kind, r.line.map (·.number))) =
        [(.textAfter, some 4), (.duplicateEntityName, some 7)] := by
  have hnumbers : mistakenLines.Pairwise fun a b => a.number < b.number := by decide
  have hresult : ((readDocument Catalog.english {} mistakenLines).result.toOption.map fun outcome =>
      (outcome.map fun _ => ()).mapError fun reports =>
        reports.map fun r => (r.kind, r.line.map (·.number))) =
      some (.error [(.textAfter, some 4), (.duplicateEntityName, some 7)]) := by
    decide +kernel
  rcases staged_errors_english {} hnumbers with ⟨⟨d, haccepted⟩, -⟩ | ⟨reports, hrejected, -, hstaged, -⟩
  · rw [haccepted] at hresult
    cases hresult
  · rw [hrejected] at hresult
    exact ⟨reports, hstaged, Except.error.inj (Option.some.inj hresult)⟩

end ErDiagram

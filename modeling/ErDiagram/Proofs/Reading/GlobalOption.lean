import ErDiagram.Proofs.Reading.Alike
import ErDiagram.Proofs.Reading.OptionOrder
import ErDiagram.Proofs.Reading.Run
import ErDiagram.Proofs.Reading.Staged

set_option autoImplicit false

/-!
# The last assignment of a global option holds

A line of global options assigns a value to each option that it mentions with a text that gives one.  The
lines are read one over the other, so the value of an option is the one that was assigned last, or its
default if none was.  An empty text is a value of an option that is a text, and no value of a size.  What
a line lists besides has no part in this: with other foreign options, or without them, the document has
the same diagram.
-/

namespace ErDiagram

open Stage (CleanRun)

/-! ## What lines assign -/

/-- The line holds global options, and these are listed in it, all of which can be read and have
different names. -/
structure Line.Lists (line : Line) (options : List ListedOption) : Prop where
  kind_eq : line.kind = .globalOptions
  listed : IsListed line.body.inner options
  readable : ∀ o ∈ options, o.Readable
  nodup : (options.map fun o => o.entry.1).Nodup

/-- The text gives the option of the diagram this value. -/
inductive OptionName.Gives : OptionName → Text → OptionValue → Prop where
  | title (t : Text) : Gives .title t (.text t)
  | titleSize {t : Text} {n : Int} (hne : t ≠ []) (hread : Numeral.read t = .ok n) :
      Gives .titleSize t (.whole n)
  | linkFiles (t : Text) : Gives .linkFiles t (.text t)

/-- The line mentions the option, in whatever case, with a text that gives it the value. -/
def Line.Assigns (line : Line) (name : OptionName) (v : OptionValue) : Prop :=
  ∃ options, line.Lists options ∧ ∃ o ∈ options, o.entry.1 = name.key ∧ name.Gives o.entry.2 v

/-- The last line that assigns something to the option assigns the value to it; or no line does, and
the value is the default. -/
inductive LastAssigned (lines : List Line) (name : OptionName) : OptionValue → Prop where
  | assigned {before after : List Line} {line : Line} {v : OptionValue}
      (hlines : lines = before ++ line :: after) (hassigns : line.Assigns name v)
      (hlast : ∀ later ∈ after, ∀ w, ¬ later.Assigns name w) : LastAssigned lines name v
  | default (hnone : ∀ line ∈ lines, ∀ v, ¬ line.Assigns name v) :
      LastAssigned lines name name.default

/-- The options of the diagram are those of its place, each with the value that the lines assign to it
last.  Nothing in the lines is left that fails to give a value, apart from blank sizes. -/
structure Diagram.HoldsLastAssigned (d : Diagram) (lines : List Line) : Prop where
  names_eq : d.options.names = OptionName.ofDiagram
  get?_iff : ∀ name ∈ OptionName.ofDiagram, ∀ v,
    d.options.get? name = some v ↔ LastAssigned lines name v
  exists_lists : ∀ line ∈ lines, line.kind = .globalOptions → ∃ options, line.Lists options ∧
    ∀ o ∈ options, ∀ name ∈ OptionName.ofDiagram, o.entry.1 = name.key →
      (∃ v, name.Gives o.entry.2 v) ∨ name = .titleSize ∧ o.entry.2 = []

/-- What is read of the options that mean something for the diagram. -/
def ownEntries (options : List ListedOption) : List (Text × Text) :=
  (options.map ListedOption.entry).filter fun e => (OptionName.ofDiagram.map OptionName.key).contains e.1

/-- The lines are the same, or they list the same global options apart from those that mean nothing for
the diagram. -/
inductive Line.SameOwn : Line → Line → Prop where
  | same (line : Line) : SameOwn line line
  | lists {line line' : Line} {options options' : List ListedOption} (h : line.Lists options)
      (h' : line'.Lists options') (hown : ownEntries options = ownEntries options') :
      SameOwn line line'

variable {line line' : Line} {lines before : List Line} {options : List ListedOption}
variable {raw : List (Text × Text)} {values : List (OptionName × OptionValue)}
variable {name : OptionName} {names : List OptionName} {t : Text} {v : OptionValue} {m m' : OptionMap}

/-! ## Texts that give a value -/

namespace OptionName

theorem eq_of_mem_ofDiagram (h : name ∈ ofDiagram) :
    name = .title ∨ name = .titleSize ∨ name = .linkFiles := by
  simpa [ofDiagram] using h

theorem read_eq_some_iff_gives (hname : name ∈ ofDiagram) :
    name.read t = .ok (some v) ↔ name.Gives t v := by
  constructor
  · intro h
    rcases eq_of_mem_ofDiagram hname with rfl | rfl | rfl
    · cases h
      exact .title t
    · obtain ⟨number, hnumber, hv⟩ := Except.map_eq_ok_iff.mp h
      obtain ⟨n, rfl, rfl⟩ := Option.map_eq_some_iff.mp hv
      unfold readWhole at hnumber
      split at hnumber
      · cases hnumber
      · rename_i hne
        split at hnumber
        · rename_i hread
          cases hnumber
          exact .titleSize (fun hnil => hne (List.isEmpty_iff.mpr hnil)) hread
        · cases hnumber
    · cases h
      exact .linkFiles t
  · intro h
    cases h with
    | title | linkFiles => rfl
    | titleSize hne hread =>
      have hsome : t.isEmpty = false := List.isEmpty_eq_false_iff.mpr hne
      simp [OptionName.read, OptionName.type, readWhole, hsome, hread, Except.map]

/-- A text that is read without a value is a blank size. -/
theorem blank_of_read_eq_none (hname : name ∈ ofDiagram) (h : name.read t = .ok none) :
    name = .titleSize ∧ t = [] := by
  rcases eq_of_mem_ofDiagram hname with rfl | rfl | rfl
  · cases h
  · obtain ⟨number, hnumber, hv⟩ := Except.map_eq_ok_iff.mp h
    rw [Option.map_eq_none_iff] at hv
    subst hv
    unfold readWhole at hnumber
    split at hnumber
    · rename_i hempty
      exact ⟨rfl, List.isEmpty_iff.mp hempty⟩
    · split at hnumber <;> cases hnumber
  · cases h

end OptionName

open OptionName (read_eq_some_iff_gives)

/-! ## Values by their names -/

theorem keys_readValues_sublist : ∀ {values : List (OptionName × OptionValue)},
    readValues raw names = .ok values → (values.map (·.1)).Sublist names := by
  induction names with
  | nil =>
    intro values h
    cases h
    exact List.Sublist.slnil
  | cons name rest ih =>
    intro values h
    rw [readValues] at h
    split at h
    · exact (ih h).cons name
    · split at h
      · cases h
      · exact (ih h).cons name
      · obtain ⟨others, hothers, rfl⟩ := Except.map_eq_ok_iff.mp h
        exact (ih hothers).cons_cons name

/-- The values that are read are those of the texts under the keys. -/
theorem lookup_readValues (hnodup : names.Nodup) :
    ∀ {values : List (OptionName × OptionValue)}, readValues raw names = .ok values →
      ∀ name ∈ names, (values.lookup name = none ∧
          (raw.lookup name.key = none ∨ ∃ t, raw.lookup name.key = some t ∧ name.read t = .ok none)) ∨
        ∃ t v, raw.lookup name.key = some t ∧ name.read t = .ok (some v) ∧
          values.lookup name = some v := by
  induction names with
  | nil => simp
  | cons first rest ih =>
    obtain ⟨hfirst, hrest⟩ := List.nodup_cons.mp hnodup
    intro values h
    -- the first name is not found among the values of the others
    have hskip : readValues raw rest = .ok values → values.lookup first = none := fun hothers =>
      Table.lookup_eq_none_iff.mpr fun hmem => hfirst ((keys_readValues_sublist hothers).subset hmem)
    rw [readValues] at h
    refine List.forall_mem_cons.mpr ?_
    split at h
    · rename_i hraw
      exact ⟨.inl ⟨hskip h, .inl hraw⟩, ih hrest h⟩
    · rename_i t hraw
      split at h
      · cases h
      · rename_i hread
        exact ⟨.inl ⟨hskip h, .inr ⟨t, hraw, hread⟩⟩, ih hrest h⟩
      · rename_i v hread
        obtain ⟨others, hothers, rfl⟩ := Except.map_eq_ok_iff.mp h
        refine ⟨.inr ⟨t, v, hraw, hread, List.lookup_cons_self⟩, fun name hname => ?_⟩
        have hne : name ≠ first := fun heq => hfirst (heq ▸ hname)
        rw [Table.lookup_cons, if_neg hne]
        exact ih hrest hothers name hname

/-! ## One line -/

theorem inner_of_kind_globalOptions (hkind : line.kind = .globalOptions) :
    stripBrackets line.body [.curly] = Text.strip line.body.inner := by
  have hclosed : isEnclosed line.body [.curly] = true := by
    by_contra hopen
    unfold Line.kind LineKind.ofBody at hkind
    rw [if_neg hopen] at hkind
    repeat' split at hkind
    all_goals cases hkind
  rw [stripBrackets, if_pos hclosed]

/-- A line of global options is read as raw values exactly if it lists the options of these. -/
theorem readOptionList_eq_ok_iff_lists (hkind : line.kind = .globalOptions) :
    readOptionList (stripBrackets line.body [.curly]) = .ok raw ↔
      ∃ options, line.Lists options ∧ raw = options.map ListedOption.entry := by
  have hstrip : readOptionList (Text.strip line.body.inner) = readOptionList line.body.inner := by
    rw [readOptionList, Quoting.pieces_strip]
    rfl
  rw [inner_of_kind_globalOptions hkind, hstrip, readOptionList_eq_ok_iff]
  constructor
  · rintro ⟨options, hlisted, hread, rfl, hnodup⟩
    exact ⟨options, ⟨hkind, hlisted, hread, by simpa [Function.comp_def] using hnodup⟩, rfl⟩
  · rintro ⟨options, hlists, rfl⟩
    exact ⟨options, hlists.listed, hlists.readable, rfl,
      by simpa [Function.comp_def] using hlists.nodup⟩

/-- What a line of global options does, told by what it lists. -/
theorem stepOptions_lists (hkind : line.kind = .globalOptions) (hm : m.TypedFor OptionName.ofDiagram)
    (hfault : (stepOptions m line).fault = none) :
    ∃ options values, line.Lists options ∧
      readValues (options.map ListedOption.entry) OptionName.ofDiagram = .ok values ∧
        (stepOptions m line).state = m.assign values := by
  have hread := stepOptions_clean.mp ⟨hfault, rfl⟩
  rw [readGlobalOptions_result hm] at hread
  split at hread
  · cases hread
  · rename_i raw hraw
    obtain ⟨options, hlists, rfl⟩ := (readOptionList_eq_ok_iff_lists hkind).mp hraw
    split at hread
    · cases hread
    · rename_i values hvalues
      exact ⟨options, values, hlists, hvalues, (Except.ok.inj hread).symm⟩

theorem Line.Lists.entries_eq {options' : List ListedOption} (h : line.Lists options)
    (h' : line.Lists options') : options'.map ListedOption.entry = options.map ListedOption.entry := by
  have hread := (readOptionList_eq_ok_iff_lists h.kind_eq).mpr ⟨options, h, rfl⟩
  have hread' := (readOptionList_eq_ok_iff_lists h.kind_eq).mpr ⟨options', h', rfl⟩
  exact Except.ok.inj (hread'.symm.trans hread)

/-- What is listed under the key of an option is found there. -/
theorem Line.Lists.lookup_iff (h : line.Lists options) {key : Text} :
    (options.map ListedOption.entry).lookup key = some t ↔
      ∃ o ∈ options, o.entry.1 = key ∧ o.entry.2 = t := by
  have hnodup : ((options.map ListedOption.entry).map (·.1)).Nodup := by
    simpa [Function.comp_def] using h.nodup
  constructor
  · intro hlookup
    obtain ⟨o, ho, hentry⟩ := List.mem_map.mp (Table.mem_of_lookup_eq_some hlookup)
    exact ⟨o, ho, by rw [hentry], by rw [hentry]⟩
  · rintro ⟨o, ho, rfl, rfl⟩
    exact Table.lookup_eq_some_of_mem hnodup (List.mem_map_of_mem ho)

theorem Line.Lists.assigns_iff (h : line.Lists options) (hname : name ∈ OptionName.ofDiagram) :
    line.Assigns name v ↔ ∃ t, (options.map ListedOption.entry).lookup name.key = some t ∧
      name.read t = .ok (some v) := by
  constructor
  · rintro ⟨options', hlists, o, ho, hkey, hgives⟩
    rw [← h.entries_eq hlists]
    exact ⟨o.entry.2, hlists.lookup_iff.mpr ⟨o, ho, hkey, rfl⟩,
      (read_eq_some_iff_gives hname).mpr hgives⟩
  · rintro ⟨t, hlookup, hread⟩
    obtain ⟨o, ho, hkey, rfl⟩ := h.lookup_iff.mp hlookup
    exact ⟨options, h, o, ho, hkey, (read_eq_some_iff_gives hname).mp hread⟩

/-- The values that are read off a line are those that it assigns. -/
theorem Line.Lists.lookup_values_iff (h : line.Lists options)
    (hvalues : readValues (options.map ListedOption.entry) OptionName.ofDiagram = .ok values)
    (hname : name ∈ OptionName.ofDiagram) (v : OptionValue) :
    values.lookup name = some v ↔ line.Assigns name v := by
  rw [h.assigns_iff hname]
  rcases lookup_readValues OptionMap.nodup_ofDiagram hvalues name hname with
    ⟨hnone, hraw | ⟨t, hraw, hread⟩⟩ | ⟨t, w, hraw, hread, hlookup⟩
  · simp [hnone, hraw]
  · simp [hnone, hraw, hread]
  · simp [hlookup, hraw, hread]

/-! ## All lines -/

theorem lastAssigned_nil : LastAssigned [] name v ↔ v = name.default := by
  constructor
  · intro h
    cases h with
    | assigned hlines => simp at hlines
    | default => rfl
  · rintro rfl
    exact .default (by simp)

/-- The last line decides, if it assigns anything. -/
theorem lastAssigned_concat : LastAssigned (before ++ [line]) name v ↔
    line.Assigns name v ∨ (∀ w, ¬ line.Assigns name w) ∧ LastAssigned before name v := by
  constructor
  · intro h
    cases h with
    | @assigned front after last _ hlines hassigns hlast =>
      rcases List.eq_nil_or_concat after with rfl | ⟨between, other, rfl⟩
      · obtain ⟨-, hsame⟩ := List.append_inj' hlines rfl
        obtain rfl := List.singleton_inj.mp hsame
        exact .inl hassigns
      · rw [List.concat_eq_append, ← List.cons_append, ← List.append_assoc] at hlines
        obtain ⟨rfl, hsame⟩ := List.append_inj' hlines rfl
        obtain rfl := List.singleton_inj.mp hsame
        refine .inr ⟨hlast line (by simp), .assigned rfl hassigns fun later hlater => ?_⟩
        exact hlast later (by simp [hlater])
    | default hnone =>
      refine .inr ⟨hnone line (by simp), .default fun l hl => hnone l (by simp [hl])⟩
  · rintro (hassigns | ⟨hnone, hbefore⟩)
    · exact .assigned rfl hassigns (by simp)
    · cases hbefore with
      | assigned hlines hassigns hlast =>
        subst hlines
        refine .assigned (List.append_assoc _ _ _) hassigns fun later hlater => ?_
        rcases List.mem_append.mp hlater with hold | hnew
        · exact hlast later hold
        · exact List.mem_singleton.mp hnew ▸ hnone
      | default hothers =>
        refine .default fun l hl => ?_
        rcases List.mem_append.mp hl with hold | hnew
        · exact hothers l hold
        · exact List.mem_singleton.mp hnew ▸ hnone

/-- Only lines of global options count. -/
theorem lastAssigned_linesOfKind (lines : List Line) (name : OptionName) (v : OptionValue) :
    LastAssigned (linesOfKind .globalOptions lines) name v ↔ LastAssigned lines name v := by
  induction lines using List.reverseRecOn with
  | nil => exact Iff.rfl
  | append_singleton before line ih =>
    have happend : linesOfKind .globalOptions (before ++ [line]) =
        linesOfKind .globalOptions before ++ linesOfKind .globalOptions [line] :=
      List.filter_append _ _
    rw [lastAssigned_concat, happend, linesOfKind_cons, linesOfKind_nil]
    by_cases hkind : line.kind = .globalOptions
    · rw [if_pos hkind, lastAssigned_concat]
      exact or_congr_right (and_congr_right fun _ => ih)
    · have hnone : ∀ w, ¬ line.Assigns name w := by
        rintro w ⟨options, hlists, -⟩
        exact hkind hlists.kind_eq
      rw [if_neg hkind, List.append_nil, ih]
      simp [hnone]

/-- What the options are behind lines: each has the value that was assigned last. -/
structure OptionsBehind (lines : List Line) (m : OptionMap) : Prop where
  typed : m.TypedFor OptionName.ofDiagram
  get?_iff : ∀ name ∈ OptionName.ofDiagram, ∀ v, m.get? name = some v ↔ LastAssigned lines name v
  exists_values : ∀ line ∈ lines, ∃ options values, line.Lists options ∧
    readValues (options.map ListedOption.entry) OptionName.ofDiagram = .ok values

theorem optionsBehind_nil : OptionsBehind [] (OptionMap.ofNames OptionName.ofDiagram) := by
  refine ⟨typedFor_defaults, fun name hname v => ?_, by simp⟩
  have hdefault : (OptionMap.ofNames OptionName.ofDiagram).get? name = some name.default := by
    rcases OptionName.eq_of_mem_ofDiagram hname with rfl | rfl | rfl <;> rfl
  rw [hdefault, lastAssigned_nil, Option.some.injEq, eq_comm]

theorem OptionsBehind.step (h : OptionsBehind before m) (hkind : line.kind = .globalOptions)
    (hfault : (stepOptions m line).fault = none) :
    OptionsBehind (before ++ [line]) (stepOptions m line).state := by
  have htyped := typedFor_of_stepOptions h.typed line
  obtain ⟨options, values, hlists, hvalues, hstate⟩ := stepOptions_lists hkind h.typed hfault
  refine ⟨htyped, fun name hname v => ?_, ?_⟩
  · have hnodup : (values.map (·.1)).Nodup :=
      OptionMap.nodup_ofDiagram.sublist (keys_readValues_sublist hvalues)
    have hassigns := hlists.lookup_values_iff hvalues hname
    have hnone : values.lookup name = none ↔ ∀ w, ¬ line.Assigns name w := by
      rw [Option.eq_none_iff_forall_ne_some]
      exact forall_congr' fun w => not_congr (hassigns w)
    rw [hstate, OptionMap.get?_assign, Table.lookup_reverse hnodup, Option.or_eq_some_iff, hassigns,
      hnone, h.get?_iff name hname, lastAssigned_concat]
  · intro l hl
    rcases List.mem_append.mp hl with hold | hnew
    · exact h.exists_values l hold
    · exact List.mem_singleton.mp hnew ▸ ⟨options, values, hlists, hvalues⟩

/-- A clean run past lines of global options leaves what they assign last. -/
theorem optionsBehind_of_cleanRun (hkind : ∀ line ∈ lines, line.kind = .globalOptions)
    (h : CleanRun stepOptions (OptionMap.ofNames OptionName.ofDiagram) lines m) :
    OptionsBehind lines m := by
  refine h.invariant (P := fun behind m =>
    (∀ line ∈ behind, line.kind = .globalOptions) → OptionsBehind behind m) (fun _ => optionsBehind_nil)
    (fun behind line m hbehind hfault hkinds => ?_) hkind
  have hfront := hbehind fun l hl => hkinds l (List.mem_append_left _ hl)
  exact hfront.step (hkinds line (by simp)) hfault

/-! ## Foreign options -/

/-- For the options of the diagram, only what they mean something to is looked at. -/
theorem lookup_ownEntries (options : List ListedOption) (hname : name ∈ OptionName.ofDiagram) :
    (ownEntries options).lookup name.key = (options.map ListedOption.entry).lookup name.key := by
  have hkey : (OptionName.ofDiagram.map OptionName.key).contains name.key = true :=
    List.elem_eq_true_of_mem (List.mem_map_of_mem hname)
  unfold ownEntries
  generalize options.map ListedOption.entry = entries
  induction entries with
  | nil => rfl
  | cons entry rest ih =>
    rw [List.filter_cons, Table.lookup_cons]
    by_cases hentry : name.key = entry.1
    · rw [← hentry, if_pos hkey, Table.lookup_cons, if_pos hentry, if_pos rfl]
    · rw [if_neg hentry]
      split
      · rw [Table.lookup_cons, if_neg hentry, ih]
      · exact ih

/-- Lines that list the same apart from foreign options do the same. -/
theorem Line.SameOwn.readGlobalOptions_eq_ok (h : line.SameOwn line')
    (hm : m.TypedFor OptionName.ofDiagram) (hread : (readGlobalOptions m line).result = .ok m') :
    (readGlobalOptions m line').result = .ok m' := by
  cases h with
  | same => exact hread
  | @lists _ options options' hlists hlists' hown =>
    have hraw := (readOptionList_eq_ok_iff_lists hlists.kind_eq).mpr ⟨options, hlists, rfl⟩
    have hraw' := (readOptionList_eq_ok_iff_lists hlists'.kind_eq).mpr ⟨options', hlists', rfl⟩
    have hvalues : readValues (options.map ListedOption.entry) OptionName.ofDiagram =
        readValues (options'.map ListedOption.entry) OptionName.ofDiagram := by
      refine readValues_congr fun name hname => ?_
      rw [← lookup_ownEntries options hname, hown, lookup_ownEntries options' hname]
    rw [readGlobalOptions_result hm, hraw] at hread
    rw [readGlobalOptions_result hm, hraw']
    cases hsame : readValues (options'.map ListedOption.entry) OptionName.ofDiagram with
    | error c =>
      simp only [hvalues, hsame] at hread
      cases hread
    | ok values => simpa only [hvalues, hsame] using hread

/-- A run past such lines stays clean and leads to the same options. -/
theorem cleanRun_of_sameOwn {lines lines' : List Line} (h : List.Forall₂ Line.SameOwn lines lines') :
    ∀ {m : OptionMap}, m.TypedFor OptionName.ofDiagram → CleanRun stepOptions m lines m' →
      CleanRun stepOptions m lines' m' := by
  induction h with
  | nil => exact fun _ hrun => hrun
  | @cons line line' rest rest' hline _ ih =>
    intro m hm hrun
    cases hrun with
    | cons hfault hrest =>
      have hread := stepOptions_clean.mp ⟨hfault, rfl⟩
      obtain ⟨hfault', hstate⟩ := stepOptions_clean.mpr (hline.readGlobalOptions_eq_ok hm hread)
      refine .cons hfault' ?_
      rw [hstate]
      exact ih (typedFor_of_stepOptions hm line) hrest

theorem Line.SameOwn.kind_eq (h : line.SameOwn line') : line.kind = line'.kind := by
  cases h with
  | same => rfl
  | lists hlists hlists' => rw [hlists.kind_eq, hlists'.kind_eq]

/-- Among lines that are the same apart from foreign options, those outside the global options are the
same. -/
theorem placedLines_eq_of_sameOwn {lines lines' : List Line}
    (h : List.Forall₂ Line.SameOwn lines lines') : placedLines lines = placedLines lines' := by
  induction h with
  | nil => rfl
  | cons hline _ ih =>
    rw [placedLines_cons, placedLines_cons, ih]
    cases hline with
    | same => rfl
    | lists hlists hlists' =>
      rw [Line.isPlaced, Line.isPlaced, hlists.kind_eq, hlists'.kind_eq]
      rfl

/-- A document that differs in foreign options only is accepted, with the same diagram. -/
theorem AcceptedAs.sameOwn {ids : IdSource} {lines lines' : List Line} {d : Diagram} {g : Grouping}
    {options : OptionMap} {named : EntityStage} {built : RelationshipStage}
    (h : AcceptedAs ids lines d g options named built)
    (hsame : List.Forall₂ Line.SameOwn lines lines') :
    ∃ g', AcceptedAs ids lines' d g' options named built := by
  have hgrouped := h.grouped
  rw [Grouping.ofLines, Grouping.ofLinesFrom_eq, placedLines_eq_of_sameOwn hsame] at hgrouped
  obtain ⟨_, hfrom, rfl⟩ := Except.map_eq_ok_iff.mp hgrouped
  obtain ⟨placed, hplaced, rfl⟩ := Except.map_eq_ok_iff.mp hfrom
  have hlines : List.Forall₂ Line.SameOwn (linesOfKind .globalOptions lines)
      (linesOfKind .globalOptions lines') :=
    List.rel_filter (fun line line' hline => by simp only [hline.kind_eq]) hsame
  refine ⟨{ placed.2 with options := linesOfKind .globalOptions lines' }, ?_,
    cleanRun_of_sameOwn hlines typedFor_defaults h.optionsRun, h.blocksRun, h.relationshipsRun,
    h.diagram_eq⟩
  rw [Grouping.ofLines, Grouping.ofLinesFrom_eq, hplaced]
  rfl

/-! ## Accepted documents -/

theorem AcceptedAs.holdsLastAssigned {ids : IdSource} {lines : List Line} {d : Diagram} {g : Grouping}
    {options : OptionMap} {named : EntityStage} {built : RelationshipStage}
    (h : AcceptedAs ids lines d g options named built) : d.HoldsLastAssigned lines := by
  have hrun := h.optionsRun
  rw [h.sorts.options_eq] at hrun
  have hbehind := optionsBehind_of_cleanRun (fun line hline => (mem_linesOfKind.mp hline).2) hrun
  have hoptions : d.options = options := by rw [h.diagram_eq, inferredDiagram]
  constructor
  · exact hoptions ▸ hbehind.typed.names_eq
  · intro name hname v
    rw [hoptions, hbehind.get?_iff name hname, lastAssigned_linesOfKind]
  · intro line hline hkind
    obtain ⟨listed, values, hlists, hvalues⟩ :=
      hbehind.exists_values line (mem_linesOfKind.mpr ⟨hline, hkind⟩)
    refine ⟨listed, hlists, fun o ho name hname hkey => ?_⟩
    have hlookup := hlists.lookup_iff.mpr ⟨o, ho, hkey, rfl⟩
    rcases lookup_readValues OptionMap.nodup_ofDiagram hvalues name hname with
      ⟨-, hnone | ⟨t, hsome, hread⟩⟩ | ⟨t, v, hsome, hread, -⟩
    · simp [hnone] at hlookup
    · obtain rfl := Option.some.inj (hsome.symm.trans hlookup)
      exact .inr (OptionName.blank_of_read_eq_none hname hread)
    · obtain rfl := Option.some.inj (hsome.symm.trans hlookup)
      exact .inl ⟨v, (read_eq_some_iff_gives hname).mp hread⟩

/-- The options of an accepted document are those that its lines assign last.  With foreign options put in
or taken out anywhere, it is the same diagram. -/
theorem readLines_lastAssigned {c : Catalog} {ids : IdSource} {lines : List (Option Text)} {d : Diagram}
    (h : (readLines c ids lines).result = .ok (.ok d)) :
    d.HoldsLastAssigned (Line.ofTexts (lines.map fun l => l.getD [])) ∧
      ∀ lines' : List (Option Text),
        List.Forall₂ Line.SameOwn (Line.ofTexts (lines.map fun l => l.getD []))
          (Line.ofTexts (lines'.map fun l => l.getD [])) →
        (readLines c ids lines').result = .ok (.ok d) := by
  obtain ⟨g, options, named, built, haccepted⟩ := readDocument_eq_diagram_iff.mp h
  refine ⟨haccepted.holdsLastAssigned, fun lines' hsame => ?_⟩
  obtain ⟨g', haccepted'⟩ := haccepted.sameOwn hsame
  exact readDocument_eq_diagram_iff.mpr ⟨g', options, named, built, haccepted'⟩

/-- A shop whose last line leaves the title empty and the size blank, and has a color that means nothing
there. -/
def shopLines : List (Option Text) :=
  [some "{Title: Shop; TITLE-SIZE: 14}".toList, some "[Item]".toList,
    some "{title: ; title-size: ; color: red}".toList]

/-- The lines of the shop without the color. -/
def plainShopLines : List (Option Text) :=
  [some "{Title: Shop; TITLE-SIZE: 14}".toList, some "[Item]".toList,
    some "{title: ; title-size: }".toList]

def shopDiagram : Diagram where
  entities := [{ id := "entity_1".toList, name := "Item".toList }]
  relationships := []
  options := ⟨[(.title, .text []), (.titleSize, .whole 14), (.linkFiles, .text [])]⟩

theorem sameOwn_shopLines : List.Forall₂ Line.SameOwn (Line.ofTexts (shopLines.map fun l => l.getD []))
    (Line.ofTexts (plainShopLines.map fun l => l.getD [])) := by
  refine .cons (.same _) (.cons (.same _) (.cons ?_ .nil))
  have hread : readOptionList (stripBrackets
      (Line.body ⟨3, "{title: ; title-size: ; color: red}".toList⟩) [.curly]) =
      .ok [("TITLE".toList, []), ("TITLE-SIZE".toList, []), ("COLOR".toList, "red".toList)] := by
    decide +kernel
  have hplain : readOptionList (stripBrackets
      (Line.body ⟨3, "{title: ; title-size: }".toList⟩) [.curly]) =
      .ok [("TITLE".toList, []), ("TITLE-SIZE".toList, [])] := by
    decide +kernel
  obtain ⟨options, hlists, hraw⟩ := (readOptionList_eq_ok_iff_lists (by decide +kernel)).mp hread
  obtain ⟨options', hlists', hraw'⟩ := (readOptionList_eq_ok_iff_lists (by decide +kernel)).mp hplain
  refine .lists hlists hlists' ?_
  rw [ownEntries, ownEntries, ← hraw, ← hraw']
  decide +kernel

/-- The title is empty, the size is the one from the first line, and the color makes no difference. -/
theorem readLines_plainShopLines :
    shopDiagram.HoldsLastAssigned (Line.ofTexts (shopLines.map fun l => l.getD [])) ∧
      LastAssigned (Line.ofTexts (shopLines.map fun l => l.getD [])) .title (.text []) ∧
      LastAssigned (Line.ofTexts (shopLines.map fun l => l.getD [])) .titleSize (.whole 14) ∧
      (readLines Catalog.english {} plainShopLines).result = .ok (.ok shopDiagram) := by
  have hread : (readLines Catalog.english {} shopLines).result = .ok (.ok shopDiagram) := by
    decide +kernel
  obtain ⟨hholds, hforeign⟩ := readLines_lastAssigned hread
  refine ⟨hholds, ?_, ?_, hforeign _ sameOwn_shopLines⟩
  · exact (hholds.get?_iff .title (by decide) _).mp rfl
  · exact (hholds.get?_iff .titleSize (by decide) _).mp rfl

end ErDiagram

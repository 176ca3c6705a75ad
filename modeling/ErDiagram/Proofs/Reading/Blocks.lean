import ErDiagram.Proofs.Reading.Block

set_option autoImplicit false

/-!
# Blocks and misfits, told from the kinds of lines

What grouping does can be told from the kinds of the lines alone.  A block is open behind some lines
if the last of them that names an entity or relates two names an entity, and only then an attribute
fits.  Grouping fails exactly at the first line that does not fit.  If every line fits, an entity block
holds the attribute lines between its name and the next line that names or relates entities.
-/

namespace ErDiagram

/-- The line names an entity or relates two, and so ends the block in front of it. -/
def Line.isHeading (line : Line) : Bool :=
  match line.kind with
  | .entityName | .relationship => true
  | _ => false

/-- A block is open behind the lines. -/
def opensBlock (before : List Line) : Bool :=
  match before.reverse.find? (·.isHeading) with
  | some line => decide (line.kind = .entityName)
  | none => false

/-- Why a line does not fit behind other lines, if it does not. -/
def misfit? (before : List Line) (line : Line) : Option GroupingFault :=
  match line.kind with
  | .unknown => some (.unclassified line)
  | .entityAttribute => if opensBlock before then none else some (.notOpened line)
  | _ => none

/-- All lines fit behind those before them. -/
def AllFit (before lines : List Line) : Prop :=
  ∀ front line rest, lines = front ++ line :: rest → misfit? (before ++ front) line = none

/-- The fault is that of the first line that does not fit behind those before it. -/
def FirstMisfit (before lines : List Line) (fault : GroupingFault) : Prop :=
  ∃ front rest, lines = front ++ fault.line :: rest ∧
    misfit? (before ++ front) fault.line = some fault ∧ AllFit before front

/-- The entity blocks among some lines. -/
def blocksOf : List Line → List Block
  | [] => []
  | line :: rest =>
    if line.kind = .entityName then
      ⟨line, linesOfKind .entityAttribute (rest.takeWhile fun l => !l.isHeading)⟩ :: blocksOf rest
    else blocksOf rest

/-- The lines of a block. -/
def Block.lines (b : Block) : List Line := b.head :: b.attributes

variable {before lines rest : List Line} {line : Line} {fault : GroupingFault}

/-! ## Open blocks -/

/-- A line that names an entity opens a block, a relationship closes it, and no other line does either. -/
theorem opensBlock_concat (before : List Line) (line : Line) :
    opensBlock (before ++ [line]) = match line.kind with
      | .entityName => true
      | .relationship => false
      | _ => opensBlock before := by
  unfold opensBlock
  rw [List.reverse_append, List.reverse_singleton, List.singleton_append, List.find?_cons]
  cases hkind : line.kind <;> simp [Line.isHeading, hkind]

theorem misfit?_line (h : misfit? before line = some fault) : fault.line = line := by
  unfold misfit? at h
  split at h
  · cases h
    rfl
  · split at h
    · cases h
    · cases h
      rfl
  · cases h

theorem AllFit.nil (before : List Line) : AllFit before [] := by
  intro front line rest h
  cases front <;> cases h

theorem allFit_cons : AllFit before (line :: rest) ↔
    misfit? before line = none ∧ AllFit (before ++ [line]) rest := by
  constructor
  · intro h
    refine ⟨by simpa using h [] line rest rfl, fun front l behind heq => ?_⟩
    simpa using h (line :: front) l behind (by simp [heq])
  · rintro ⟨hline, hrest⟩ front l behind heq
    cases front with
    | nil =>
      obtain ⟨rfl, rfl⟩ := List.cons.inj heq
      rwa [List.append_nil]
    | cons first front =>
      obtain ⟨rfl, rfl⟩ := List.cons.inj heq
      simpa using hrest front l behind rfl

theorem FirstMisfit.cons (hline : misfit? before line = none)
    (h : FirstMisfit (before ++ [line]) rest fault) : FirstMisfit before (line :: rest) fault := by
  obtain ⟨front, behind, rfl, hmisfit, hfit⟩ := h
  refine ⟨line :: front, behind, rfl, by simpa using hmisfit, allFit_cons.mpr ⟨hline, hfit⟩⟩

theorem FirstMisfit.of_misfit (h : misfit? before line = some fault) (rest : List Line) :
    FirstMisfit before (line :: rest) fault := by
  have hline := misfit?_line h
  exact ⟨[], rest, by rw [hline]; rfl, by rw [hline, List.append_nil, h], AllFit.nil _⟩

/-! ## Grouping -/

/-- What grouping gives behind some lines if all of them fit: the blocks, and in front of them the
attributes of the block that is open already. -/
structure GroupedBehind (before lines pending : List Line) (g : Grouping) : Prop where
  fit : AllFit before lines
  pending_eq_nil : opensBlock before = false → pending = []
  pending_eq : pending = linesOfKind .entityAttribute (lines.takeWhile fun l => !l.isHeading)
  blocks_eq : g.blocks = blocksOf lines
  sublist : (pending ++ g.blocks.flatMap Block.lines).Sublist lines

namespace GroupedBehind

variable {pending : List Line} {g g' : Grouping}

/-- A line that is neither a heading nor an attribute leaves the blocks as they are. -/
theorem skip (h : GroupedBehind (before ++ [line]) rest pending g) (hheading : line.isHeading = false)
    (hattribute : line.kind ≠ .entityAttribute) (hfits : misfit? before line = none)
    (hopen : opensBlock (before ++ [line]) = opensBlock before) (hblocks : g'.blocks = g.blocks) :
    GroupedBehind before (line :: rest) pending g' := by
  refine ⟨allFit_cons.mpr ⟨hfits, h.fit⟩, hopen ▸ h.pending_eq_nil, ?_, ?_, ?_⟩
  · rw [h.pending_eq]
    simp [hheading, linesOfKind_cons, hattribute]
  · have hname : line.kind ≠ .entityName := by
      intro hkind
      simp [Line.isHeading, hkind] at hheading
    rw [hblocks, h.blocks_eq, blocksOf, if_neg hname]
  · rw [hblocks]
    exact h.sublist.cons line

/-- A line that names an entity takes the attributes behind it into its block. -/
theorem opened (h : GroupedBehind (before ++ [line]) rest pending g) (hkind : line.kind = .entityName)
    (hfits : misfit? before line = none) :
    GroupedBehind before (line :: rest) [] { g with blocks := ⟨line, pending⟩ :: g.blocks } := by
  refine ⟨allFit_cons.mpr ⟨hfits, h.fit⟩, fun _ => rfl, ?_, ?_, h.sublist.cons_cons line⟩
  · simp [Line.isHeading, hkind]
  · rw [blocksOf, if_pos hkind, ← h.pending_eq, h.blocks_eq]

/-- An attribute belongs to the block that is open. -/
theorem kept (h : GroupedBehind (before ++ [line]) rest pending g)
    (hkind : line.kind = .entityAttribute) (hopen : opensBlock before = true)
    (hfits : misfit? before line = none) :
    GroupedBehind before (line :: rest) (line :: pending) g := by
  refine ⟨allFit_cons.mpr ⟨hfits, h.fit⟩, fun hclosed => ?_, ?_, ?_, h.sublist.cons_cons line⟩
  · rw [hopen] at hclosed
    cases hclosed
  · rw [h.pending_eq]
    simp [Line.isHeading, linesOfKind_cons, hkind]
  · rw [h.blocks_eq, blocksOf]
    simp [hkind]

/-- Behind a relationship no block is open, so no attribute is left over. -/
theorem closed (h : GroupedBehind (before ++ [line]) rest pending g)
    (hkind : line.kind = .relationship) (hclosed : opensBlock (before ++ [line]) = false)
    (hfits : misfit? before line = none) :
    GroupedBehind before (line :: rest) pending
      { g with relationships := line :: g.relationships } := by
  have hnil : pending = [] := h.pending_eq_nil hclosed
  refine ⟨allFit_cons.mpr ⟨hfits, h.fit⟩, fun _ => hnil, ?_, ?_, h.sublist.cons line⟩
  · rw [hnil]
    simp [Line.isHeading, hkind]
  · rw [blocksOf]
    simp [hkind, h.blocks_eq]

end GroupedBehind

/-- Behind some lines, grouping fails at the first misfit or gives what the kinds of the lines say. -/
theorem ofLinesFrom_cases (lines : List Line) : ∀ before : List Line,
    (∃ fault, Grouping.ofLinesFrom (opensBlock before) lines = .error fault ∧
        FirstMisfit before lines fault) ∨
      ∃ pending g, Grouping.ofLinesFrom (opensBlock before) lines = .ok (pending, g) ∧
        GroupedBehind before lines pending g := by
  induction lines with
  | nil =>
    intro before
    exact .inr ⟨[], {}, rfl, AllFit.nil _, fun _ => rfl, rfl, rfl, List.Sublist.slnil⟩
  | cons line rest ih =>
    intro before
    have hopen := opensBlock_concat before line
    -- whatever fits, the first misfit of the rest is the first misfit
    have hlater : misfit? before line = none →
        (∃ fault, Grouping.ofLinesFrom (opensBlock (before ++ [line])) rest = .error fault ∧
          FirstMisfit before (line :: rest) fault) ∨
        ∃ pending g, Grouping.ofLinesFrom (opensBlock (before ++ [line])) rest = .ok (pending, g) ∧
          GroupedBehind (before ++ [line]) rest pending g := by
      intro hfits
      refine (ih (before ++ [line])).imp_left ?_
      rintro ⟨fault, heq, hfirst⟩
      exact ⟨fault, heq, hfirst.cons hfits⟩
    cases hkind : line.kind with
    | unknown =>
      have hmisfit : misfit? before line = some (.unclassified line) := by simp [misfit?, hkind]
      exact .inl ⟨_, by simp [Grouping.ofLinesFrom, hkind], .of_misfit hmisfit rest⟩
    | blank | commentOnly =>
      have hfits : misfit? before line = none := by simp [misfit?, hkind]
      have hheading : line.isHeading = false := by simp [Line.isHeading, hkind]
      simp only [hkind] at hopen
      simp only [Grouping.ofLinesFrom, hkind, ← hopen]
      refine (hlater hfits).imp_right ?_
      rintro ⟨pending, g, heq, h⟩
      exact ⟨pending, g, heq, h.skip hheading (by simp [hkind]) hfits hopen rfl⟩
    | globalOptions =>
      have hfits : misfit? before line = none := by simp [misfit?, hkind]
      have hheading : line.isHeading = false := by simp [Line.isHeading, hkind]
      simp only [hkind] at hopen
      simp only [Grouping.ofLinesFrom, hkind, ← hopen]
      rcases hlater hfits with ⟨fault, heq, hfirst⟩ | ⟨pending, g, heq, h⟩
      · exact .inl ⟨fault, by rw [heq]; rfl, hfirst⟩
      · refine .inr ⟨pending, { g with options := line :: g.options }, by rw [heq]; rfl, ?_⟩
        exact h.skip hheading (by simp [hkind]) hfits hopen rfl
    | entityName =>
      have hfits : misfit? before line = none := by simp [misfit?, hkind]
      simp only [hkind] at hopen
      simp only [Grouping.ofLinesFrom, hkind]
      rw [hopen] at hlater
      rcases hlater hfits with ⟨fault, heq, hfirst⟩ | ⟨pending, g, heq, h⟩
      · exact .inl ⟨fault, by rw [heq]; rfl, hfirst⟩
      · exact .inr ⟨[], _, by rw [heq]; rfl, h.opened hkind hfits⟩
    | entityAttribute =>
      cases hblock : opensBlock before with
      | false =>
        have hmisfit : misfit? before line = some (.notOpened line) := by
          simp [misfit?, hkind, hblock]
        exact .inl ⟨_, by simp [Grouping.ofLinesFrom, hkind], .of_misfit hmisfit rest⟩
      | true =>
        have hfits : misfit? before line = none := by simp [misfit?, hkind, hblock]
        simp only [hkind, hblock] at hopen
        simp only [Grouping.ofLinesFrom, hkind, if_true]
        rw [hopen] at hlater
        rcases hlater hfits with ⟨fault, heq, hfirst⟩ | ⟨pending, g, heq, h⟩
        · exact .inl ⟨fault, by rw [heq]; rfl, hfirst⟩
        · exact .inr ⟨line :: pending, g, by rw [heq]; rfl, h.kept hkind hblock hfits⟩
    | relationship =>
      have hfits : misfit? before line = none := by simp [misfit?, hkind]
      simp only [hkind] at hopen
      simp only [Grouping.ofLinesFrom, hkind]
      rw [hopen] at hlater
      rcases hlater hfits with ⟨fault, heq, hfirst⟩ | ⟨pending, g, heq, h⟩
      · exact .inl ⟨fault, by rw [heq]; rfl, hfirst⟩
      · exact .inr ⟨pending, _, by rw [heq]; rfl, h.closed hkind hopen hfits⟩

/-- Grouping fails exactly with the fault of the first line that does not fit. -/
theorem firstMisfit_of_ofLines (h : Grouping.ofLines lines = .error fault) :
    FirstMisfit [] lines fault := by
  rcases ofLinesFrom_cases lines [] with ⟨first, heq, hfirst⟩ | ⟨pending, g, heq, -⟩
  · change (Grouping.ofLinesFrom (opensBlock []) lines).map (·.2) = _ at h
    rw [heq] at h
    cases h
    exact hfirst
  · change (Grouping.ofLinesFrom (opensBlock []) lines).map (·.2) = _ at h
    rw [heq] at h
    cases h

/-- When grouping succeeds, all lines fit, the blocks are those that the kinds of the lines tell, and
their lines stand in the document in the same order. -/
theorem blocks_of_ofLines {g : Grouping} (h : Grouping.ofLines lines = .ok g) :
    AllFit [] lines ∧ g.blocks = blocksOf lines ∧ (g.blocks.flatMap Block.lines).Sublist lines := by
  rcases ofLinesFrom_cases lines [] with ⟨first, heq, -⟩ | ⟨pending, g', heq, hgrouped⟩
  · change (Grouping.ofLinesFrom (opensBlock []) lines).map (·.2) = _ at h
    rw [heq] at h
    cases h
  · change (Grouping.ofLinesFrom (opensBlock []) lines).map (·.2) = _ at h
    rw [heq] at h
    cases h
    refine ⟨hgrouped.fit, hgrouped.blocks_eq, ?_⟩
    have hsublist := hgrouped.sublist
    rwa [hgrouped.pending_eq_nil rfl] at hsublist

end ErDiagram

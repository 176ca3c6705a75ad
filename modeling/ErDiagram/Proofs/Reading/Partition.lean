import ErDiagram.Proofs.Reading.Alike
import ErDiagram.Proofs.Reading.Staged
import ErDiagram.Proofs.Reading.Unit

set_option autoImplicit false

/-!
# Grouping partitions the document

If grouping succeeds, every line that is neither blank nor a comment is in exactly one queue, each queue
stands in document order, and an attribute belongs to the entity that was named last before it.  If it
fails, there is one error, on the first line that is misplaced: it is of no kind, or it is an attribute
without an entity to belong to.  Blank lines, comments and global options make no difference to the
blocks.
-/

namespace ErDiagram

/-- Lines of the kind are passed over. -/
def LineKind.isPassedOver : LineKind → Bool
  | .blank | .commentOnly => true
  | _ => false

/-- The lines that are to be grouped. -/
def groupedLines (lines : List Line) : List Line := lines.filter fun line => !line.kind.isPassedOver

theorem groupedLines_cons (line : Line) (rest : List Line) :
    groupedLines (line :: rest) =
      if line.kind.isPassedOver = true then groupedLines rest else line :: groupedLines rest := by
  cases h : line.kind.isPassedOver <;> simp [groupedLines, h]

/-- Of the lines that name entities or relate them, `head` is the last. -/
structure LastHeading (lines front : List Line) (head : Line) (between : List Line) : Prop where
  lines_eq : lines = front ++ head :: between
  heading : head.isHeading = true
  none_between : ∀ line ∈ between, line.isHeading = false

/-- An attribute behind the lines has no entity to belong to: none of the lines is a heading, or the last
heading is a relationship. -/
def Unowned (before : List Line) : Prop :=
  (∀ line ∈ before, line.isHeading = false) ∨
    ∃ front head between, LastHeading before front head between ∧ head.kind = .relationship

/-- Behind these lines, the line fits nowhere. -/
def Misplaced (before : List Line) (line : Line) : Prop :=
  line.kind = .unknown ∨ line.kind = .entityAttribute ∧ Unowned before

/-- The line is in the block of the heading, at the place that the lines in front of it tell: as many
blocks stand in front of its block as lines that name entities in front of the heading, and as many
attributes in front of the line as attribute lines between the heading and the line. -/
def Grouping.Owns (g : Grouping) (front : List Line) (head : Line) (between : List Line) (line : Line) :
    Prop :=
  ∃ b, g.blocks[(linesOfKind .entityName front).length]? = some b ∧ b.head = head ∧
    b.attributes[(linesOfKind .entityAttribute between).length]? = some line

/-- The units hold each line that is to be grouped exactly once, in document order, and each attribute
is in the block of the last heading before it. -/
structure Grouping.Partitions (g : Grouping) (lines : List Line) : Prop extends g.Sorts lines where
  perm : (g.options ++ g.blocks.flatMap Block.lines ++ g.relationships).Perm (groupedLines lines)
  attributes_eq : g.blocks.flatMap (·.attributes) = linesOfKind .entityAttribute lines
  sublist : (g.blocks.flatMap Block.lines).Sublist lines
  owned : ∀ before line rest, lines = before ++ line :: rest → line.kind = .entityAttribute →
    ∃ front head between, LastHeading before front head between ∧ head.kind = .entityName ∧
      g.Owns front head between line

/-- Grouping stops at the first misplaced line, and says why it does not fit. -/
structure GroupingFault.IsFirstMisplaced (fault : GroupingFault) (lines before rest : List Line) :
    Prop where
  lines_eq : lines = before ++ fault.line :: rest
  misplaced : Misplaced before fault.line
  first : ∀ front line behind, before = front ++ line :: behind → ¬ Misplaced front line
  cause_eq : fault.cause =
    if fault.line.kind = .unknown then .unknownLineType else .entityNotOpened

variable {before lines rest : List Line} {line : Line} {fault : GroupingFault}

/-! ## The last heading -/

theorem isHeading_iff :
    line.isHeading = true ↔ line.kind = .entityName ∨ line.kind = .relationship := by
  cases hkind : line.kind <;> simp [Line.isHeading, hkind]

/-- The last heading is found from behind. -/
theorem find?_reverse_eq_some_iff {head : Line} :
    before.reverse.find? (·.isHeading) = some head ↔
      ∃ front between, LastHeading before front head between := by
  rw [List.find?_eq_some_iff_append]
  constructor
  · rintro ⟨hheading, behind, front, hbefore, hnone⟩
    refine ⟨front.reverse, behind.reverse, ?_, hheading, ?_⟩
    · rw [← List.reverse_reverse before, hbefore]
      simp
    · intro l hl
      simpa using hnone l (List.mem_reverse.mp hl)
  · rintro ⟨front, between, rfl, hheading, hnone⟩
    refine ⟨hheading, between.reverse, front.reverse, by simp, ?_⟩
    intro l hl
    simpa using hnone l (List.mem_reverse.mp hl)

theorem opensBlock_eq_true_iff : opensBlock before = true ↔
    ∃ front head between, LastHeading before front head between ∧ head.kind = .entityName := by
  unfold opensBlock
  constructor
  · intro h
    split at h
    · rename_i head hfind
      obtain ⟨front, between, hlast⟩ := find?_reverse_eq_some_iff.mp hfind
      exact ⟨front, head, between, hlast, of_decide_eq_true h⟩
    · cases h
  · rintro ⟨front, head, between, hlast, hkind⟩
    rw [find?_reverse_eq_some_iff.mpr ⟨front, between, hlast⟩]
    exact decide_eq_true hkind

theorem opensBlock_eq_false_iff : opensBlock before = false ↔ Unowned before := by
  unfold opensBlock
  constructor
  · intro h
    split at h
    · rename_i head hfind
      obtain ⟨front, between, hlast⟩ := find?_reverse_eq_some_iff.mp hfind
      have hname := of_decide_eq_false h
      exact .inr ⟨front, head, between, hlast, (isHeading_iff.mp hlast.heading).resolve_left hname⟩
    · rename_i hfind
      refine .inl fun l hl => ?_
      simpa using List.find?_eq_none.mp hfind l (List.mem_reverse.mpr hl)
  · rintro (hnone | ⟨front, head, between, hlast, hkind⟩)
    · have hfind : before.reverse.find? (·.isHeading) = none := by
        refine List.find?_eq_none.mpr fun l hl => ?_
        simp [hnone l (List.mem_reverse.mp hl)]
      rw [hfind]
    · rw [find?_reverse_eq_some_iff.mpr ⟨front, between, hlast⟩]
      simp [hkind]

/-! ## Misplaced lines -/

/-- A line fits where it is not misplaced. -/
theorem misfit?_eq_none_iff : misfit? before line = none ↔ ¬ Misplaced before line := by
  unfold misfit? Misplaced
  rw [← opensBlock_eq_false_iff]
  cases hkind : line.kind <;> cases opensBlock before <;> simp

/-- A line that does not fit is misplaced, and its kind tells the cause. -/
theorem misplaced_of_misfit? (h : misfit? before line = some fault) :
    Misplaced before line ∧
      fault.cause = if line.kind = .unknown then .unknownLineType else .entityNotOpened := by
  refine ⟨?_, ?_⟩
  · by_contra hplaced
    rw [misfit?_eq_none_iff.mpr hplaced] at h
    cases h
  · unfold misfit? at h
    split at h
    · rename_i hkind
      cases h
      rw [if_pos hkind]
      rfl
    · rename_i hkind
      split at h
      · cases h
      · cases h
        simp [hkind, GroupingFault.cause]
    · cases h

theorem allFit_nil_iff : AllFit [] lines ↔
    ∀ before line rest, lines = before ++ line :: rest → ¬ Misplaced before line := by
  unfold AllFit
  simp only [List.nil_append, misfit?_eq_none_iff]

theorem FirstMisfit.isFirstMisplaced (h : FirstMisfit [] lines fault) :
    ∃ before rest, fault.IsFirstMisplaced lines before rest := by
  obtain ⟨front, rest, hlines, hmisfit, hfit⟩ := h
  obtain ⟨hmisplaced, hcause⟩ := misplaced_of_misfit? hmisfit
  exact ⟨front, rest, hlines, hmisplaced, allFit_nil_iff.mp hfit, hcause⟩

/-! ## Each line once -/

/-- The lines of the units and the attributes in front of them are the lines that are to be grouped, and
the attributes stand in document order.  Where no block is open, no attribute is left over. -/
structure CoversFrom (isOpen : Bool) (lines pending : List Line) (g : Grouping) : Prop where
  pending_eq_nil : isOpen = false → pending = []
  perm : (pending ++ (g.options ++ g.blocks.flatMap Block.lines ++ g.relationships)).Perm
    (groupedLines lines)
  attributes_eq : pending ++ g.blocks.flatMap (·.attributes) = linesOfKind .entityAttribute lines

namespace CoversFrom

variable {isOpen : Bool} {pending : List Line} {g : Grouping}

theorem passOver (h : CoversFrom isOpen rest pending g) (hkind : line.kind.isPassedOver = true) :
    CoversFrom isOpen (line :: rest) pending g := by
  obtain ⟨hnil, hperm, hattributes⟩ := h
  have hattribute : line.kind ≠ .entityAttribute := by
    intro heq
    rw [heq] at hkind
    cases hkind
  exact ⟨hnil, by rwa [groupedLines_cons, if_pos hkind],
    by rwa [linesOfKind_cons, if_neg hattribute]⟩

theorem options (h : CoversFrom isOpen rest pending g) (hkind : line.kind = .globalOptions) :
    CoversFrom isOpen (line :: rest) pending { g with options := line :: g.options } := by
  obtain ⟨hnil, hperm, hattributes⟩ := h
  refine ⟨hnil, ?_, by simpa [linesOfKind_cons, hkind] using hattributes⟩
  rw [groupedLines_cons, hkind]
  exact List.perm_middle.trans (hperm.cons line)

/-- A line that names an entity opens a block for the attributes behind it. -/
theorem opened (h : CoversFrom true rest pending g) (hkind : line.kind = .entityName) :
    CoversFrom isOpen (line :: rest) [] { g with blocks := ⟨line, pending⟩ :: g.blocks } := by
  obtain ⟨-, hperm, hattributes⟩ := h
  refine ⟨fun _ => rfl, ?_, by simpa [linesOfKind_cons, hkind] using hattributes⟩
  rw [groupedLines_cons, hkind]
  have hmoved : (g.options ++ (line :: pending ++ g.blocks.flatMap Block.lines)).Perm
      (line :: (pending ++ (g.options ++ g.blocks.flatMap Block.lines))) := by
    exact List.perm_middle.trans ((List.perm_append_comm_assoc _ _ _).cons line)
  have hrest := List.append_assoc pending (g.options ++ g.blocks.flatMap Block.lines) g.relationships
  exact (hmoved.append_right g.relationships).trans ((hrest ▸ hperm).cons line)

theorem kept (h : CoversFrom true rest pending g) (hkind : line.kind = .entityAttribute) :
    CoversFrom true (line :: rest) (line :: pending) g := by
  obtain ⟨-, hperm, hattributes⟩ := h
  refine ⟨nofun, ?_, ?_⟩
  · rw [groupedLines_cons, hkind]
    exact hperm.cons line
  · rw [linesOfKind_cons, if_pos hkind]
    exact congrArg (line :: ·) hattributes

theorem related (h : CoversFrom false rest pending g) (hkind : line.kind = .relationship) :
    CoversFrom isOpen (line :: rest) pending { g with relationships := line :: g.relationships } := by
  obtain ⟨hnil, hperm, hattributes⟩ := h
  refine ⟨fun _ => hnil rfl, ?_, by simpa [linesOfKind_cons, hkind] using hattributes⟩
  rw [hnil rfl, List.nil_append] at hperm
  rw [groupedLines_cons, hkind, hnil rfl, List.nil_append]
  exact List.perm_middle.trans (hperm.cons line)

end CoversFrom

theorem coversFrom_of_ofLinesFrom : ∀ {isOpen : Bool} {pending : List Line} {g : Grouping},
    Grouping.ofLinesFrom isOpen lines = .ok (pending, g) → CoversFrom isOpen lines pending g := by
  induction lines with
  | nil =>
    intro isOpen pending g h
    cases h
    exact ⟨fun _ => rfl, List.Perm.nil, rfl⟩
  | cons line rest ih =>
    intro isOpen pending g h
    cases hkind : line.kind with
    | blank | commentOnly =>
      simp only [Grouping.ofLinesFrom, hkind] at h
      exact (ih h).passOver (by rw [hkind]; rfl)
    | globalOptions =>
      simp only [Grouping.ofLinesFrom, hkind] at h
      obtain ⟨⟨behind, units⟩, hrest, heq⟩ := Except.map_eq_ok_iff.mp h
      cases heq
      exact (ih hrest).options hkind
    | entityName =>
      simp only [Grouping.ofLinesFrom, hkind] at h
      obtain ⟨⟨behind, units⟩, hrest, heq⟩ := Except.map_eq_ok_iff.mp h
      cases heq
      exact (ih hrest).opened hkind
    | entityAttribute =>
      simp only [Grouping.ofLinesFrom, hkind] at h
      cases isOpen with
      | false => cases h
      | true =>
        obtain ⟨⟨behind, units⟩, hrest, heq⟩ := Except.map_eq_ok_iff.mp h
        cases heq
        exact (ih hrest).kept hkind
    | relationship =>
      simp only [Grouping.ofLinesFrom, hkind] at h
      obtain ⟨⟨behind, units⟩, hrest, heq⟩ := Except.map_eq_ok_iff.mp h
      cases heq
      exact (ih hrest).related hkind
    | unknown =>
      simp only [Grouping.ofLinesFrom, hkind] at h
      cases h

/-! ## Each attribute in its block -/

/-- The block of a name is found behind as many blocks as there are names in front. -/
theorem getElem?_blocksOf {head : Line} (hkind : head.kind = .entityName) (front behind : List Line) :
    (blocksOf (front ++ head :: behind))[(linesOfKind .entityName front).length]? =
      some ⟨head, attributesAhead behind⟩ := by
  induction front with
  | nil =>
    rw [List.nil_append, blocksOf, if_pos hkind]
    rfl
  | cons line front ih =>
    rw [List.cons_append, blocksOf, linesOfKind_cons]
    split
    · exact ih
    · exact ih

/-- An attribute is found behind as many attributes as there are between the heading and it. -/
theorem getElem?_attributesAhead {between : List Line} (hkind : line.kind = .entityAttribute)
    (hnone : ∀ l ∈ between, l.isHeading = false) (rest : List Line) :
    (attributesAhead (between ++ line :: rest))[(linesOfKind .entityAttribute between).length]? =
      some line := by
  induction between with
  | nil =>
    rw [List.nil_append, attributesAhead_cons, Line.isHeading, hkind]
    rfl
  | cons l between ih =>
    have hrest := ih fun l hl => hnone l (List.mem_cons_of_mem _ hl)
    rw [List.cons_append, attributesAhead_cons, hnone l List.mem_cons_self, linesOfKind_cons]
    split
    · rename_i hheading
      cases hheading
    · split
      · exact hrest
      · exact hrest

/-- Where the lines can be grouped, each attribute is in the block of the last heading before it. -/
theorem Grouping.exists_owns {g : Grouping} (h : ofLines lines = .ok g)
    (hlines : lines = before ++ line :: rest) (hkind : line.kind = .entityAttribute) :
    ∃ front head between, LastHeading before front head between ∧ head.kind = .entityName ∧
      g.Owns front head between line := by
  obtain ⟨hfit, hblocks, -⟩ := blocks_of_ofLines h
  have howned : ¬ Unowned before := fun hunowned =>
    allFit_nil_iff.mp hfit before line rest hlines (.inr ⟨hkind, hunowned⟩)
  have hopen : opensBlock before = true := by
    by_contra hclosed
    exact howned (opensBlock_eq_false_iff.mp (Bool.eq_false_iff.mpr hclosed))
  obtain ⟨front, head, between, hlast, hname⟩ := opensBlock_eq_true_iff.mp hopen
  refine ⟨front, head, between, hlast, hname, ⟨head, attributesAhead (between ++ line :: rest)⟩, ?_,
    rfl, getElem?_attributesAhead hkind hlast.none_between rest⟩
  rw [hblocks, hlines, hlast.lines_eq, List.append_assoc, List.cons_append]
  exact getElem?_blocksOf hname front _

theorem Grouping.partitions_of_ofLines {g : Grouping} (h : ofLines lines = .ok g) :
    g.Partitions lines := by
  obtain ⟨-, -, hsublist⟩ := blocks_of_ofLines h
  have hsorts := sorts_of_ofLines h
  obtain ⟨⟨pending, g⟩, hfrom, rfl⟩ := Except.map_eq_ok_iff.mp h
  obtain ⟨hnil, hperm, hattributes⟩ := coversFrom_of_ofLinesFrom hfrom
  rw [hnil rfl, List.nil_append] at hperm hattributes
  exact ⟨hsorts, hperm, hattributes, hsublist, fun _ _ _ => Grouping.exists_owns h⟩

/-! ## Lines that make no difference to the blocks -/

/-- The blocks, or the line at which grouping stops, depend on the placed lines alone. -/
theorem Grouping.map_blocks_ofLines (lines : List Line) :
    (ofLines lines).map (·.blocks) = (ofLines (placedLines lines)).map (·.blocks) := by
  rw [ofLines, ofLinesFrom_eq, ofLines]
  cases ofLinesFrom false (placedLines lines) <;> rfl

theorem placedLines_append_cons (front : List Line) (hplaced : line.kind.isPlaced = false) :
    placedLines (front ++ line :: rest) = placedLines (front ++ rest) := by
  have hline : ¬ line.isPlaced = true := by
    rw [Line.isPlaced, hplaced]
    exact Bool.false_ne_true
  simp only [placedLines, List.filter_append, List.filter_cons_of_neg hline]

/-! ## Reports -/

/-- A document that cannot be grouped has one report, on the line where grouping stops. -/
theorem exists_report_of_ofLines (h : Grouping.ofLines lines = .error fault) (ids : IdSource) :
    ∃ r, (readDocument Catalog.english ids lines).result = .ok (.error [r]) ∧
      r.line = some fault.line ∧ r.kind = fault.cause.kind := by
  obtain ⟨r, hr⟩ := Catalog.exists_english_report fault.cause (some fault.line)
  obtain ⟨hkind, hline⟩ := kind_of_report hr
  refine ⟨r, ?_, hline, hkind⟩
  unfold readDocument
  simp only [h, Catalog.describe_cause.mpr hr]
  rfl

/-- Grouping gives a partition of the lines, and then none is misplaced; or it stops at the first line
that is misplaced, and this is the only error of the document.  A line of global options, a blank line or
a comment can be put in or left out, and the blocks stay as they are. -/
theorem grouping_partitions (lines : List Line) :
    ((∃ g, Grouping.ofLines lines = .ok g ∧ g.Partitions lines ∧
        ∀ before line rest, lines = before ++ line :: rest → ¬ Misplaced before line) ∨
      ∃ fault before rest, Grouping.ofLines lines = .error fault ∧
        fault.IsFirstMisplaced lines before rest ∧
        ∀ ids, ∃ r, (readDocument Catalog.english ids lines).result = .ok (.error [r]) ∧
          r.line = some fault.line ∧ r.kind = fault.cause.kind) ∧
    ∀ front line rest, lines = front ++ line :: rest →
      line.kind = .globalOptions ∨ line.kind = .blank ∨ line.kind = .commentOnly →
      (Grouping.ofLines lines).map (·.blocks) = (Grouping.ofLines (front ++ rest)).map (·.blocks) := by
  constructor
  · cases h : Grouping.ofLines lines with
    | ok g =>
      obtain ⟨hfit, -, -⟩ := blocks_of_ofLines h
      exact .inl ⟨g, rfl, Grouping.partitions_of_ofLines h, allFit_nil_iff.mp hfit⟩
    | error fault =>
      obtain ⟨before, rest, hfirst⟩ := (firstMisfit_of_ofLines h).isFirstMisplaced
      exact .inr ⟨fault, before, rest, rfl, hfirst, exists_report_of_ofLines h⟩
  · rintro front line rest rfl hkind
    have hplaced : line.kind.isPlaced = false := by
      rcases hkind with hkind | hkind | hkind <;> rw [hkind] <;> rfl
    rw [Grouping.map_blocks_ofLines, placedLines_append_cons front hplaced,
      ← Grouping.map_blocks_ofLines]

/-- Global options and a comment leave a block open, and a relationship closes it. -/
example :
    (Grouping.ofLines [⟨1, "[Track]".toList⟩, ⟨2, "\x7btitle: red\x7d".toList⟩, ⟨3, "# key".toList⟩,
        ⟨4, "*id".toList⟩]).map (·.blocks) = .ok [⟨⟨1, "[Track]".toList⟩, [⟨4, "*id".toList⟩]⟩] ∧
      Grouping.ofLines [⟨1, "[Track]".toList⟩, ⟨2, "[Track] 1--* [Album]".toList⟩, ⟨3, "*id".toList⟩] =
        .error (.notOpened ⟨3, "*id".toList⟩) := by
  decide +kernel

end ErDiagram

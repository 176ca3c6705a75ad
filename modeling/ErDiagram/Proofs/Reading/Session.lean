import ErDiagram.Proofs.Reading.Fresh
import ErDiagram.Reading.Session

set_option autoImplicit false

/-!
# Sharing a source of ids is harmless

A session reads one document after the other with the ids of one source, whatever else it does in between.
The source only counts on, also past documents that are rejected and past blocks whose name is taken.  So
the ids of all diagrams that are read with one source carry growing numbers, and none comes twice.  Apart
from ids, each step is answered as if every source were fresh; and a document that stays open is read
every time as its lines are.
-/

namespace ErDiagram

open IdSource (Numbered idOf entityWord relationshipWord)

/-! ## Ids with growing numbers -/

namespace IdSource

/-- The ids of a word carry growing numbers, all of them behind `start`. -/
def Growing (word : Text) (start : Nat) (given : List Text) : Prop :=
  ∃ numbers : List Nat, given = numbers.map (idOf word) ∧ numbers.Pairwise (· < ·) ∧
    ∀ n ∈ numbers, start < n

variable {word : Text} {start : Nat} {given rest : List Text} {s : IdSource}

theorem growing_nil (word : Text) (start : Nat) : Growing word start [] := ⟨[], rfl, .nil, by simp⟩

theorem Growing.mono {before : Nat} (h : Growing word start given) (hle : before ≤ start) :
    Growing word before given := by
  obtain ⟨numbers, hgiven, hgrowing, hstart⟩ := h
  exact ⟨numbers, hgiven, hgrowing, fun n hn => hle.trans_lt (hstart n hn)⟩

/-- Ids of growing numbers are different. -/
theorem Growing.nodup (h : Growing word start given) : given.Nodup := by
  obtain ⟨numbers, rfl, hgrowing, -⟩ := h
  exact List.Nodup.map (idOf_injective word) (hgrowing.imp Nat.ne_of_lt)

theorem Growing.sublist {given' : List Text} (h : Growing word start given)
    (hsublist : given'.Sublist given) : Growing word start given' := by
  obtain ⟨numbers, rfl, hgrowing, hstart⟩ := h
  obtain ⟨numbers', hnumbers, rfl⟩ := List.sublist_map_iff.mp hsublist
  exact ⟨numbers', rfl, hgrowing.sublist hnumbers, fun n hn => hstart n (hnumbers.subset hn)⟩

/-- The next ids of a source, and behind them ids that are handed out later. -/
theorem Numbered.growing_append (h : Numbered word start s given)
    (hrest : Growing word (s.issued word) rest) : Growing word start (given ++ rest) := by
  obtain ⟨numbers, rfl, hgrowing, hstart⟩ := hrest
  refine ⟨List.range' (start + 1) given.length ++ numbers, ?_, ?_, ?_⟩
  · rw [List.map_append, ← h.given_eq]
  · refine List.pairwise_append.mpr ⟨List.pairwise_lt_range', hgrowing, fun m hm n hn => ?_⟩
    have hlast := hstart n hn
    rw [h.issued_eq] at hlast
    have hnumber := (List.mem_range'_1.mp hm).2
    omega
  · intro n hn
    rcases List.mem_append.mp hn with hown | hlater
    · exact (List.mem_range'_1.mp hown).1
    · have hlast := hstart n hlater
      rw [h.issued_eq] at hlast
      omega

end IdSource

/-! ## What is read along a session -/

/-- The diagram of an answer, if it has one. -/
def SessionAnswer.diagram? : SessionAnswer → Option Diagram
  | .diagram d => some d
  | .checked (.ok d) => some d
  | _ => none

/-- The answer about an open document, from the outcome of reading it. -/
def SessionAnswer.ofOutcome : Except Halt (Except (List Report) Diagram) → SessionAnswer
  | .error cause => .halted cause
  | .ok result => .checked result

/-- The line that a step puts at the end of the open document, if it does so. -/
def SessionStep.appended? : SessionStep → Option Line
  | .appendLine line => some line
  | _ => none

/-- The answer under no ids. -/
def SessionAnswer.withoutIds : SessionAnswer → SessionAnswer
  | .id _ => .id []
  | .diagram d => .diagram d.withoutIds
  | .checked result => .checked (result.map Diagram.withoutIds)
  | .entity e => .entity e.withoutId
  | .relationship r => .relationship r.withoutId
  | answer => answer

namespace Session

/-- The session after steps. -/
def after (c : Catalog) (s : Session) (steps : List SessionStep) : Session :=
  steps.foldl (fun s step => (s.step c step).session) s

/-- The number of the source with which a step reads a document, if it reads one. -/
def readsWith? (s : Session) : SessionStep → Option Nat
  | .readLines _ | .readText _ => some s.current
  | .readDocument => s.document.map (·.source)
  | _ => none

/-- The diagrams that steps read with a source of ids, in order. -/
def diagrams (c : Catalog) (n : Nat) : Session → List SessionStep → List Diagram
  | _, [] => []
  | s, step :: rest =>
    (if s.readsWith? step = some n then (s.step c step).answer.diagram?.toList else []) ++
      diagrams c n (s.step c step).session rest

/-- The session with fresh sources of ids in place of its own. -/
def renewed (s : Session) : Session := { s with sources := s.sources.map fun _ => {} }

/-- That the documents of a session share a source of ids does no harm. -/
structure SharedHarmlessly (c : Catalog) (steps : List SessionStep) (n : Nat) : Prop where
  entities_nodup : ((diagrams c n {} steps).flatMap fun d => d.entities.map (·.id)).Nodup
  relationships_nodup : ((diagrams c n {} steps).flatMap fun d => d.relationships.map (·.id)).Nodup
  entities_growing : ∀ d ∈ diagrams c n {} steps, IdSource.Growing entityWord 0 (d.entities.map (·.id))
  relationships_growing : ∀ d ∈ diagrams c n {} steps,
    IdSource.Growing relationshipWord 0 (d.relationships.map (·.id))
  answer_eq : ∀ before step rest, steps = before ++ step :: rest →
    ((after c {} before).step c step).answer.withoutIds =
      ((after c {} before).renewed.step c step).answer.withoutIds
  /-- a document that is open is read, however often, as its lines are with a fresh source -/
  readDocument_eq : ∀ before opened since rest,
    steps = before ++ .openDocument opened :: (since ++ .readDocument :: rest) →
    (∀ other, .openDocument other ∉ since) →
    ((after c {} (before ++ .openDocument opened :: since)).step c .readDocument).answer.withoutIds =
      (SessionAnswer.ofOutcome (ErDiagram.readDocument c {} (Line.ofTexts
        (opened.map fun l => l.getD []) ++ since.filterMap SessionStep.appended?)).result).withoutIds

variable {c : Catalog} {s s' : Session} {n : Nat} {ids : IdSource} {word : Text} {step : SessionStep}

/-! ## What a step keeps -/

/-- What every step from one session to another keeps: sources are only added, and only hand out ids; and
an open document is read with the source it was opened with. -/
structure Precedes (s s' : Session) : Prop where
  length_le : s.sources.length ≤ s'.sources.length
  issued_le : ∀ n word, (s.source n).issued word ≤ (s'.source n).issued word
  document_source : ∀ d', s'.document = some d' →
    d'.source = s.current ∨ ∃ d, s.document = some d ∧ d'.source = d.source

theorem Precedes.refl (s : Session) : s.Precedes s :=
  ⟨Nat.le_refl _, fun _ _ => Nat.le_refl _, fun d' h => .inr ⟨d', h, rfl⟩⟩

theorem source_withSource_self (h : n < s.sources.length) (ids : IdSource) :
    (s.withSource n ids).source n = ids := by
  simp [withSource, source, h]

theorem source_withSource_ne {m : Nat} (h : m ≠ n) (ids : IdSource) :
    (s.withSource n ids).source m = s.source m := by
  simp [withSource, source, List.getElem?_set_ne h.symm]

theorem precedes_withSource (h : ∀ word, (s.source n).issued word ≤ ids.issued word) :
    s.Precedes (s.withSource n ids) := by
  refine ⟨by simp [withSource], fun m word => ?_, fun d' hd' => .inr ⟨d', hd', rfl⟩⟩
  by_cases hm : m = n
  · subst hm
    by_cases hlt : m < s.sources.length
    · rw [source_withSource_self hlt]
      exact h word
    · rw [source, List.getElem?_eq_none (Nat.le_of_not_lt hlt)]
      exact Nat.zero_le _
  · rw [source_withSource_ne hm]

theorem read_session (s : Session) (n : Nat) (reader : IdSource → DocumentReading)
    (answer : Except (List Report) Diagram → SessionAnswer) :
    (s.read n reader answer).session = s.withSource n (reader (s.source n)).ids := by
  cases h : (reader (s.source n)).result <;> simp only [read, h]

theorem read_answer (s : Session) (n : Nat) (reader : IdSource → DocumentReading)
    (answer : Except (List Report) Diagram → SessionAnswer) :
    (s.read n reader answer).answer = match (reader (s.source n)).result with
      | .error cause => .halted cause
      | .ok result => answer result := by
  cases h : (reader (s.source n)).result <;> simp only [read, h]

theorem precedes_read (c : Catalog) (s : Session) (n : Nat) (lines : List Line)
    (answer : Except (List Report) Diagram → SessionAnswer) :
    s.Precedes (s.read n (fun ids => readDocument c ids lines) answer).session := by
  rw [read_session]
  exact precedes_withSource (issues_readDocument c _ lines).issued_le

theorem precedes_readUnit {α : Type} (c : Catalog) (s : Session) (n : Nat) (word : Text)
    (reader : Text → Reading α) (answer : α → SessionAnswer) :
    s.Precedes (readUnit c s n ((s.source n).next word) reader answer).session := by
  unfold readUnit
  split
  · exact precedes_withSource ((s.source n).issued_le_next word)
  · split <;> exact .refl s

/-- A fresh source has handed out as much as a source that is not there. -/
theorem source_append_fresh (s : Session) (n : Nat) :
    ({ s with sources := s.sources ++ [{}] } : Session).source n = s.source n := by
  rw [source, source]
  rcases Nat.lt_trichotomy n s.sources.length with hlt | rfl | hgt
  · rw [List.getElem?_append_left hlt]
  · simp
  · rw [List.getElem?_eq_none (by simp; omega), List.getElem?_eq_none (by omega)]

theorem precedes_step (c : Catalog) (s : Session) (step : SessionStep) :
    s.Precedes (s.step c step).session := by
  cases step with
  | freshIds =>
    refine ⟨by simp [Session.step], fun n word => ?_, fun d' hd' => .inr ⟨d', hd', rfl⟩⟩
    rw [Session.step, source_append_fresh]
  | nextId word => exact precedes_withSource ((s.source s.current).issued_le_next word)
  | readLines lines => exact precedes_read c s _ _ _
  | readText t => exact precedes_read c s _ _ _
  | openDocument lines =>
    refine ⟨Nat.le_refl _, fun _ _ => Nat.le_refl _, fun d' hd' => .inl ?_⟩
    exact (Option.some.inj hd') ▸ rfl
  | appendLine line =>
    rw [Session.step]
    split
    · exact .refl s
    · rename_i d hd
      refine ⟨Nat.le_refl _, fun _ _ => Nat.le_refl _, fun d' hd' => .inr ⟨d, hd, ?_⟩⟩
      exact (Option.some.inj hd') ▸ rfl
  | readDocument =>
    rw [Session.step]
    split
    · exact .refl s
    · exact precedes_read c s _ _ _
  | openBlock block =>
    exact ⟨Nat.le_refl _, fun _ _ => Nat.le_refl _, fun d' hd' => .inr ⟨d', hd', rfl⟩⟩
  | addAttribute line =>
    rw [Session.step]
    split
    · exact .refl s
    · exact ⟨Nat.le_refl _, fun _ _ => Nat.le_refl _, fun d' hd' => .inr ⟨d', hd', rfl⟩⟩
  | readBlock =>
    rw [Session.step]
    split
    · exact .refl s
    · exact precedes_readUnit c s _ _ _ _
  | readRelationship lines => exact precedes_readUnit c s _ _ _ _

/-- There is a source, and the open document is read with one of the sources. -/
structure Sound (s : Session) : Prop where
  sources_pos : 0 < s.sources.length
  document_source : ∀ d, s.document = some d → d.source < s.sources.length

theorem sound_fresh : Sound {} := ⟨Nat.one_pos, nofun⟩

theorem Sound.current_lt (h : s.Sound) : s.current < s.sources.length := by
  have hpos := h.sources_pos
  rw [current]
  omega

theorem Precedes.sound (h : s.Precedes s') (hs : s.Sound) : s'.Sound := by
  refine ⟨hs.sources_pos.trans_le h.length_le, fun d' hd' => ?_⟩
  rcases h.document_source d' hd' with hcurrent | ⟨d, hd, hsource⟩
  · exact hcurrent ▸ hs.current_lt.trans_le h.length_le
  · exact hsource ▸ (hs.document_source d hd).trans_le h.length_le

/-! ## Ids along a session -/

/-- A step that reads a document reads it with one of the sources, and answers with the outcome. -/
theorem Sound.exists_read (hs : s.Sound) (h : s.readsWith? step = some n) :
    n < s.sources.length ∧ ∃ lines answer,
      s.step c step = s.read n (fun ids => readDocument c ids lines) answer ∧
        ∀ result d, (answer result).diagram? = some d → result = .ok d := by
  cases step with
  | readLines lines =>
    obtain rfl := Option.some.inj h
    refine ⟨hs.current_lt, _, answerAtOnce, rfl, fun result d hd => ?_⟩
    cases result <;> cases hd
    rfl
  | readText t =>
    obtain rfl := Option.some.inj h
    refine ⟨hs.current_lt, _, answerAtOnce, rfl, fun result d hd => ?_⟩
    cases result <;> cases hd
    rfl
  | readDocument =>
    obtain ⟨d, hd, rfl⟩ := Option.map_eq_some_iff.mp h
    refine ⟨hs.document_source d hd, d.lines, .checked, ?_, fun result d hd => ?_⟩
    · rw [Session.step, hd]
    · cases result <;> cases hd
      rfl
  | _ => cases h

/-- The ids of a diagram that a step reads are the next ones of the source. -/
theorem Sound.issues (hs : s.Sound) (h : s.readsWith? step = some n) {d : Diagram}
    (hd : (s.step c step).answer.diagram? = some d) :
    ∃ r, Issues (s.source n) r ∧ r.result = .ok (.ok d) ∧ (s.step c step).session.source n = r.ids := by
  obtain ⟨hlt, lines, answer, hstep, hanswer⟩ := hs.exists_read (c := c) h
  refine ⟨readDocument c (s.source n) lines, issues_readDocument c _ lines, ?_, ?_⟩
  · rw [hstep, read_answer] at hd
    cases hresult : (readDocument c (s.source n) lines).result with
    | error cause =>
      rw [hresult] at hd
      cases hd
    | ok result =>
      rw [hresult] at hd
      rw [hanswer result d hd]
  · rw [hstep, read_session, source_withSource_self hlt]

/-- Ids of diagrams that are the next ones of the source wherever a document is read carry growing numbers
along all steps. -/
theorem growing_diagrams {idsOf : Diagram → List Text}
    (hnumbered : ∀ ids r d, Issues ids r → r.result = .ok (.ok d) →
      Numbered word (ids.issued word) r.ids (idsOf d)) (steps : List SessionStep) :
    ∀ {s : Session}, s.Sound →
      IdSource.Growing word ((s.source n).issued word) ((diagrams c n s steps).flatMap idsOf) := by
  induction steps with
  | nil => exact fun _ => IdSource.growing_nil word _
  | cons step rest ih =>
    intro s hs
    have hprecedes := precedes_step c s step
    have hrest := ih (hprecedes.sound hs)
    have hkept := hrest.mono (hprecedes.issued_le n word)
    rw [diagrams]
    split
    · rename_i hreads
      cases hd : (s.step c step).answer.diagram? with
      | none => exact hkept
      | some d =>
        obtain ⟨r, hissues, hresult, hsource⟩ := hs.issues hreads hd
        rw [hsource] at hrest
        exact (hnumbered _ r d hissues hresult).growing_append hrest
    · exact hkept

/-- Of ids that grow along all diagrams, those of each diagram grow. -/
theorem growing_of_mem {idsOf : Diagram → List Text} {all : List Diagram} {start : Nat}
    (h : IdSource.Growing word start (all.flatMap idsOf)) {d : Diagram} (hd : d ∈ all) :
    IdSource.Growing word 0 (idsOf d) := by
  refine (h.sublist ?_).mono (Nat.zero_le start)
  rw [List.flatMap_def]
  exact List.sublist_flatten_of_mem (List.mem_map_of_mem hd)

/-! ## Answers apart from ids -/

theorem source_renewed (s : Session) (n : Nat) : s.renewed.source n = {} := by
  rw [renewed, source, List.getElem?_map]
  cases s.sources[n]? <;> rfl

theorem current_renewed (s : Session) : s.renewed.current = s.current := by
  simp [renewed, current]

/-- A document that is read whatever the ids are is answered the same apart from ids. -/
theorem withoutIds_answer_read {reader : IdSource → DocumentReading}
    {answer : Except (List Report) Diagram → SessionAnswer}
    (hreader : ∀ ids ids',
      outcomeWithoutIds (reader ids).result = outcomeWithoutIds (reader ids').result)
    (hanswer : ∀ x y, x.map Diagram.withoutIds = y.map Diagram.withoutIds →
      (answer x).withoutIds = (answer y).withoutIds) :
    (s.read n reader answer).answer.withoutIds = (s'.read n reader answer).answer.withoutIds := by
  rw [read_answer, read_answer]
  rcases Except.cases_of_map_eq (hreader (s.source n) (s'.source n)) with
    ⟨cause, hresult, hresult'⟩ | ⟨x, y, hresult, hresult', hsame⟩
  · rw [hresult, hresult']
  · rw [hresult, hresult']
    exact hanswer x y hsame

theorem readUnit_answer {α : Type} (c : Catalog) (s : Session) (n : Nat) (next : Text × IdSource)
    (reader : Text → Reading α) (answer : α → SessionAnswer) :
    (readUnit c s n next reader answer).answer = match (reader next.1).result with
      | .ok a => answer a
      | .error fault =>
        match c.describe fault with
        | .ok report => .reported report
        | .error cause => .halted cause := by
  unfold readUnit
  rcases reader next.1 with ⟨log, fault | a⟩
  · cases h : c.describe fault <;> simp only [h]
  · rfl

/-- A unit that is read whatever its id is is answered the same apart from ids. -/
theorem withoutIds_answer_readUnit {α : Type} {reader : Text → Reading α} {answer : α → SessionAnswer}
    {next next' : Text × IdSource}
    (hreader : ∀ id id', (reader id).result.map (fun a => (answer a).withoutIds) =
      (reader id').result.map fun a => (answer a).withoutIds) :
    (readUnit c s n next reader answer).answer.withoutIds =
      (readUnit c s' n next' reader answer).answer.withoutIds := by
  rw [readUnit_answer, readUnit_answer]
  rcases Except.cases_of_map_eq (hreader next.1 next'.1) with
    ⟨fault, hresult, hresult'⟩ | ⟨a, a', hresult, hresult', hsame⟩
  · rw [hresult, hresult']
  · rw [hresult, hresult']
    exact hsame

theorem withoutIds_answerAtOnce (x y : Except (List Report) Diagram)
    (h : x.map Diagram.withoutIds = y.map Diagram.withoutIds) :
    (answerAtOnce x).withoutIds = (answerAtOnce y).withoutIds := by
  rcases Except.cases_of_map_eq h with ⟨reports, rfl, rfl⟩ | ⟨d, d', rfl, rfl, hsame⟩
  · rfl
  · exact congrArg SessionAnswer.diagram hsame

/-- A step is answered as if the sources were fresh, apart from ids. -/
theorem withoutIds_answer_renewed (c : Catalog) (s : Session) (step : SessionStep) :
    (s.step c step).answer.withoutIds = (s.renewed.step c step).answer.withoutIds := by
  cases step with
  | freshIds | nextId | openDocument | openBlock => rfl
  | readLines lines =>
    rw [Session.step, Session.step, current_renewed]
    exact withoutIds_answer_read (fun ids ids' => readDocument_withoutIds c ids ids' _)
      withoutIds_answerAtOnce
  | readText t =>
    rw [Session.step, Session.step, current_renewed]
    exact withoutIds_answer_read (fun ids ids' => readDocument_withoutIds c ids ids' _)
      withoutIds_answerAtOnce
  | appendLine line =>
    have hdocument : s.renewed.document = s.document := rfl
    rw [Session.step, Session.step, hdocument]
    cases s.document <;> rfl
  | readDocument =>
    have hdocument : s.renewed.document = s.document := rfl
    rw [Session.step, Session.step, hdocument]
    cases s.document with
    | none => rfl
    | some d =>
      exact withoutIds_answer_read (fun ids ids' => readDocument_withoutIds c ids ids' _)
        fun x y h => congrArg SessionAnswer.checked h
  | addAttribute line =>
    have hblock : s.renewed.block = s.block := rfl
    rw [Session.step, Session.step, hblock]
    cases s.block <;> rfl
  | readBlock =>
    have hblock : s.renewed.block = s.block := rfl
    rw [Session.step, Session.step, hblock]
    cases s.block with
    | none => rfl
    | some b =>
      refine withoutIds_answer_readUnit fun id id' => ?_
      rw [b.block.read_result id, b.block.read_result id']
      cases (b.block.read []).result <;> rfl
  | readRelationship lines =>
    rw [Session.step, Session.step, current_renewed]
    refine withoutIds_answer_readUnit fun id id' => ?_
    match lines with
    | [] | _ :: _ :: _ => rfl
    | [line] =>
      rw [readRelationship_result line id, readRelationship_result line id']
      cases (readRelationshipLine line).result <;> rfl

/-! ## The open document -/

theorem readUnit_document {α : Type} (c : Catalog) (s : Session) (n : Nat) (next : Text × IdSource)
    (reader : Text → Reading α) (answer : α → SessionAnswer) :
    (readUnit c s n next reader answer).session.document = s.document := by
  unfold readUnit
  split
  · rfl
  · split <;> rfl

/-- A step that opens no document keeps the one that is open, but for a line at its end. -/
theorem document_step {d : OpenDocument} (hd : s.document = some d)
    (hopens : ∀ other, step ≠ .openDocument other) :
    (s.step c step).session.document = some ⟨d.source, d.lines ++ step.appended?.toList⟩ := by
  have hkept : s.document = some ⟨d.source, d.lines ++ []⟩ := by rw [hd, List.append_nil]
  cases step with
  | freshIds | nextId | openBlock => exact hkept
  | readLines | readText =>
    rw [Session.step, read_session]
    exact hkept
  | openDocument other => exact absurd rfl (hopens other)
  | appendLine line =>
    rw [Session.step, hd]
    rfl
  | readDocument =>
    simp only [Session.step, hd, read_session]
    exact hkept
  | addAttribute line =>
    rw [Session.step]
    split <;> exact hkept
  | readBlock =>
    rw [Session.step]
    split
    · exact hkept
    · exact (readUnit_document ..).trans hkept
  | readRelationship => exact (readUnit_document ..).trans hkept

/-- Behind steps that open no document, the open one has all lines that were put at its end. -/
theorem document_after {since : List SessionStep} (hopens : ∀ other, .openDocument other ∉ since) :
    ∀ {s : Session} {d : OpenDocument}, s.document = some d →
      (after c s since).document =
        some ⟨d.source, d.lines ++ since.filterMap SessionStep.appended?⟩ := by
  induction since with
  | nil =>
    intro s d hd
    rw [after, List.foldl_nil, hd, List.filterMap_nil, List.append_nil]
  | cons step rest ih =>
    intro s d hd
    have hstep : ∀ other, step ≠ .openDocument other := fun other heq =>
      hopens other (heq ▸ List.mem_cons_self)
    have hrest : ∀ other, .openDocument other ∉ rest := fun other hmem =>
      hopens other (List.mem_cons_of_mem _ hmem)
    have hlines : (step :: rest).filterMap SessionStep.appended? =
        step.appended?.toList ++ rest.filterMap SessionStep.appended? := by
      rw [List.filterMap_cons]
      cases step.appended? <;> rfl
    rw [after, List.foldl_cons, hlines, ← List.append_assoc]
    exact ih hrest (document_step hd hstep)

/-- The open document is answered as its lines are with a fresh source, apart from ids. -/
theorem withoutIds_answer_readDocument (c : Catalog) {d : OpenDocument} (hd : s.document = some d) :
    (s.step c .readDocument).answer.withoutIds =
      (SessionAnswer.ofOutcome (ErDiagram.readDocument c {} d.lines).result).withoutIds := by
  have hrenewed : s.renewed.document = some d := hd
  rw [withoutIds_answer_renewed, Session.step, hrenewed]
  dsimp only
  rw [read_answer, source_renewed]
  cases (ErDiagram.readDocument c {} d.lines).result <;> rfl

/-! ## Whole sessions -/

/-- Whatever is done in a session, and with whichever of its sources documents are read: no id is given to
two entities or to two relationships, the ids of each diagram grow, and apart from ids everything is
answered as if the sources were fresh.  A document that is open is read as its lines are, also again. -/
theorem sharedHarmlessly (c : Catalog) (steps : List SessionStep) (n : Nat) :
    SharedHarmlessly c steps n := by
  have hentities := growing_diagrams (c := c) (n := n) (fun _ _ d h => h.entities d) steps sound_fresh
  have hrelationships :=
    growing_diagrams (c := c) (n := n) (fun _ _ d h => h.relationships d) steps sound_fresh
  constructor
  · exact hentities.nodup
  · exact hrelationships.nodup
  · exact fun d hd => growing_of_mem hentities hd
  · exact fun d hd => growing_of_mem hrelationships hd
  · exact fun before step _ _ => withoutIds_answer_renewed c (after c {} before) step
  · intro before opened since _ _ hopens
    have hopened : ((after c {} before).step c (.openDocument opened)).session.document =
        some ⟨_, Line.ofTexts (opened.map fun l => l.getD [])⟩ := rfl
    rw [after, List.foldl_append, List.foldl_cons]
    exact withoutIds_answer_readDocument c (document_after hopens hopened)

end Session

end ErDiagram

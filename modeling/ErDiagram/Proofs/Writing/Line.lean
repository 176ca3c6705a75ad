import ErDiagram.Proofs.Reading.Grammar

set_option autoImplicit false

/-!
# Writing lines that begin with a bracket

A line of global options is an option list in curly brackets, and a line that names an entity is a
name in its brackets with an option list behind it.  A relationship is two names in brackets around a
cardinality token.  A written line has the kind that it was written for, and it is read as what it was
written from.
-/

namespace ErDiagram

open Quoting (Hides IsMarks hides_blank)
open ErDiagram.Field (IsClosedGroup group)

/-! ## Parts that may be left out

Such a part is written in brackets behind a blank. -/

/-- A part in its brackets, or nothing if it is left out. -/
def bracketed (kind : Bracket) : Option Text → Text
  | none => []
  | some inner => group kind inner

/-- A part in its brackets behind a blank, or nothing if it is left out. -/
def suffix (kind : Bracket) : Option Text → Text
  | none => []
  | some inner => ' ' :: group kind inner

theorem hides_suffix {p : Char → Bool} {kind : Bracket} {part : Option Text} (hblank : p ' ' = false)
    (hleft : p kind.left = false) (hright : p kind.right = false)
    (h : ∀ inner, part = some inner → Hides p inner) : Hides p (suffix kind part) := by
  cases part with
  | none => exact Quoting.hides_nil
  | some inner =>
    exact (hides_blank hblank).append (Field.hides_group kind hleft hright (h inner rfl))

theorem trimmed_suffix {p : Char → Bool} {kind : Bracket} {t : Text} (hright : p kind.right = false)
    (hne : t ≠ []) (ht : Text.Trimmed p t) (part : Option Text) :
    Text.Trimmed p (t ++ suffix kind part) := by
  cases part with
  | none =>
    rw [suffix, List.append_nil]
    exact ht
  | some inner =>
    refine Text.trimmed_append hne (List.cons_ne_nil _ _) ht.head ?_
    intro c hc
    have hlast : (suffix kind (some inner)).getLast? = some kind.right :=
      (List.getLast?_append_of_ne_nil [' '] (Field.group_ne_nil kind inner)).trans
        (Field.getLast?_group kind inner)
    rw [hlast, Option.some.injEq] at hc
    exact hc ▸ hright

/-! ## Bodies

A written line is its own body: neither blanks around it nor a comment is there to be taken off. -/

theorem isMarks_comment : Quoting.IsMarks (· == Quoting.commentMark) :=
  Quoting.isMarks_beq (by decide) (by decide)

/-- The line is its own body: it is not empty, has no blanks around it and shows no comment mark. -/
structure IsBody (t : Text) : Prop where
  ne_nil : t ≠ []
  trimmed : Text.Trimmed Text.isBlank t
  hides : Hides (· == Quoting.commentMark) t

namespace IsBody

variable {t : Text}

theorem strip_eq (h : IsBody t) : Text.strip t = t := Text.stripOf_eq_self h.trimmed

theorem lineFields_eq (h : IsBody t) : lineFields t = Field.cut t Bracket.all := by
  rw [lineFields, h.strip_eq, Quoting.removeComment_of_hides h.hides]

theorem body_eq {line : Line} (h : IsBody line.text) : line.body = line.text := by
  rw [Line.body, h.strip_eq, Quoting.removeComment_of_hides h.hides, h.strip_eq]

theorem kind_eq {line : Line} (h : IsBody line.text) : line.kind = LineKind.ofBody line.text := by
  have hne : line.text.isEmpty = false := List.isEmpty_eq_false_iff.mpr h.ne_nil
  rw [Line.kind, h.body_eq, h.strip_eq, hne]
  rfl

end IsBody

/-! ## Options and verb phrases that may be left out -/

/-- The options of a place with what is given for them, if anything is. -/
def givenOptions {allowed : List OptionName} : Option (WrittenOptions allowed) → OptionMap
  | none => OptionMap.ofNames allowed
  | some s => (OptionMap.ofNames allowed).set s

/-- The verb phrase that is given, if there is one. -/
def givenVerb : Option WrittenVerb → VerbPhrase
  | none => {}
  | some v => v.toVerbPhrase

/-- Options, as far as they are given, hide marks other than their own. -/
theorem hides_options {allowed : List OptionName} {p : Char → Bool} (hp : IsMarks p)
    (hseparator : p optionSeparator = false) (hassignment : p optionAssignment = false)
    (hblank : p ' ' = false) (options : Option (WrittenOptions allowed)) :
    ∀ inner, options.map (·.written) = some inner → Hides p inner := by
  intro inner hinner
  obtain ⟨s, -, rfl⟩ := Option.map_eq_some_iff.mp hinner
  exact s.hides_written hp hseparator hassignment hblank

theorem hides_verb {p : Char → Bool} (hp : IsMarks p) (verb : Option WrittenVerb) :
    ∀ inner, verb.map (·.written) = some inner → Hides p inner := by
  intro inner hinner
  obtain ⟨v, -, rfl⟩ := Option.map_eq_some_iff.mp hinner
  exact v.hides_written hp

theorem WrittenOptions.isClosedGroup {allowed : List OptionName} (s : WrittenOptions allowed) :
    IsClosedGroup .curly (group .curly s.written) :=
  Field.isClosedGroup_iff.mpr
    ⟨_, rfl, s.hides_written (Quoting.isMarks_beq (by decide) (by decide)) rfl rfl rfl⟩

theorem WrittenVerb.isClosedGroup (v : WrittenVerb) : IsClosedGroup .angle (group .angle v.written) :=
  Field.isClosedGroup_iff.mpr
    ⟨_, rfl, v.hides_written (Quoting.isMarks_beq (by decide) (by decide))⟩

theorem readOptions_written {allowed : List OptionName} (hnodup : allowed.Nodup)
    (s : WrittenOptions allowed) (line : Line) :
    (readOptions s.written allowed (some line)).result = .ok ((OptionMap.ofNames allowed).set s) :=
  readOptions_eq_ok.mpr
    ⟨s.raw, s.readOptionList_written,
      s.applyOptions_raw hnodup (OptionMap.typedFor_ofNames hnodup) line⟩

/-- A written option part is read as what is given, also if it is left out. -/
theorem readOptionPart_written {allowed : List OptionName} (hnodup : allowed.Nodup)
    (options : Option (WrittenOptions allowed)) (line : Line) :
    (readOptionPart (bracketed .curly (options.map (·.written))) allowed line).result =
      .ok (givenOptions options) := by
  rw [readOptionPart_eq_ok]
  cases options with
  | none => exact .inl ⟨rfl, rfl⟩
  | some s =>
    refine .inr ⟨Field.group_ne_nil _ _, Field.encloses_group _ _, ?_⟩
    rw [Option.map_some, bracketed, Field.inner_group, s.strip_written]
    exact readOptions_written hnodup s line

/-- A written option part is one of the grammar, behind a blank or left out. -/
theorem exists_optionText_suffix {allowed : List OptionName} (hnodup : allowed.Nodup)
    (options : Option (WrittenOptions allowed)) (line : Line) :
    ∃ blanks o, suffix .curly (options.map (·.written)) = blanks ++ o ∧ IsGap blanks ∧
      OptionText allowed line o (givenOptions options) := by
  cases options with
  | none => exact ⟨[], [], rfl, by simp [IsGap], .absent⟩
  | some s =>
    refine ⟨[' '], group .curly s.written, rfl, List.forall_mem_singleton.mpr rfl,
      .present s.isClosedGroup ?_⟩
    rw [Field.inner_group]
    exact readOptions_written hnodup s line

/-- A written verb phrase is one of the grammar in front of what follows it, also if it is left out. -/
theorem exists_verbText_suffix (verb : Option WrittenVerb) {blanks : Text} (hblanks : IsGap blanks)
    (o : Text) :
    ∃ blanks' v, suffix .angle (verb.map (·.written)) ++ (blanks ++ o) = blanks' ++ (v ++ o) ∧
      IsGap blanks' ∧ VerbText v (givenVerb verb) := by
  cases verb with
  | none => exact ⟨blanks, [], rfl, hblanks, .absent⟩
  | some v =>
    refine ⟨[' '], group .angle v.written ++ blanks, by simp [suffix],
      List.forall_mem_singleton.mpr rfl, .present v.isClosedGroup ?_ hblanks⟩
    rw [Field.inner_group]
    exact v.readVerbPhrase_written

/-- A written name is one of the grammar. -/
theorem NamePart.isNameGroup_written (n : NamePart) :
    IsNameGroup n.written n.name.text n.dependency := by
  refine ⟨n.bracket, n.bracket_mem, Field.isClosedGroup_iff.mpr ⟨_, rfl, n.closed⟩, ?_,
    n.name.ne_nil, n.dependency_bracket.symm⟩
  rw [NamePart.written, Field.inner_group, n.name.strip_written, n.name.unquote_written]

/-! ## Lines of global options -/

namespace WrittenOptions

variable (s : WrittenOptions OptionName.ofDiagram)

/-- The options in their brackets. -/
def line : Text := group .curly s.written

theorem isBody_line : IsBody s.line := by
  have hblank := Field.isBlank_bracket .curly
  exact ⟨Field.group_ne_nil _ _, Field.trimmed_group _ _ hblank.1 hblank.2,
    Field.hides_group .curly rfl rfl (s.hides_written isMarks_comment rfl rfl rfl)⟩

theorem kind_line {line : Line} (hline : line.text = s.line) : line.kind = .globalOptions := by
  have hbody : IsBody line.text := hline ▸ s.isBody_line
  have hcurly : isEnclosed s.line [.curly] = true := by
    rw [isEnclosed_singleton]
    exact Field.encloses_group .curly _
  rw [hbody.kind_eq, hline, LineKind.ofBody, hcurly]
  rfl

/-- A line of global options puts what it gives over the options so far. -/
theorem readGlobalOptions_line {line : Line} (hline : line.text = s.line) {m : OptionMap}
    (hm : m.TypedFor OptionName.ofDiagram) :
    (readGlobalOptions m line).result = .ok (m.set s) := by
  have hbody : IsBody line.text := hline ▸ s.isBody_line
  have hinner : stripBrackets line.body [.curly] = s.written := by
    rw [hbody.body_eq, hline, WrittenOptions.line,
      stripBrackets_of_encloses (List.mem_singleton_self _) (Field.encloses_group _ _),
      Field.inner_group, s.strip_written]
  rw [readGlobalOptions_eq_ok, hinner]
  exact ⟨s.raw, s.readOptionList_written, s.applyOptions_raw OptionMap.nodup_ofDiagram hm line⟩

end WrittenOptions

/-! ## Lines that name entities -/

/-- The first line of an entity block. -/
structure WrittenHead where
  part : NamePart
  options : Option (WrittenOptions OptionName.ofEntity)

namespace WrittenHead

variable (h : WrittenHead)

/-- The name in its brackets, and the options. -/
def written : Text := h.part.written ++ suffix .curly (h.options.map (·.written))

theorem isBody_written : IsBody h.written := by
  have hpart := h.part.written_ne_nil
  have hcurly := Field.isBlank_bracket .curly
  refine ⟨?_, ?_, ?_⟩
  · simp [written, hpart]
  · exact trimmed_suffix hcurly.2 hpart h.part.trimmed_written _
  · exact h.part.hides_comment.append
      (hides_suffix rfl rfl rfl (hides_options isMarks_comment rfl rfl rfl h.options))

/-- What the line says. -/
def toEntityLine : EntityLine := ⟨h.part.name.text, h.part.dependency, givenOptions h.options⟩

theorem entityText_written (line : Line) : EntityText line h.written h.toEntityLine := by
  obtain ⟨blanks, o, hsuffix, hblanks, ho⟩ :=
    exists_optionText_suffix OptionMap.nodup_ofEntity h.options line
  rw [written, hsuffix]
  exact .intro h.part.isNameGroup_written hblanks ho

theorem readEntityLine_written {line : Line} (hline : line.text = h.written) :
    (readEntityLine line).result = .ok h.toEntityLine := by
  have hbody : IsBody line.text := hline ▸ h.isBody_written
  refine readEntityLine_of_entityText ?_
  rw [hbody.body_eq, hline]
  exact h.entityText_written line

theorem kind_written {line : Line} (hline : line.text = h.written) : line.kind = .entityName :=
  kind_of_readEntityLine (h.readEntityLine_written hline)

end WrittenHead

/-! ## Relationships

A relationship is written as two names in brackets around a cardinality token, with a verb phrase and
an option list behind them. -/

/-- A relationship line.  Its counts allow the dependencies of its sides. -/
structure WrittenRelationship where
  first : NamePart
  cardinality : CardinalityToken
  second : NamePart
  verb : Option WrittenVerb
  options : Option (WrittenOptions OptionName.ofRelationship)
  allowed : allowsDependencies cardinality.toCardinality.first.count
    cardinality.toCardinality.second.count first.dependency second.dependency = true

namespace WrittenRelationship

variable (r : WrittenRelationship)

/-- The cardinality between blanks. -/
def gap : Text := ' ' :: r.cardinality.written ++ [' ']

/-- The verb phrase and the options. -/
def tail : Text :=
  suffix .angle (r.verb.map (·.written)) ++ suffix .curly (r.options.map (·.written))

/-- The two names around the cardinality, the verb phrase and the options. -/
def written : Text := r.first.written ++ (r.gap ++ (r.second.written ++ r.tail))

theorem hides_gap {p : Char → Bool} (hblank : p ' ' = false)
    (h : (CardinalityToken.symbols.all fun c => !p c) = true) : Hides p r.gap :=
  ((hides_blank hblank).append (r.cardinality.hides_written h)).append (hides_blank hblank)

theorem isBody_written : IsBody r.written := by
  have hfront : r.first.written ++ (r.gap ++ r.second.written) ≠ [] := by
    simp [r.first.written_ne_nil]
  have hassoc : r.written = r.first.written ++ (r.gap ++ r.second.written) ++
      suffix .angle (r.verb.map (·.written)) ++ suffix .curly (r.options.map (·.written)) := by
    simp [written, tail]
  have htrimmed : Text.Trimmed Text.isBlank (r.first.written ++ (r.gap ++ r.second.written)) := by
    refine Text.trimmed_append r.first.written_ne_nil (by simp [r.second.written_ne_nil])
      r.first.trimmed_written.head ?_
    intro c hc
    rw [List.getLast?_append_of_ne_nil _ r.second.written_ne_nil] at hc
    exact r.second.trimmed_written.last c hc
  rw [hassoc]
  refine ⟨by simp [r.first.written_ne_nil], ?_, ?_⟩
  · refine trimmed_suffix (Field.isBlank_bracket .curly).2 (by simp [r.first.written_ne_nil]) ?_ _
    exact trimmed_suffix (Field.isBlank_bracket .angle).2 hfront htrimmed _
  · have hnames := r.first.hides_comment.append
      ((r.hides_gap rfl rfl).append r.second.hides_comment)
    have hverb := hides_verb isMarks_comment r.verb
    have hoptions := hides_options isMarks_comment rfl rfl rfl r.options
    exact (hnames.append (hides_suffix rfl rfl rfl hverb)).append
      (hides_suffix rfl rfl rfl hoptions)

/-- What the line says. -/
def toRelationshipLine : RelationshipLine where
  entity1 := r.first.name.text
  dependency1 := r.first.dependency
  entity2 := r.second.name.text
  dependency2 := r.second.dependency
  cardinality := r.cardinality.toCardinality
  verb := givenVerb r.verb
  options := givenOptions r.options

theorem relationshipText_written (line : Line) :
    RelationshipText line r.written r.toRelationshipLine := by
  obtain ⟨blanks, o, hsuffix, hblanks, ho⟩ :=
    exists_optionText_suffix OptionMap.nodup_ofRelationship r.options line
  obtain ⟨blanks3, v, hverbSuffix, hblanks3, hv⟩ := exists_verbText_suffix r.verb hblanks o
  have hblank : IsGap [' '] := List.forall_mem_singleton.mpr rfl
  have hwritten : r.written = r.first.written ++ ([' '] ++ (r.cardinality.written ++ ([' '] ++
      (r.second.written ++ (blanks3 ++ (v ++ o)))))) := by
    rw [written, gap, tail, hsuffix, hverbSuffix]
    simp
  rw [hwritten]
  exact .intro r.first.isNameGroup_written hblank rfl hblank r.second.isNameGroup_written hblanks3 hv
    ho r.allowed

theorem readRelationshipLine_written {line : Line} (hline : line.text = r.written) :
    (readRelationshipLine line).result = .ok r.toRelationshipLine := by
  have hbody : IsBody line.text := hline ▸ r.isBody_written
  refine readRelationshipLine_of_relationshipText ?_
  rw [hbody.body_eq, hline]
  exact r.relationshipText_written line

theorem kind_written {line : Line} (hline : line.text = r.written) : line.kind = .relationship :=
  kind_of_readRelationshipLine (r.readRelationshipLine_written hline)

end WrittenRelationship

end ErDiagram

import Mathlib.Data.List.Nodup
import ErDiagram.Reading.LineReader

set_option autoImplicit false

/-!
# When a reading succeeds

A reading is taken apart bind by bind: it gives a result exactly if its first step gives one and the
rest gives the result from there.  Below that stand the line readers, one statement each, which says
in full what the parts of an accepted line hold.  Later proofs cite these statements and never open
a reader again.
-/

namespace ErDiagram

namespace Reading

variable {α β : Type}

/-- Two steps give a result exactly if the first gives one from which the second gives it. -/
theorem bind_eq_ok {r : Reading α} {next : α → Reading β} {b : β} :
    (r >>= next).result = .ok b ↔ ∃ a, r.result = .ok a ∧ (next a).result = .ok b := by
  rw [bind_result]
  cases hr : r.result with
  | error fault => simp
  | ok a => simp

@[simp] theorem done_result (a : α) : (done a).result = .ok a := rfl

@[simp] theorem fail_result (fault : ReadFault) : (fail fault : Reading α).result = .error fault :=
  rfl

@[simp] theorem record_result (events : List Event) : (record events).result = .ok () := rfl

/-- A cause put on a line is a result exactly if there is no cause. -/
theorem on_eq_ok {line : Option Line} {x : Except Cause α} {a : α} :
    (on line x).result = .ok a ↔ x = .ok a := by
  rw [on_result]
  cases x with
  | error c => simp
  | ok a' => simp

/-- Nothing is refused exactly if there is nothing to refuse. -/
theorem refuse_eq_ok {line : Option Line} {cause : Option Cause} {u : Unit} :
    (refuse line cause).result = .ok u ↔ cause = none := by
  cases cause with
  | none => simp [refuse]
  | some c => simp [refuse]

end Reading

/-! ## Parts of a line -/

/-- A gap passes exactly if nothing is in it. -/
theorem refuseGap_eq_ok {gap : Text} {cause : Text → Cause} {u : Unit} :
    refuseGap gap cause = .ok u ↔ gap = [] := by
  cases gap with
  | nil => simp [refuseGap]
  | cons c cs => simp [refuseGap]

/-- A name is what stands in a text, without the blanks around it and one layer of double quotes, unless
there is nothing. -/
theorem readEntityName_eq_ok {t name : Text} :
    readEntityName t = .ok name ↔ name = Quoting.unquote (Text.strip t) ∧ name ≠ [] := by
  unfold readEntityName
  by_cases hempty : Quoting.unquote (Text.strip t) = []
  · simp only [hempty, List.isEmpty_nil, if_true, reduceCtorEq, false_iff, not_and, not_not]
    exact id
  · simp only [List.isEmpty_eq_false_iff.mpr hempty, Bool.false_eq_true, if_false, Except.ok.injEq]
    constructor
    · rintro rfl
      exact ⟨rfl, hempty⟩
    · exact fun h => h.1.symm

/-- The part is an entity name between brackets of one kind. -/
def writesName (kind : Bracket) (part name : Text) : Prop :=
  kind.encloses part = true ∧ readEntityName (Text.strip part.inner) = .ok name

/-- The dependency that brackets give to the name between them. -/
def Bracket.dependency : Bracket → Dependency
  | .square => .independent
  | _ => .dependent

/-- A text stands between brackets of one kind at most, because it opens with one character. -/
theorem Bracket.eq_of_encloses {k l : Bracket} {t : Text} (hk : k.encloses t = true)
    (hl : l.encloses t = true) : k = l := by
  simp only [encloses, Text.startsWith, Bool.and_eq_true, beq_iff_eq] at hk hl
  have hleft : k.left = l.left := Option.some.inj (hk.1.symm.trans hl.1)
  cases k <;> cases l <;> first | rfl | exact absurd hleft (by decide)

@[simp] theorem isEnclosed_singleton (t : Text) (k : Bracket) :
    isEnclosed t [k] = k.encloses t := by
  simp [isEnclosed]

theorem stripBrackets_of_encloses {t : Text} {k : Bracket} {kinds : List Bracket}
    (hmem : k ∈ kinds) (h : k.encloses t = true) : stripBrackets t kinds = Text.strip t.inner := by
  have hany : isEnclosed t kinds = true := List.any_eq_true.mpr ⟨k, hmem, h⟩
  simp [stripBrackets, hany]

/-- Between entity brackets of a kind, the name decides, and the kind gives the dependency. -/
theorem readEntityPart_of_encloses {part : Text} {role : Part} {kind : Bracket}
    (hmem : kind ∈ Bracket.entity) (h : kind.encloses part = true) :
    readEntityPart part role =
      (readEntityName (Text.strip part.inner)).map fun name => (name, kind.dependency) := by
  have hany : isEnclosed part Bracket.entity = true := List.any_eq_true.mpr ⟨kind, hmem, h⟩
  have hdependency : (if isEnclosed part [.square] then Dependency.independent else .dependent) =
      kind.dependency := by
    rw [isEnclosed_singleton]
    split
    · rename_i hsquare
      rw [Bracket.eq_of_encloses h hsquare]
      rfl
    · rename_i hsquare
      simp only [Bracket.entity, List.mem_cons, List.not_mem_nil, or_false] at hmem
      rcases hmem with rfl | rfl
      · exact absurd h hsquare
      · rfl
  unfold readEntityPart
  rw [hany, stripBrackets_of_encloses hmem h, hdependency]
  cases readEntityName (Text.strip part.inner) <;> rfl

/-- A part is read as an entity name exactly if it is a name between square or round brackets, and
the brackets give the dependency. -/
theorem readEntityPart_eq_ok {part : Text} {role : Part} {name : Text} {dependency : Dependency} :
    readEntityPart part role = .ok (name, dependency) ↔
      ∃ kind ∈ Bracket.entity, writesName kind part name ∧ dependency = kind.dependency := by
  constructor
  · intro h
    have hany : isEnclosed part Bracket.entity = true := by
      unfold readEntityPart at h
      split at h
      · cases h
      · rename_i hnot
        simpa only [Bool.not_eq_true, Bool.not_eq_false'] using hnot
    obtain ⟨kind, hmem, henclosed⟩ := List.any_eq_true.mp hany
    rw [readEntityPart_of_encloses hmem henclosed] at h
    cases hname : readEntityName (Text.strip part.inner) with
    | error c => simp [hname, Except.map] at h
    | ok read =>
      simp only [hname, Except.map, Except.ok.injEq, Prod.mk.injEq] at h
      exact ⟨kind, hmem, ⟨henclosed, h.1 ▸ hname⟩, h.2.symm⟩
  · rintro ⟨kind, hmem, ⟨henclosed, hname⟩, rfl⟩
    rw [readEntityPart_of_encloses hmem henclosed, hname]
    rfl

/-- A verb part is left out, or it is a verb phrase between angle brackets. -/
theorem readVerbPart_eq_ok {part : Text} {verb : VerbPhrase} :
    readVerbPart part = .ok verb ↔
      (part = [] ∧ verb = {}) ∨
        (part ≠ [] ∧ Bracket.angle.encloses part = true ∧
          readVerbPhrase (Text.strip part.inner) = .ok verb) := by
  unfold readVerbPart
  cases part with
  | nil => simp [@eq_comm _ verb]
  | cons c cs =>
    by_cases hangle : Bracket.angle.encloses (c :: cs) = true
    · rw [stripBrackets_of_encloses (List.mem_singleton_self _) hangle]
      simp [hangle]
    · simp [hangle]

/-- An option part is left out, or it is an option list between curly brackets. -/
theorem readOptionPart_eq_ok {part : Text} {allowed : List OptionName} {line : Line}
    {m : OptionMap} :
    (readOptionPart part allowed line).result = .ok m ↔
      (part = [] ∧ m = OptionMap.ofNames allowed) ∨
        (part ≠ [] ∧ Bracket.curly.encloses part = true ∧
          (readOptions (Text.strip part.inner) allowed (some line)).result = .ok m) := by
  unfold readOptionPart
  cases part with
  | nil => simp [@eq_comm _ m]
  | cons c cs =>
    by_cases hcurly : Bracket.curly.encloses (c :: cs) = true
    · rw [stripBrackets_of_encloses (List.mem_singleton_self _) hcurly]
      simp [hcurly]
    · simp [hcurly]

/-! ## Lines -/

/-- What an accepted line says that names an entity: its name part, its options, and nothing else. -/
theorem readEntityLine_eq_ok {line : Line} {read : EntityLine} :
    (readEntityLine line).result = .ok read ↔
      (EntityParts.ofText line.text).gapBefore = [] ∧
      readEntityPart (EntityParts.ofText line.text).entity .entityName =
        .ok (read.name, read.dependency) ∧
      (EntityParts.ofText line.text).gapBetween = [] ∧
      (readOptionPart (EntityParts.ofText line.text).options OptionName.ofEntity line).result =
        .ok read.options ∧
      (EntityParts.ofText line.text).gapAfter = [] := by
  simp only [readEntityLine, Reading.bind_eq_ok, Reading.on_eq_ok, refuseGap_eq_ok,
    Reading.pure_result, Except.ok.injEq, Prod.exists]
  constructor
  · rintro ⟨_, hbefore, name, dependency, hname, _, hbetween, options, hoptions, _, hafter, rfl⟩
    exact ⟨hbefore, hname, hbetween, hoptions, hafter⟩
  · rintro ⟨hbefore, hname, hbetween, hoptions, hafter⟩
    exact ⟨(), hbefore, _, _, hname, (), hbetween, _, hoptions, (), hafter, rfl⟩

/-- What an accepted attribute line says: a name with its key marks, its options, and nothing else. -/
theorem readAttributeLine_eq_ok {line : Line} {read : AttributeLine} :
    (readAttributeLine line).result = .ok read ↔
      readAttributeName (AttributeParts.ofText line.text).name =
        .ok ⟨read.name, read.isPrimaryKey, read.isForeignKey⟩ ∧
      (readOptionPart (AttributeParts.ofText line.text).options OptionName.ofAttribute line).result =
        .ok read.options ∧
      (AttributeParts.ofText line.text).gapAfter = [] := by
  simp only [readAttributeLine, Reading.bind_eq_ok, Reading.on_eq_ok, refuseGap_eq_ok,
    Reading.pure_result, Except.ok.injEq]
  constructor
  · rintro ⟨named, hname, options, hoptions, _, hafter, rfl⟩
    exact ⟨hname, hoptions, hafter⟩
  · rintro ⟨hname, hoptions, hafter⟩
    exact ⟨_, hname, _, hoptions, (), hafter, rfl⟩

/-- Nothing is wrong with the dependencies of two sides exactly if the counts allow them. -/
theorem dependencyCause_eq_none {c1 c2 : Count} {d1 d2 : Dependency} :
    dependencyCause c1 c2 d1 d2 = none ↔ allowsDependencies c1 c2 d1 d2 = true := by
  simp only [dependencyCause, allowsDependencies]
  generalize (d1 == Dependency.dependent) = dependent1
  generalize (d2 == Dependency.dependent) = dependent2
  cases c1 <;> cases c2 <;> cases dependent1 <;> cases dependent2 <;> simp

/-- What an accepted relationship line says: two entity names around a cardinality, a verb phrase,
options, and nothing else; and the counts allow the dependencies of its sides. -/
theorem readRelationshipLine_eq_ok {line : Line} {read : RelationshipLine} :
    (readRelationshipLine line).result = .ok read ↔
      (RelationshipParts.ofText line.text).gapBefore = [] ∧
      readEntityPart (RelationshipParts.ofText line.text).entity1 .firstEntityName =
        .ok (read.entity1, read.dependency1) ∧
      readCardinality (RelationshipParts.ofText line.text).cardinality = .ok read.cardinality ∧
      readEntityPart (RelationshipParts.ofText line.text).entity2 .secondEntityName =
        .ok (read.entity2, read.dependency2) ∧
      (RelationshipParts.ofText line.text).gapBeforeVerb = [] ∧
      readVerbPart (RelationshipParts.ofText line.text).verbPhrase = .ok read.verb ∧
      (RelationshipParts.ofText line.text).gapBeforeOptions = [] ∧
      (readOptionPart (RelationshipParts.ofText line.text).options OptionName.ofRelationship
        line).result = .ok read.options ∧
      (RelationshipParts.ofText line.text).gapAfter = [] ∧
      allowsDependencies read.cardinality.first.count read.cardinality.second.count
        read.dependency1 read.dependency2 = true := by
  simp only [readRelationshipLine, Reading.bind_eq_ok, Reading.on_eq_ok, refuseGap_eq_ok,
    Reading.refuse_eq_ok, dependencyCause_eq_none, Reading.pure_result, Except.ok.injEq,
    Prod.exists]
  constructor
  · rintro ⟨_, hbefore, name1, dependency1, hname1, cardinality, hcardinality, name2, dependency2,
      hname2, _, hverbGap, verb, hverb, _, hoptionGap, options, hoptions, _, hafter, _, hallowed, rfl⟩
    exact ⟨hbefore, hname1, hcardinality, hname2, hverbGap, hverb, hoptionGap, hoptions, hafter,
      hallowed⟩
  · rintro ⟨hbefore, hname1, hcardinality, hname2, hverbGap, hverb, hoptionGap, hoptions, hafter,
      hallowed⟩
    exact ⟨(), hbefore, _, _, hname1, _, hcardinality, _, _, hname2, (), hverbGap, _, hverb, (),
      hoptionGap, _, hoptions, (), hafter, (), hallowed, rfl⟩

end ErDiagram

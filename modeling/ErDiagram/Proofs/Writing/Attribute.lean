import ErDiagram.Proofs.Reading.Block
import ErDiagram.Proofs.Writing.Line

set_option autoImplicit false

/-!
# Writing attributes

An attribute is written as its name between double quotes, with a mark in front of it for a primary
key and one behind it for a foreign key, and an option list behind that.  The name may hold key marks
of its own.
-/

namespace ErDiagram

open Quoting (Hides hides_blank)
open ErDiagram.Field (group)

/-- An attribute line. -/
structure WrittenAttribute where
  name : QuotableName
  isPrimaryKey : Bool
  isForeignKey : Bool
  options : Option (WrittenOptions OptionName.ofAttribute)

namespace WrittenAttribute

variable (a : WrittenAttribute)

/-- A key mark, or nothing. -/
def mark (isKey : Bool) : Text := if isKey then [keyMark] else []

/-- The name between its key marks. -/
def marked : Text := mark a.isPrimaryKey ++ a.name.written ++ mark a.isForeignKey

/-- The name between its key marks, and the options. -/
def written : Text := a.marked ++ suffix .curly (a.options.map (·.written))

theorem hides_mark {p : Char → Bool} (hp : p keyMark = false) (isKey : Bool) :
    Hides p (mark isKey) := by
  unfold mark
  split
  · exact Quoting.hides_singleton (by decide) hp
  · exact Quoting.hides_nil

theorem hides_marked {p : Char → Bool} (hquote : p Quoting.quote = false)
    (hmark : p keyMark = false) : Hides p a.marked :=
  ((hides_mark hmark _).append (a.name.hides_written hquote)).append (hides_mark hmark _)

theorem marked_ne_nil : a.marked ≠ [] := by
  simp [marked, a.name.written_ne_nil]

theorem trimmed_mark_append {p : Char → Bool} (hp : p keyMark = false) (isKey : Bool) {t : Text}
    (hne : t ≠ []) (ht : Text.Trimmed p t) : Text.Trimmed p (mark isKey ++ t) := by
  cases isKey with
  | false => exact ht
  | true =>
    refine Text.trimmed_append (List.cons_ne_nil _ _) hne ?_ ht.last
    rintro c hc
    cases hc
    exact hp

theorem trimmed_append_mark {p : Char → Bool} (hp : p keyMark = false) (isKey : Bool) {t : Text}
    (hne : t ≠ []) (ht : Text.Trimmed p t) : Text.Trimmed p (t ++ mark isKey) := by
  cases isKey with
  | false =>
    rw [mark, if_neg (by decide), List.append_nil]
    exact ht
  | true =>
    refine Text.trimmed_append hne (List.cons_ne_nil _ _) ht.head ?_
    rintro c hc
    cases hc
    exact hp

theorem startsWith_mark_append (isKey : Bool) {t : Text} (h : t.startsWith keyMark = false) :
    (mark isKey ++ t).startsWith keyMark = isKey := by
  cases isKey with
  | false => exact h
  | true => rfl

theorem endsWith_append_mark (isKey : Bool) {t : Text} (h : t.endsWith keyMark = false) :
    (t ++ mark isKey).endsWith keyMark = isKey := by
  cases isKey with
  | false =>
    rw [mark, if_neg (by decide), List.append_nil]
    exact h
  | true => exact (Text.endsWith_concat t keyMark keyMark).trans (by decide)

theorem trimmed_marked : Text.Trimmed Text.isBlank a.marked := by
  have hname := a.name.trimmed_written (p := Text.isBlank) (by decide)
  have hne : mark a.isPrimaryKey ++ a.name.written ≠ [] := by simp [a.name.written_ne_nil]
  exact trimmed_append_mark (by decide) _ hne
    (trimmed_mark_append (by decide) _ a.name.written_ne_nil hname)

theorem strip_marked : Text.strip a.marked = a.marked := Text.stripOf_eq_self a.trimmed_marked

/-- Without its key marks, the marked name is the name. -/
theorem readAttributeName_marked :
    readAttributeName a.marked = .ok ⟨a.name.text, a.isPrimaryKey, a.isForeignKey⟩ := by
  have hname := a.name.trimmed_written (p := Text.isBlank) (by decide)
  have hfront : a.marked.startsWith keyMark = a.isPrimaryKey := by
    rw [marked, List.append_assoc]
    refine startsWith_mark_append _ ?_
    rw [Text.startsWith_append a.name.written_ne_nil]
    exact (Quoting.startsWith_enquote _ _).trans (by decide)
  have hback : a.marked.endsWith keyMark = a.isForeignKey := by
    refine endsWith_append_mark _ ?_
    rw [Text.endsWith_append a.name.written_ne_nil]
    exact (Quoting.endsWith_enquote _ _).trans (by decide)
  have hafterFront : (if a.isPrimaryKey then Text.strip a.marked.tail else a.marked) =
      a.name.written ++ mark a.isForeignKey := by
    have hrest : Text.Trimmed Text.isBlank (a.name.written ++ mark a.isForeignKey) :=
      trimmed_append_mark (by decide) _ a.name.written_ne_nil hname
    unfold marked
    cases a.isPrimaryKey with
    | false => rfl
    | true => exact Text.stripOf_eq_self hrest
  have hafterBack : (if a.isForeignKey then
        Text.strip (a.name.written ++ mark a.isForeignKey).dropLast
      else a.name.written ++ mark a.isForeignKey) = a.name.written := by
    cases a.isForeignKey with
    | false => exact List.append_nil _
    | true =>
      have hdrop : (a.name.written ++ mark true).dropLast = a.name.written :=
        List.dropLast_concat
      rw [if_pos rfl, hdrop]
      exact a.name.strip_written
  simp only [readAttributeName, a.strip_marked, hfront, hback, hafterFront, hafterBack,
    a.name.unquote_written, a.name.isEmpty_text]
  rfl

theorem isBody_written : IsBody a.written := by
  refine ⟨?_, ?_, ?_⟩
  · simp [written, a.marked_ne_nil]
  · exact trimmed_suffix (Field.isBlank_bracket .curly).2 a.marked_ne_nil a.trimmed_marked _
  · exact (a.hides_marked rfl rfl).append
      (hides_suffix rfl rfl rfl (hides_options isMarks_comment rfl rfl rfl a.options))

theorem opensWith_marked (kinds : List Bracket) : opensWith a.marked kinds = false := by
  have hopens : ∀ (isKey : Bool) (t : Text),
      opensWith (mark isKey ++ (Quoting.quote :: t)) kinds = false := by
    intro isKey t
    rw [opensWith, List.any_eq_false]
    intro kind _
    cases isKey <;> cases kind <;> simp [mark, Bracket.left] <;> decide
  have hmarked : a.marked = mark a.isPrimaryKey ++
      (Quoting.quote :: (a.name.text ++ [Quoting.quote] ++ mark a.isForeignKey)) := by
    simp [marked, QuotableName.written, Quoting.enquote]
  rw [hmarked]
  exact hopens _ _

theorem ofText_written : AttributeParts.ofText a.written =
    { name := a.marked, options := bracketed .curly (a.options.map (·.written)) } := by
  have hfree : Hides (Field.opens Bracket.all) a.marked := a.hides_marked rfl rfl
  rw [AttributeParts.ofText, a.isBody_written.lineFields_eq, AttributeParts.ofFields]
  cases hoptions : a.options with
  | none =>
    have hwritten : a.written = a.marked := by simp [written, hoptions, suffix]
    have hsplit : splitAtGroup [.curly] [a.marked] = none :=
      splitAtGroup_eq_none_iff.mpr (List.forall_mem_singleton.mpr (a.opensWith_marked _))
    rw [hwritten, Field.cut_free hfree a.marked_ne_nil, hsplit]
    simp [joined, a.strip_marked, bracketed]
  | some s =>
    have hwritten : a.written = (a.marked ++ [' ']) ++ (group .curly s.written ++ []) := by
      simp [written, hoptions, suffix]
    have hfront : Hides (Field.opens Bracket.all) (a.marked ++ [' ']) :=
      hfree.append (hides_blank rfl)
    have hpadded : Text.strip (a.marked ++ [' ']) = a.marked :=
      Text.stripOf_pad_right (List.forall_mem_singleton.mpr rfl) a.trimmed_marked
    rw [hwritten, cut_append_of_hides hfront s.isClosedGroup,
      splitAtGroup_of_hides hfront s.isClosedGroup (List.mem_singleton_self _)]
    simp only [joined_nonEmpty, hpadded, Field.strip_group]
    rfl

theorem kind_written {line : Line} (hline : line.text = a.written) :
    line.kind = .entityAttribute := by
  have hbody : IsBody line.text := hline ▸ a.isBody_written
  have hopens : ∀ kinds, opensWith a.written kinds = false := by
    intro kinds
    rw [written, Field.opensWith_append a.marked_ne_nil]
    exact a.opensWith_marked kinds
  rw [hbody.kind_eq, hline, LineKind.ofBody, Field.isEnclosed_of_not_opens (hopens _), hopens]
  rfl

/-- What the line says. -/
def toAttribute : Attribute :=
  ⟨a.name.text, a.isPrimaryKey, a.isForeignKey, givenOptions a.options⟩

theorem readsAttribute_written {line : Line} (hline : line.text = a.written) :
    ReadsAttribute line a.toAttribute := by
  rw [ReadsAttribute, readAttributeLine_eq_ok, hline, a.ofText_written]
  exact ⟨a.readAttributeName_marked,
    readOptionPart_written OptionMap.nodup_ofAttribute a.options line, rfl⟩

end WrittenAttribute

end ErDiagram

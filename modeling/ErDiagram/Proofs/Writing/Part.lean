import ErDiagram.Proofs.Reading.Result
import ErDiagram.Proofs.Writing.OptionList

set_option autoImplicit false

/-!
# Writing the parts of lines

Names and verb phrases are written between double quotes, and a cardinality as one of seventeen
tokens.  A part that may be left out is written behind a blank, in brackets of its own.  Each written
part is read back as what it was written from.
-/

namespace ErDiagram

open Quoting (Hides IsMarks enquote)
open ErDiagram.Field (group)

/-! ## Names -/

/-- A name or a phrase that can be written: it is not empty and holds no double quote. -/
structure QuotableName where
  text : Text
  ne_nil : text ≠ []
  noQuote : Quoting.quote ∉ text

namespace QuotableName

/-- The name between double quotes. -/
def written (n : QuotableName) : Text := enquote n.text

variable (n : QuotableName)

theorem written_ne_nil : n.written ≠ [] := Quoting.enquote_ne_nil n.text

theorem trimmed_written {p : Char → Bool} (hquote : p Quoting.quote = false) :
    Text.Trimmed p n.written :=
  Quoting.trimmed_enquote hquote n.text

theorem strip_written : Text.strip n.written = n.written :=
  Text.stripOf_eq_self (n.trimmed_written (by decide))

theorem unquote_written : Quoting.unquote n.written = n.text := Quoting.unquote_enquote n.text

theorem hides_written {p : Char → Bool} (hquote : p Quoting.quote = false) : Hides p n.written :=
  Quoting.hides_enquote hquote n.noQuote

theorem isEmpty_text : n.text.isEmpty = false := List.isEmpty_eq_false_iff.mpr n.ne_nil

theorem namePhrase_written (direction : Direction) :
    namePhrase direction n.written = .ok ⟨n.text, direction⟩ := by
  simp [namePhrase, n.unquote_written, n.ne_nil]

end QuotableName

/-! ## Entity names in brackets -/

/-- An entity name with the brackets around it. -/
structure NamePart where
  name : QuotableName
  isDependent : Bool

namespace NamePart

variable (n : NamePart)

/-- Round brackets for a dependent entity, square ones for an independent one. -/
def bracket : Bracket := if n.isDependent then .round else .square

def dependency : Dependency := if n.isDependent then .dependent else .independent

/-- The name in its brackets. -/
def written : Text := group n.bracket n.name.written

theorem bracket_mem : n.bracket ∈ Bracket.entity := by
  unfold bracket
  split <;> decide

theorem dependency_bracket : n.bracket.dependency = n.dependency := by
  unfold bracket dependency
  split <;> rfl

theorem written_ne_nil : n.written ≠ [] := Field.group_ne_nil _ _

theorem trimmed_written : Text.Trimmed Text.isBlank n.written :=
  Field.trimmed_group _ _ (Field.isBlank_bracket _).1 (Field.isBlank_bracket _).2

/-- The inside of the brackets hides the closing one. -/
theorem closed : Hides (· == n.bracket.right) n.name.written := by
  refine n.name.hides_written ?_
  cases n.bracket <;> decide

theorem hides_comment : Hides (· == Quoting.commentMark) n.written := by
  have hbracket : ∀ kind : Bracket, (kind.left == Quoting.commentMark) = false ∧
      (kind.right == Quoting.commentMark) = false := by
    intro kind
    cases kind <;> decide
  exact Field.hides_group n.bracket (hbracket n.bracket).1 (hbracket n.bracket).2
    (n.name.hides_written (by decide))

end NamePart

/-! ## Cardinalities -/

/-- What a token says about one end, if it says something. -/
inductive EndMark where
  | zeroOrOne
  | one
  | zeroOrMany
  | oneOrMany

namespace EndMark

def symbol : EndMark → Char
  | zeroOrOne => '?'
  | one => '1'
  | zeroOrMany => '*'
  | oneOrMany => '+'

def toEnd : EndMark → End
  | zeroOrOne => ⟨.one, .optional⟩
  | one => ⟨.one, .mandatory⟩
  | zeroOrMany => ⟨.many, .optional⟩
  | oneOrMany => ⟨.many, .mandatory⟩

end EndMark

/-- A cardinality token: it says something about both ends, or about neither. -/
inductive CardinalityToken where
  | unspecified
  | ends (first second : EndMark)

namespace CardinalityToken

/-- Two symbols with two dashes between them. -/
def written : CardinalityToken → Text
  | unspecified => ['-', '-', '-', '-']
  | ends first second => [first.symbol, '-', '-', second.symbol]

def toCardinality : CardinalityToken → Cardinality
  | unspecified => Cardinality.unspecified
  | ends first second => ⟨first.toEnd, second.toEnd⟩

theorem readCardinality_written (k : CardinalityToken) :
    readCardinality k.written = .ok k.toCardinality := by
  cases k with
  | unspecified => rfl
  | ends first second => cases first <;> cases second <;> rfl

/-- A symbol says nothing about its end, or it is a mark that says something about the count. -/
theorem cases_of_readEnd {c : Char} {e : End} (h : readEnd c = .ok e) :
    (c = '-' ∧ e = End.unspecified) ∨
      ∃ mark : EndMark, c = mark.symbol ∧ e = mark.toEnd ∧ e.count ≠ .unspecified := by
  unfold readEnd at h
  split at h
  · exact .inl ⟨rfl, (Except.ok.inj h).symm⟩
  · exact .inr ⟨.zeroOrOne, rfl, (Except.ok.inj h).symm, by simp [← Except.ok.inj h]⟩
  · exact .inr ⟨.one, rfl, (Except.ok.inj h).symm, by simp [← Except.ok.inj h]⟩
  · exact .inr ⟨.zeroOrMany, rfl, (Except.ok.inj h).symm, by simp [← Except.ok.inj h]⟩
  · exact .inr ⟨.oneOrMany, rfl, (Except.ok.inj h).symm, by simp [← Except.ok.inj h]⟩
  · cases h

/-- A cardinality that is read is one of the tokens, with blanks around it. -/
theorem exists_token_of_readCardinality {t : Text} {cardinality : Cardinality}
    (h : readCardinality t = .ok cardinality) :
    ∃ k : CardinalityToken, Text.strip t = k.written ∧ cardinality = k.toCardinality := by
  unfold readCardinality at h
  split at h
  · cases h
  · rename_i a b hbody
    rw [hbody]
    split at h
    · cases h
    · rename_i first hfirst
      split at h
      · cases h
      · rename_i second hsecond
        split at h
        · cases h
        · rename_i hsides
          obtain rfl := Except.ok.inj h
          rcases cases_of_readEnd hfirst with ⟨rfl, rfl⟩ | ⟨mark1, rfl, rfl, hmark1⟩
          · rcases cases_of_readEnd hsecond with ⟨rfl, rfl⟩ | ⟨mark2, rfl, rfl, hmark2⟩
            · exact ⟨.unspecified, rfl, rfl⟩
            · simp [hmark2, End.unspecified] at hsides
          · rcases cases_of_readEnd hsecond with ⟨rfl, rfl⟩ | ⟨mark2, rfl, rfl, hmark2⟩
            · simp [hmark1, End.unspecified] at hsides
            · exact ⟨.ends mark1 mark2, rfl, rfl⟩
  · cases h

/-- The characters of tokens. -/
def symbols : List Char := ['-', '?', '1', '*', '+']

theorem mem_symbols (k : CardinalityToken) : ∀ c ∈ k.written, c ∈ symbols := by
  cases k with
  | unspecified => simp [written, symbols]
  | ends first second =>
    cases first <;> cases second <;> simp [written, symbols, EndMark.symbol]

/-- A class without any of the symbols does not meet a token. -/
theorem plain_written {p : Char → Bool} (h : (symbols.all fun c => !p c) = true)
    (k : CardinalityToken) : ∀ c ∈ k.written, p c = false := by
  intro c hc
  have hall := List.all_eq_true.mp h c (k.mem_symbols c hc)
  simpa only [Bool.not_eq_true'] using hall

theorem hides_written {p : Char → Bool} (h : (symbols.all fun c => !p c) = true)
    (k : CardinalityToken) : Hides p k.written := by
  refine Quoting.hides_of_plain fun c hc => ⟨?_, k.plain_written h c hc⟩
  exact ne_of_beq_false (@plain_written (· == Quoting.quote) rfl k c hc)

end CardinalityToken

/-! ## Verb phrases -/

/-- A verb phrase and the way it reads. -/
structure WrittenVerb where
  phrase : QuotableName
  direction : Direction

namespace WrittenVerb

variable (v : WrittenVerb)

/-- The phrase with a dash on the side to which it reads, without its brackets. -/
def written : Text :=
  match v.direction with
  | .unspecified => v.phrase.written
  | .firstToSecond => v.phrase.written ++ [directionMark]
  | .secondToFirst => directionMark :: v.phrase.written

def toVerbPhrase : VerbPhrase := ⟨v.phrase.text, v.direction⟩

theorem trimmed_written {p : Char → Bool} (hp : IsMarks p) : Text.Trimmed p v.written := by
  have hphrase := v.phrase.trimmed_written hp.quote
  have hdash : p directionMark = false := hp.word directionMark (by decide)
  unfold written
  split
  · exact hphrase
  · refine Text.trimmed_append (Quoting.enquote_ne_nil _) (List.cons_ne_nil _ _) hphrase.head ?_
    rintro c hc
    cases hc
    exact hdash
  · refine @Text.trimmed_append p [directionMark] _ (List.cons_ne_nil _ _)
      (Quoting.enquote_ne_nil _) ?_ hphrase.last
    rintro c hc
    cases hc
    exact hdash

theorem hides_written {p : Char → Bool} (hp : IsMarks p) : Hides p v.written := by
  have hphrase := v.phrase.hides_written hp.quote
  have hdash : Hides p [directionMark] :=
    Quoting.hides_word hp (List.forall_mem_singleton.mpr rfl)
  unfold written
  split
  · exact hphrase
  · exact hphrase.append hdash
  · exact hdash.append hphrase

theorem strip_written : Text.strip v.written = v.written :=
  Text.stripOf_eq_self (v.trimmed_written Quoting.isMarks_isBlank)

theorem readVerbPhrase_written : readVerbPhrase v.written = .ok v.toVerbPhrase := by
  have hdash : (Quoting.quote == directionMark) = false := by decide
  have hphrase : v.phrase.written.startsWith directionMark = false ∧
      v.phrase.written.endsWith directionMark = false := by
    simp [QuotableName.written, hdash]
  rw [readVerbPhrase, v.strip_written]
  obtain ⟨phrase, direction⟩ := v
  cases direction with
  | unspecified =>
    simp only [written, hphrase]
    exact phrase.namePhrase_written .unspecified
  | firstToSecond =>
    have hstart : (phrase.written ++ [directionMark]).startsWith directionMark = false := by
      rw [Text.startsWith_append phrase.written_ne_nil]
      exact hphrase.1
    have hend : (phrase.written ++ [directionMark]).endsWith directionMark = true := by
      simp
    simp only [written, hstart, hend, List.dropLast_concat, phrase.strip_written]
    exact phrase.namePhrase_written .firstToSecond
  | secondToFirst =>
    have hstart : Text.startsWith (directionMark :: phrase.written) directionMark = true := by
      simp
    have hend : Text.endsWith (directionMark :: phrase.written) directionMark = false := by
      exact (Text.endsWith_append phrase.written_ne_nil [directionMark] _).trans hphrase.2
    simp only [written, hstart, hend, List.tail_cons, phrase.strip_written]
    exact phrase.namePhrase_written .secondToFirst

end WrittenVerb

end ErDiagram

import ErDiagram.Proofs.Reading.ListedOption

set_option autoImplicit false

/-!
# What an option list shows of the notation

An option list that is read shows semicolons between its options and one colon in each option.  Names
show no brackets, and neither do values, except that a value counts as quoted if its first and its last
character are double quotes.  A value made of several quoted runs therefore passes, and a bracket may
stand unquoted between the runs.
-/

namespace ErDiagram

open Quoting (ShowsAt after offset)

variable {t : Text} {raw : List (Text × Text)} {options : List ListedOption} {o : ListedOption}

/-- The brackets of the notation. -/
def bracketChars : List Char := Bracket.all.flatMap fun b => [b.left, b.right]

/-- Where an option begins in the text of an option list. -/
def optionStart (options : List ListedOption) (i : Nat) : Nat :=
  offset ((options.map ListedOption.text).take i)

/-- The semicolons that the text shows end all options but the last, each colon that it shows stands
between the name and the value of an option, and brackets are shown in values that count as quoted, and
nowhere else. -/
structure MarksOf (t : Text) (options : List ListedOption) : Prop where
  separator : ∀ n, ShowsAt t n optionSeparator ↔
    ∃ i, i + 1 < options.length ∧ n + 1 = optionStart options (i + 1)
  assignment : ∀ n, ShowsAt t n optionAssignment ↔
    ∃ i o, options[i]? = some o ∧ n = optionStart options i + o.name.length
  bracket : ∀ n, ∀ c ∈ bracketChars, ShowsAt t n c ↔
    ∃ i o k, options[i]? = some o ∧ n = optionStart options i + (o.name.length + 1 + k) ∧
      o.hasQuotedValue = true ∧ ShowsAt o.value k c

/-! ## Where options show characters of the notation -/

theorem mem_optionInvalidChars {c : Char} : c ∈ optionInvalidChars ↔
    c ∈ bracketChars ∨ c = optionAssignment ∨ c = optionSeparator := by
  simp [optionInvalidChars, bracketChars]

theorem ne_of_mem_bracketChars {c : Char} (hc : c ∈ bracketChars) :
    c ≠ optionAssignment ∧ c ≠ optionSeparator := by
  constructor <;> rintro rfl <;> exact absurd hc (by decide)

/-- An option shows what its name and its value show, and the colon between them. -/
theorem ListedOption.showsAt_text_iff (h : after false o.name = false) {n : Nat} {c : Char} :
    ShowsAt o.text n c ↔ ShowsAt o.name n c ∨ n = o.name.length ∧ c = optionAssignment ∨
      ∃ k, n = o.name.length + 1 + k ∧ ShowsAt o.value k c :=
  Quoting.showsAt_append_cons_iff (by decide) h

/-- An option list shows what its options show, and semicolons between them. -/
theorem IsListed.showsAt_iff (h : IsListed t options) {c : Char} (hblank : Text.isBlank c = false)
    {n : Nat} : ShowsAt t n c ↔
      (∃ i o k, options[i]? = some o ∧ n = optionStart options i + k ∧ ShowsAt o.text k c) ∨
        c = optionSeparator ∧ ∃ i, i + 1 < options.length ∧ n + 1 = optionStart options (i + 1) := by
  cases h with
  | blank h =>
    have hnone : ¬ ShowsAt t n c := fun hshows =>
      Text.stripOf_ne_nil_iff.mpr ⟨c, List.mem_of_getElem? hshows.1, hblank⟩ h
    simp [hnone]
  | options h =>
    rw [h.showsAt_join_iff (by decide), List.length_map]
    refine or_congr_left ⟨?_, ?_⟩
    · rintro ⟨i, text, k, hi, hn, hshows⟩
      obtain ⟨o, ho, rfl⟩ := List.getElem?_map ▸ hi |> Option.map_eq_some_iff.mp
      exact ⟨i, o, k, ho, hn, hshows⟩
    · rintro ⟨i, o, k, ho, hn, hshows⟩
      exact ⟨i, o.text, k, by rw [List.getElem?_map, ho]; rfl, hn, hshows⟩

theorem IsListed.not_showsAt_separator (h : IsListed t options) (ho : o ∈ options) (n : Nat) :
    ¬ ShowsAt o.text n optionSeparator := by
  cases h with
  | blank h => cases ho
  | options h => exact h.not_showsAt (List.mem_map_of_mem ho) n

/-- An option that can be read shows one colon. -/
theorem ListedOption.Readable.showsAt_assignment_iff (h : o.Readable) {n : Nat} :
    ShowsAt o.text n optionAssignment ↔ n = o.name.length := by
  rw [ListedOption.showsAt_text_iff h.name_paired]
  constructor
  · rintro (hshows | ⟨hn, -⟩ | ⟨k, -, hshows⟩)
    · exact absurd hshows (h.name_shows _ optionAssignment_mem n)
    · exact hn
    · exact absurd hshows (h.value_assignment k)
  · exact fun hn => .inr (.inl ⟨hn, rfl⟩)

/-- An option that can be read shows brackets in its value alone, and only if it counts as quoted. -/
theorem ListedOption.Readable.showsAt_bracket_iff (h : o.Readable) {c : Char} (hc : c ∈ bracketChars)
    {n : Nat} : ShowsAt o.text n c ↔
      ∃ k, n = o.name.length + 1 + k ∧ o.hasQuotedValue = true ∧ ShowsAt o.value k c := by
  have hinvalid : c ∈ optionInvalidChars := mem_optionInvalidChars.mpr (.inl hc)
  rw [ListedOption.showsAt_text_iff h.name_paired]
  constructor
  · rintro (hshows | ⟨-, hcolon⟩ | ⟨k, hn, hshows⟩)
    · exact absurd hshows (h.name_shows c hinvalid n)
    · exact absurd hcolon (ne_of_mem_bracketChars hc).1
    · refine ⟨k, hn, ?_, hshows⟩
      by_contra hquoted
      exact h.value_shows (Bool.eq_false_iff.mpr hquoted) c hinvalid k hshows
  · rintro ⟨k, hn, -, hshows⟩
    exact .inr (.inr ⟨k, hn, hshows⟩)

theorem IsListed.marksOf (h : IsListed t options) (hread : ∀ o ∈ options, o.Readable) :
    MarksOf t options := by
  have hmem : ∀ {i : Nat} {o : ListedOption}, options[i]? = some o → o ∈ options := fun hi =>
    List.mem_of_getElem? hi
  constructor
  case separator =>
    intro n
    rw [h.showsAt_iff (by decide)]
    constructor
    · rintro (⟨i, o, k, hi, -, hshows⟩ | ⟨-, hends⟩)
      · exact absurd hshows (h.not_showsAt_separator (hmem hi) k)
      · exact hends
    · exact fun hends => .inr ⟨rfl, hends⟩
  case assignment =>
    intro n
    rw [h.showsAt_iff (by decide)]
    constructor
    · rintro (⟨i, o, k, hi, hn, hshows⟩ | ⟨hcolon, -⟩)
      · rw [(hread o (hmem hi)).showsAt_assignment_iff] at hshows
        exact ⟨i, o, hi, hshows ▸ hn⟩
      · exact absurd hcolon (by decide)
    · rintro ⟨i, o, hi, hn⟩
      exact .inl ⟨i, o, o.name.length, hi, hn, (hread o (hmem hi)).showsAt_assignment_iff.mpr rfl⟩
  case bracket =>
    intro n c hc
    have hblank := (isMark_of_mem_optionInvalidChars (mem_optionInvalidChars.mpr (.inl hc))).2
    rw [h.showsAt_iff hblank]
    constructor
    · rintro (⟨i, o, k, hi, hn, hshows⟩ | ⟨hcolon, -⟩)
      · obtain ⟨j, rfl, hquoted, hvalue⟩ :=
          ((hread o (hmem hi)).showsAt_bracket_iff hc).mp hshows
        exact ⟨i, o, j, hi, hn, hquoted, hvalue⟩
      · exact absurd hcolon (ne_of_mem_bracketChars hc).2
    · rintro ⟨i, o, k, hi, hn, hquoted, hvalue⟩
      exact .inl ⟨i, o, _, hi, hn, ((hread o (hmem hi)).showsAt_bracket_iff hc).mpr
        ⟨k, rfl, hquoted, hvalue⟩⟩

/-- A text that is read as an option list lists the options that are read, and shows semicolons between
them, one colon in each and brackets only in values that count as quoted.  It shows no bracket at all
exactly if none of these values shows one. -/
theorem marks_of_readOptionList (h : readOptionList t = .ok raw) :
    ∃ options, IsListed t options ∧ raw = options.map ListedOption.entry ∧ MarksOf t options ∧
      ((∀ c ∈ bracketChars, ∀ n, ¬ ShowsAt t n c) ↔
        ∀ o ∈ options, o.hasQuotedValue = true → ∀ c ∈ bracketChars, ∀ n, ¬ ShowsAt o.value n c) := by
  obtain ⟨options, hlisted, hread, hraw, -⟩ := readOptionList_eq_ok_iff.mp h
  have hmarks := hlisted.marksOf hread
  refine ⟨options, hlisted, hraw, hmarks, ?_⟩
  constructor
  · intro hnone o ho hquoted c hc k hshows
    obtain ⟨i, hi⟩ := List.getElem?_of_mem ho
    exact hnone c hc _ ((hmarks.bracket _ c hc).mpr ⟨i, o, k, hi, rfl, hquoted, hshows⟩)
  · intro hnone c hc n hshows
    obtain ⟨i, o, k, hi, -, hquoted, hvalue⟩ := (hmarks.bracket n c hc).mp hshows
    exact hnone o (List.mem_of_getElem? hi) hquoted c hc k hvalue

/-- Two options whose values stand between double quotes, with marks of the notation inside. -/
def quotedOptions : Text := "title: \"a;b:c\" ; Color : \" [red] \"".toList

theorem marks_of_quotedOptions :
    readOptionList quotedOptions =
        .ok [("TITLE".toList, "a;b:c".toList), ("COLOR".toList, " [red] ".toList)] ∧
      ∃ options, IsListed quotedOptions options ∧
        options.map ListedOption.entry =
          [("TITLE".toList, "a;b:c".toList), ("COLOR".toList, " [red] ".toList)] ∧
        MarksOf quotedOptions options := by
  have hread : readOptionList quotedOptions =
      .ok [("TITLE".toList, "a;b:c".toList), ("COLOR".toList, " [red] ".toList)] := by
    decide +kernel
  obtain ⟨options, hlisted, hraw, hmarks, -⟩ := marks_of_readOptionList hread
  exact ⟨hread, options, hlisted, hraw.symm, hmarks⟩

/-- An option whose value is two quoted runs with a bracket between them. -/
def bracketBetweenRuns : Text := "n1: \"a\"[\"b\"".toList

/-- The value counts as quoted, so the option is read although the text shows a bracket. -/
theorem readOptionList_bracketBetweenRuns :
    readOptionList bracketBetweenRuns = .ok [("N1".toList, "a\"[\"b".toList)] ∧
      ShowsAt bracketBetweenRuns 7 Bracket.square.left ∧ Bracket.square.left ∈ bracketChars := by
  decide +kernel

end ErDiagram

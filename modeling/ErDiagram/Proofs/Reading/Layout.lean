import ErDiagram.Proofs.Reading.Alike
import Mathlib.Logic.Relation

set_option autoImplicit false

/-!
# Layout is transparent

A document may be laid out anew in five ways: a blank line or a comment is put in or taken out, blanks
are put around a line, a comment is put behind a line whose double quotes are balanced, and global
options move among the other lines.  Whatever is done of this and however often, the outcome of reading
is the same: the same diagram, ids included, or the same reports, each on the line that the other one's
line has become.
-/

namespace ErDiagram

/-! ## Laying out a document -/

/-- A line of a document that is laid out anew, with the line of the original document that it was, if it
was one. -/
structure LaidLine where
  origin : Option Line
  text : Text
  deriving DecidableEq, Repr, Inhabited

namespace LaidLine

/-- The line, apart from where it stands. -/
def line (l : LaidLine) : Line := ⟨0, l.text⟩

/-- What the line is for. -/
def kind (l : LaidLine) : LineKind := l.line.kind

/-- The text of the line without its comment and the blanks around the rest. -/
def body (l : LaidLine) : Text := l.line.body

/-- The line holds global options. -/
def holdsOptions (l : LaidLine) : Bool := l.kind == .globalOptions

/-- A document before anything is done to it. -/
def ofLines (lines : List Line) : List LaidLine := lines.map fun line => ⟨some line, line.text⟩

end LaidLine

/-- The text is blank, or it is blank in front of a comment. -/
def SaysNothing (t : Text) : Prop :=
  ∃ pad rest : Text, t = pad ++ rest ∧ (∀ c ∈ pad, Text.isBlank c = true) ∧
    (rest = [] ∨ ∃ comment, rest = '#' :: comment)

/-- What may be done to the layout of a document. -/
inductive LayoutStep : List LaidLine → List LaidLine → Prop where
  /-- a blank line or a comment is put in -/
  | insert (before after : List LaidLine) {t : Text} (hnothing : SaysNothing t) :
      LayoutStep (before ++ after) (before ++ ⟨none, t⟩ :: after)
  /-- a blank line or a comment is taken out -/
  | delete (before after : List LaidLine) {l : LaidLine} (hnothing : SaysNothing l.text) :
      LayoutStep (before ++ l :: after) (before ++ after)
  /-- blanks are put around a line -/
  | pad (before after : List LaidLine) (l : LaidLine) {left right : Text}
      (hleft : ∀ c ∈ left, Text.isBlank c = true) (hright : ∀ c ∈ right, Text.isBlank c = true) :
      LayoutStep (before ++ l :: after)
        (before ++ { l with text := left ++ (l.text ++ right) } :: after)
  /-- a comment is put behind a line with an even number of double quotes -/
  | comment (before after : List LaidLine) (l : LaidLine) (s : Text)
      (heven : l.text.count '"' % 2 = 0) :
      LayoutStep (before ++ l :: after) (before ++ { l with text := l.text ++ '#' :: s } :: after)
  /-- global options move; they keep their order, and so do the other lines -/
  | move {laid laid' : List LaidLine}
      (hoptions : laid'.filter LaidLine.holdsOptions = laid.filter LaidLine.holdsOptions)
      (hothers : (laid'.filter fun l => !l.holdsOptions) = laid.filter fun l => !l.holdsOptions) :
      LayoutStep laid laid'

/-! ## What says nothing is passed over -/

theorem body_of_saysNothing {t : Text} (h : SaysNothing t) (n : Int) : (⟨n, t⟩ : Line).body = [] := by
  obtain ⟨pad, rest, rfl, hpad, hrest⟩ := h
  have hstrip : Text.strip (pad ++ rest) = Text.strip rest := Text.stripOf_pad_left hpad
  rw [Line.body, hstrip]
  rcases hrest with rfl | ⟨comment, rfl⟩
  · rfl
  · have hmark : Text.isBlank '#' = false := by decide
    obtain ⟨tail, htail⟩ := Text.exists_stripOf_append_cons hmark [] comment
    have hcode : Text.strip ('#' :: comment) = '#' :: tail := htail
    rw [hcode]
    rfl

/-- A text from which a comment takes everything opens with the comment mark. -/
theorem eq_mark_of_removeComment {c : Char} {t : Text} (h : Quoting.removeComment (c :: t) = []) :
    c = '#' := by
  by_contra hne
  have hclass : (c == Quoting.commentMark) = false := beq_false_of_ne hne
  simp only [Quoting.removeComment, Quoting.index?, Quoting.findFrom, hclass] at h
  cases hfind : Quoting.findFrom (· == Quoting.commentMark) (Quoting.afterChar false c) t with
  | none => simp [hfind] at h
  | some n => simp [hfind] at h

/-- Exactly the lines that say nothing are passed over. -/
theorem saysNothing_iff {line : Line} : SaysNothing line.text ↔ line.isSkipped = true := by
  rw [Line.isSkipped_eq, List.isEmpty_iff]
  constructor
  · intro h
    exact body_of_saysNothing h line.number
  · intro hbody
    cases hstrip : Text.strip line.text with
    | nil => exact ⟨line.text, [], by simp, Text.stripOf_eq_nil_iff.mp hstrip, .inl rfl⟩
    | cons c cs =>
      -- the code has no blank in front, so nothing of it is left in the body only if there is nothing
      have hcode : line.code = [] := by
        obtain ⟨pad, hpad, hblank⟩ := Line.exists_code_eq_body_append line
        rw [hbody, List.nil_append] at hpad
        cases hcons : line.code with
        | nil => rfl
        | cons d ds =>
          have hd := hblank d (hpad ▸ hcons ▸ List.mem_cons_self)
          rw [Line.not_isBlank_of_code_eq_cons hcons] at hd
          cases hd
      rw [Line.code, hstrip] at hcode
      obtain ⟨front, back, htext, hfront, -⟩ := Text.exists_stripOf_append Text.isBlank line.text
      change line.text = front ++ (Text.strip line.text ++ back) at htext
      rw [hstrip, eq_mark_of_removeComment hcode] at htext
      exact ⟨front, _, htext, hfront, .inr ⟨cs ++ back, rfl⟩⟩

/-! ## What a step keeps -/

namespace LaidLine

/-- The lines of some kinds. -/
def ofKinds (p : LineKind → Bool) (laid : List LaidLine) : List LaidLine :=
  laid.filter fun l => p l.kind

/-- The two lines were the same line of the document, and say the same. -/
structure Same (l l' : LaidLine) : Prop where
  origin_eq : l.origin = l'.origin
  body_eq : l.body = l'.body
  kind_eq : l.kind = l'.kind

theorem same_refl (l : LaidLine) : Same l l := ⟨rfl, rfl, rfl⟩

theorem forall₂_same_refl (laid : List LaidLine) : List.Forall₂ Same laid laid :=
  List.forall₂_same.mpr fun l _ => same_refl l

/-- The global options say the same, one by one, and so do the lines that form blocks and
relationships. -/
structure Matches (laid laid' : List LaidLine) : Prop where
  options : List.Forall₂ Same (ofKinds (· == .globalOptions) laid)
    (ofKinds (· == .globalOptions) laid')
  placed : List.Forall₂ Same (ofKinds LineKind.isPlaced laid) (ofKinds LineKind.isPlaced laid')

variable {p : LineKind → Bool} {l l' : LaidLine} {laid laid' laid'' : List LaidLine}

theorem Matches.trans (h : Matches laid laid') (h' : Matches laid' laid'') : Matches laid laid'' := by
  have hsame : ∀ a c : LaidLine, (∃ b, Same a b ∧ Same b c) → Same a c := by
    rintro a c ⟨b, hab, hbc⟩
    exact ⟨hab.origin_eq.trans hbc.origin_eq, hab.body_eq.trans hbc.body_eq,
      hab.kind_eq.trans hbc.kind_eq⟩
  constructor
  · exact (forall₂_comp h.options h'.options).imp hsame
  · exact (forall₂_comp h.placed h'.placed).imp hsame

theorem ofKinds_append (p : LineKind → Bool) (before after : List LaidLine) :
    ofKinds p (before ++ after) = ofKinds p before ++ ofKinds p after :=
  List.filter_append ..

theorem ofKinds_cons (p : LineKind → Bool) (l : LaidLine) (after : List LaidLine) :
    ofKinds p (l :: after) = if p l.kind = true then l :: ofKinds p after else ofKinds p after :=
  List.filter_cons ..

/-- The kinds that matter are not those of lines that are passed over. -/
theorem of_isSkipped_options (kind : LineKind) (h : kind.isSkipped = true) :
    (kind == .globalOptions) = false := by
  cases kind <;> first | rfl | cases h

theorem of_isSkipped_placed (kind : LineKind) (h : kind.isSkipped = true) : kind.isPlaced = false := by
  cases kind <;> first | rfl | cases h

/-- A line that says nothing is of no kind that matters. -/
theorem ofKinds_insert (hp : ∀ kind, kind.isSkipped = true → p kind = false)
    (hnothing : SaysNothing l.text) (before after : List LaidLine) :
    ofKinds p (before ++ l :: after) = ofKinds p (before ++ after) := by
  have hskipped : l.line.isSkipped = true := saysNothing_iff.mp hnothing
  have hout : p l.kind = false := hp l.kind hskipped
  rw [ofKinds_append, ofKinds_cons, hout, ofKinds_append]
  rfl

/-- A line may give way to one with the same body. -/
theorem forall₂_replace (hp : ∀ kind, kind.isSkipped = true → p kind = false)
    (horigin : l.origin = l'.origin) (hbody : l.body = l'.body)
    (before after : List LaidLine) :
    List.Forall₂ Same (ofKinds p (before ++ l :: after)) (ofKinds p (before ++ l' :: after)) := by
  rw [ofKinds_append, ofKinds_append, ofKinds_cons, ofKinds_cons]
  refine List.rel_append (forall₂_same_refl _) ?_
  have hskipped : l.line.isSkipped = l'.line.isSkipped := by
    rw [Line.isSkipped_eq, Line.isSkipped_eq]
    exact congrArg List.isEmpty hbody
  cases hread : l.line.isSkipped with
  | true =>
    have hout : p l.kind = false := hp l.kind hread
    have hout' : p l'.kind = false := hp l'.kind (hskipped.symm.trans hread)
    rw [hout, hout']
    exact forall₂_same_refl _
  | false =>
    have hkind : l.kind = l'.kind := Line.kind_eq_of_body_eq hbody hread
    rw [← hkind]
    split
    · exact .cons ⟨horigin, hbody, hkind⟩ (forall₂_same_refl _)
    · exact forall₂_same_refl _

theorem matches_of_eq (h : ∀ p : LineKind → Bool, (∀ kind, kind.isSkipped = true → p kind = false) →
    ofKinds p laid = ofKinds p laid') : Matches laid laid' := by
  constructor
  · rw [h _ of_isSkipped_options]
    exact forall₂_same_refl _
  · rw [h _ of_isSkipped_placed]
    exact forall₂_same_refl _

theorem matches_replace (horigin : l.origin = l'.origin) (hbody : l.body = l'.body)
    (before after : List LaidLine) : Matches (before ++ l :: after) (before ++ l' :: after) :=
  ⟨forall₂_replace of_isSkipped_options horigin hbody before after,
    forall₂_replace of_isSkipped_placed horigin hbody before after⟩

end LaidLine

open LaidLine (Matches ofKinds)

/-- Whatever one step does, the lines that matter still say the same. -/
theorem LayoutStep.matches {laid laid' : List LaidLine} (h : LayoutStep laid laid') :
    Matches laid laid' := by
  cases h with
  | insert before after hnothing =>
    exact LaidLine.matches_of_eq fun p hp => (LaidLine.ofKinds_insert hp hnothing before after).symm
  | delete before after hnothing =>
    exact LaidLine.matches_of_eq fun p hp => LaidLine.ofKinds_insert hp hnothing before after
  | @pad before after l left right hleft hright =>
    have hbody : LaidLine.body ⟨l.origin, left ++ (l.text ++ right)⟩ = l.body :=
      Line.body_pad hleft hright 0 0
    exact @LaidLine.matches_replace l ⟨l.origin, left ++ (l.text ++ right)⟩ rfl hbody.symm before after
  | comment before after l s heven =>
    have hbody : LaidLine.body ⟨l.origin, l.text ++ '#' :: s⟩ = l.body :=
      Line.body_comment (after_of_even heven) s 0 0
    exact @LaidLine.matches_replace l ⟨l.origin, l.text ++ '#' :: s⟩ rfl hbody.symm before after
  | move hoptions hothers =>
    have hplaced : ∀ laid : List LaidLine, ofKinds LineKind.isPlaced laid =
        ofKinds LineKind.isPlaced (laid.filter fun l => !l.holdsOptions) := by
      intro laid
      rw [ofKinds, ofKinds, List.filter_filter]
      refine List.filter_congr fun l _ => ?_
      unfold LaidLine.holdsOptions
      cases l.kind <;> rfl
    constructor
    · change List.Forall₂ LaidLine.Same (laid.filter LaidLine.holdsOptions)
        (laid'.filter LaidLine.holdsOptions)
      rw [hoptions]
      exact LaidLine.forall₂_same_refl _
    · rw [hplaced laid, hplaced laid', hothers]
      exact LaidLine.forall₂_same_refl _

/-- Whatever any number of steps does, the lines that matter still say the same. -/
theorem matches_of_layout {laid laid' : List LaidLine}
    (h : Relation.ReflTransGen LayoutStep laid laid') : Matches laid laid' := by
  induction h with
  | refl => exact ⟨LaidLine.forall₂_same_refl _, LaidLine.forall₂_same_refl _⟩
  | tail _ hstep ih => exact ih.trans hstep.matches

/-! ## The outcome of reading -/

/-- The line is the one that another line of the original document has become. -/
def Became (laid : List LaidLine) (line line' : Line) : Prop :=
  ∃ i : Nat, line'.number = i + 1 ∧ laid[i]? = some ⟨some line, line'.text⟩

/-- A line of the new document, as it stands at its place. -/
def StandsAs (laid : List LaidLine) (line : Line) (l : LaidLine) : Prop :=
  line.text = l.text ∧ ∃ i : Nat, line.number = i + 1 ∧ laid[i]? = some l

theorem forall₂_standsAs (laid : List LaidLine) :
    List.Forall₂ (StandsAs laid) (Line.ofTexts (laid.map (·.text))) laid := by
  have hfrom : ∀ (rest before : List LaidLine), laid = before ++ rest →
      List.Forall₂ (StandsAs laid) (Line.numberFrom (before.length + 1) (rest.map (·.text))) rest := by
    intro rest
    induction rest with
    | nil => exact fun _ _ => .nil
    | cons l rest ih =>
      intro before hlaid
      have hplace : laid[before.length]? = some l := by
        rw [hlaid, List.getElem?_append_right (Nat.le_refl _), Nat.sub_self]
        rfl
      have hrest := ih (before ++ [l]) (by rw [hlaid, List.append_assoc]; rfl)
      rw [List.length_append, List.length_singleton] at hrest
      exact .cons ⟨rfl, before.length, rfl, hplace⟩ hrest
  exact hfrom laid [] rfl

/-- The line is the one that another line has become, and says the same. -/
structure Relaid (laid : List LaidLine) (line line' : Line) : Prop where
  became : Became laid line line'
  body_eq : line.body = line'.body
  kind_eq : line.kind = line'.kind

theorem saysSame_relaid (laid : List LaidLine) : SaysSame (Relaid laid) :=
  ⟨fun h => h.body_eq, fun h => h.kind_eq⟩

/-- Lines that still say the same are found again among the lines of the new document. -/
theorem forall₂_relaid {p : LineKind → Bool} {lines : List Line} {laid : List LaidLine}
    (h : List.Forall₂ LaidLine.Same (ofKinds p (LaidLine.ofLines lines)) (ofKinds p laid)) :
    List.Forall₂ (Relaid laid) (lines.filter fun line => p line.kind)
      ((Line.ofTexts (laid.map (·.text))).filter fun line => p line.kind) := by
  have horigin : List.Forall₂ (fun (line : Line) l => l = ⟨some line, line.text⟩)
      (lines.filter fun line => p line.kind) (ofKinds p (LaidLine.ofLines lines)) := by
    refine List.rel_filter ?_
      (List.forall₂_map_right_iff.mpr (List.forall₂_same.mpr fun _ _ => rfl))
    rintro line l rfl
    exact Bool.eq_iff_iff.mp (congrArg p (Line.kind_eq_of_text_eq rfl))
  have hplace : List.Forall₂ (StandsAs laid)
      ((Line.ofTexts (laid.map (·.text))).filter fun line => p line.kind) (ofKinds p laid) := by
    refine List.rel_filter (fun line l hl => ?_) (forall₂_standsAs laid)
    exact Bool.eq_iff_iff.mp (congrArg p (Line.kind_eq_of_text_eq hl.1))
  refine (forall₂_comp (forall₂_comp horigin h) hplace.flip).imp ?_
  rintro line line' ⟨l', ⟨l, rfl, hsame⟩, htext, i, hnumber, hfound⟩
  refine ⟨⟨i, hnumber, ?_⟩, ?_, ?_⟩
  · have horigin' : l'.origin = some line := hsame.origin_eq.symm
    rw [hfound, htext, ← horigin']
  · have hbody : line.body = l'.body := hsame.body_eq
    exact hbody.trans (Line.body_eq_of_text_eq htext).symm
  · have hkind : line.kind = l'.kind := hsame.kind_eq
    exact hkind.trans (Line.kind_eq_of_text_eq htext).symm

theorem OutcomeAlike.imp {R S : Line → Line → Prop} (hRS : ∀ line line', R line line' → S line line')
    {x y : Except Halt (Except (List Report) Diagram)} (h : OutcomeAlike R x y) : OutcomeAlike S x y := by
  cases h with
  | error h => exact .error h
  | ok h =>
    cases h with
    | ok h => exact .ok (.ok h)
    | error h =>
      refine .ok (.error (h.imp fun r r' hr => ?_))
      obtain ⟨line, line', hline, hline', hrel⟩ := hr.line
      exact ⟨hr.kind_eq, hr.description_eq, hr.params_eq, hr.lineLabel_eq, line, line', hline, hline',
        hRS _ _ hrel⟩

/-- However a document is laid out anew, reading it ends alike: for the same reason without an answer,
with the same reports, each on the line that the other one's line has become, or with the same
diagram. -/
theorem outcome_of_layout {lines : List (Option Text)} {laid : List LaidLine}
    (h : Relation.ReflTransGen LayoutStep
      (LaidLine.ofLines (Line.ofTexts (lines.map fun l => l.getD []))) laid)
    (c : Catalog) (ids : IdSource) :
    OutcomeAlike (Became laid) (readLines c ids lines).result
      (readLines c ids (laid.map fun l => some l.text)).result := by
  obtain ⟨hoptions, hplaced⟩ := matches_of_layout h
  have htexts : (laid.map fun l => some l.text).map (fun l => l.getD []) = laid.map (·.text) := by
    rw [List.map_map]
    rfl
  have halike := alike_readDocument (saysSame_relaid laid) (forall₂_relaid hoptions)
    (forall₂_relaid hplaced) c ids
  rw [readLines, readLines, htexts]
  exact halike.imp fun _ _ hline => hline.became

/-! ## A document that is laid out anew -/

/-- A line of the tracks that stands as it was. -/
def trackLine (n : Nat) (t : String) : LaidLine := ⟨some ⟨n, t.toList⟩, t.toList⟩

def trackOptions : LaidLine := trackLine 1 "{title: Music; title-size: 14}"
def trackGap : LaidLine := trackLine 2 ""
def trackHead : LaidLine := trackLine 3 "[Track] {color: red}"
def trackKey : LaidLine := trackLine 4 "*id"
def trackAlbum : LaidLine := trackLine 5 "*album* {mark: of}"
def trackHolds : LaidLine := trackLine 6 "[Album] 1--+ [Track] <holds->"
def trackSung : LaidLine := trackLine 7 "[Track] 1--? (Lyrics)  # sung"

/-- A comment that is put in front of the tracks. -/
def trackNote : LaidLine := ⟨none, "  # Tracks and albums".toList⟩

/-- The line of the key, with blanks around it. -/
def paddedKey : LaidLine := { trackKey with text := "  *id ".toList }

/-- The line about albums, with a comment behind it. -/
def commentedHolds : LaidLine :=
  { trackHolds with text := "[Album] 1--+ [Track] <holds-># in order".toList }

/-- The tracks, with a comment in front, without the blank line, with blanks around a line, with a
comment behind another one, and with the global options inside the block. -/
def laidTracks : List LaidLine :=
  [trackNote, trackHead, paddedKey, trackOptions, trackAlbum, commentedHolds, trackSung]

theorem laidTracks_layout : Relation.ReflTransGen LayoutStep
    (LaidLine.ofLines (Line.ofTexts (trackLines.map fun l => l.getD []))) laidTracks := by
  have hspaces (n : Nat) : ∀ c ∈ List.replicate n ' ', Text.isBlank c = true := by
    intro c hc
    rw [List.eq_of_mem_replicate hc]
    rfl
  have hinsert : LayoutStep
      [trackOptions, trackGap, trackHead, trackKey, trackAlbum, trackHolds, trackSung]
      [trackNote, trackOptions, trackGap, trackHead, trackKey, trackAlbum, trackHolds, trackSung] :=
    .insert [] _ ⟨_, _, rfl, hspaces 2, .inr ⟨" Tracks and albums".toList, rfl⟩⟩
  have hdelete : LayoutStep
      [trackNote, trackOptions, trackGap, trackHead, trackKey, trackAlbum, trackHolds, trackSung]
      [trackNote, trackOptions, trackHead, trackKey, trackAlbum, trackHolds, trackSung] :=
    .delete [trackNote, trackOptions] _ ⟨_, [], rfl, hspaces 0, .inl rfl⟩
  have hpad := LayoutStep.pad [trackNote, trackOptions, trackHead]
    [trackAlbum, trackHolds, trackSung] trackKey (hspaces 2) (hspaces 1)
  have hcomment := LayoutStep.comment [trackNote, trackOptions, trackHead, paddedKey, trackAlbum]
    [trackSung] trackHolds " in order".toList (by decide)
  have hmove : LayoutStep
      [trackNote, trackOptions, trackHead, paddedKey, trackAlbum, commentedHolds, trackSung]
      laidTracks :=
    .move (by decide +kernel) (by decide +kernel)
  exact ((((Relation.ReflTransGen.single hinsert).tail hdelete).tail hpad).tail hcomment).tail hmove

/-- Laid out anew, the tracks are the same diagram. -/
theorem outcome_laidTracks :
    Relation.ReflTransGen LayoutStep
        (LaidLine.ofLines (Line.ofTexts (trackLines.map fun l => l.getD []))) laidTracks ∧
      (readLines Catalog.english {} (laidTracks.map fun l => some l.text)).result =
        .ok (.ok trackDiagram) := by
  have halike := outcome_of_layout laidTracks_layout Catalog.english {}
  rw [readLines_trackLines] at halike
  refine ⟨laidTracks_layout, ?_⟩
  generalize (readLines Catalog.english {} (laidTracks.map fun l => some l.text)).result = outcome
    at halike ⊢
  cases halike with
  | ok h =>
    cases h with
    | ok h => rw [h]

end ErDiagram

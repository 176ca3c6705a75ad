import ErDiagram.Proofs.Collection
import ErDiagram.Proofs.Reading.ListedOption

set_option autoImplicit false

/-!
# Option lists in any order, with foreign options

The segments of an option list are read one by one, and no segment has a part in how another is read.
What is made of the raw values depends only on what is found under the keys of the allowed names.  So
segments may change places, and a segment whose name means nothing where the list stands may be put in
or left out.
-/

namespace ErDiagram

open Quoting (Hides ShowsAt quote)

/-- A text that can stand between the semicolons of an option list. -/
structure IsSegment (s : Text) : Prop where
  not_blank : Text.strip s ≠ []
  paired : s.count quote % 2 = 0
  separator : ∀ n, ¬ ShowsAt s n optionSeparator

theorem isSegment_iff {s : Text} : IsSegment s ↔ Text.strip s ≠ [] ∧ s.count quote % 2 = 0 ∧
    Quoting.findFrom (· == optionSeparator) false s = none := by
  rw [Quoting.not_showsAt_iff]
  exact ⟨fun h => ⟨h.not_blank, h.paired, h.separator⟩, fun h => ⟨h.1, h.2.1, h.2.2⟩⟩

instance (s : Text) : Decidable (IsSegment s) := decidable_of_iff _ isSegment_iff.symm

/-- The segments with semicolons between them are read as an option map. -/
def ReadAsMap (segments : List Text) (allowed : List OptionName) (line : Line) (m : OptionMap) : Prop :=
  (readOptions (Text.join [optionSeparator] segments) allowed (some line)).result = .ok m

variable {s : Text} {segments segments' : List Text} {raw raw' : List (Text × Text)}
variable {allowed names : List OptionName} {line : Line} {m : OptionMap} {entry : Text × Text}

/-! ## Segments -/

theorem IsSegment.hides (h : IsSegment s) : Hides (· == optionSeparator) s :=
  ⟨Quoting.not_showsAt_iff.mpr h.separator, after_of_even h.paired⟩

/-- Joined segments fall apart into the segments. -/
theorem pieces_join_segments (h : ∀ s ∈ segments, IsSegment s) :
    Quoting.pieces (Text.join [optionSeparator] segments) optionSeparator =
      segments.map Text.strip := by
  cases segments with
  | nil => rfl
  | cons s rest =>
    have hcut := Quoting.cutFrom_of_hides (List.cons_ne_nil s rest) fun s hs => (h s hs).hides
    have hblank : Text.strip (Text.join [optionSeparator] (s :: rest)) ≠ [] :=
      Text.strip_join_ne_nil List.mem_cons_self (h s List.mem_cons_self).not_blank
    rw [Quoting.pieces_eq (by decide) (by decide) hblank, hcut.piecesFrom_join (by decide)]

/-- Joined segments are read as raw values exactly if each of them is read as an option and the names are
distinct. -/
theorem readOptionList_join_eq_ok (h : ∀ s ∈ segments, IsSegment s) :
    readOptionList (Text.join [optionSeparator] segments) = .ok raw ↔
      List.Forall₂ (fun s entry => readOptionPair (Text.strip s) = .ok entry) segments raw ∧
        (raw.map (·.1)).Nodup := by
  rw [readOptionList_eq_ok, pieces_join_segments h, List.forall₂_map_left_iff,
    List.forall₂_and_left (p := fun s => Text.strip s ≠ [])]
  exact and_congr_left fun _ => and_iff_right fun s hs => (h s hs).not_blank

/-- A segment is read alone as it is read between semicolons. -/
theorem IsSegment.readOptionList_eq_ok_iff (h : IsSegment s) :
    readOptionList s = .ok [entry] ↔ readOptionPair (Text.strip s) = .ok entry := by
  have hjoined := @readOptionList_join_eq_ok [s] [entry] (List.forall_mem_singleton.mpr h)
  rw [Text.join_singleton] at hjoined
  rw [hjoined]
  simp

/-! ## Values by their keys -/

/-- Only what is found under the keys of the names is read. -/
theorem readValues_congr (h : ∀ name ∈ names, raw.lookup name.key = raw'.lookup name.key) :
    readValues raw names = readValues raw' names := by
  induction names with
  | nil => rfl
  | cons name rest ih =>
    obtain ⟨hname, hrest⟩ := List.forall_mem_cons.mp h
    rw [readValues, readValues, hname, ih hrest]

theorem mem_of_mem_distinctNames {name : OptionName} (h : name ∈ distinctNames allowed) :
    name ∈ allowed := by
  by_contra hnot
  have hnone : (Table.ofList (allowed.map fun n => (n, n.default))).lookup name = none := by
    rw [show Table.ofList _ = Table.putAll (allowed.map fun n => (n, n.default)) [] from rfl,
      Table.lookup_putAll, Table.lookup_eq_none_iff.mpr]
    · rfl
    · simpa using hnot
  exact Table.lookup_eq_none_iff.mp hnone h

/-- Raw values under which the same is found for the allowed names give the same option map. -/
theorem applyOptions_congr (h : ∀ name ∈ allowed, raw.lookup name.key = raw'.lookup name.key)
    (base : OptionMap) :
    (applyOptions raw allowed base (some line)).result = .ok m ↔
      (applyOptions raw' allowed base (some line)).result = .ok m := by
  have hvalues := readValues_congr fun name hname => h name (mem_of_mem_distinctNames hname)
  rw [applyOptions_eq_ok, applyOptions_eq_ok, hvalues]

theorem readAsMap_iff (h : ∀ s ∈ segments, IsSegment s) :
    ReadAsMap segments allowed line m ↔ ∃ raw,
      (List.Forall₂ (fun s entry => readOptionPair (Text.strip s) = .ok entry) segments raw ∧
        (raw.map (·.1)).Nodup) ∧
      (applyOptions raw allowed (OptionMap.ofNames allowed) (some line)).result = .ok m := by
  rw [ReadAsMap, readOptions_eq_ok]
  simp only [readOptionList_join_eq_ok h]

/-! ## Segments in another order -/

theorem ReadAsMap.of_perm (h : ReadAsMap segments allowed line m) (hperm : segments'.Perm segments)
    (hsegments : ∀ s ∈ segments, IsSegment s) : ReadAsMap segments' allowed line m := by
  obtain ⟨raw, ⟨hread, hnodup⟩, happly⟩ := (readAsMap_iff hsegments).mp h
  obtain ⟨raw', hread', hraw⟩ := List.perm_comp_forall₂ hperm hread
  have hnodup' : (raw'.map (·.1)).Nodup := (hraw.map _).nodup_iff.mpr hnodup
  refine (readAsMap_iff fun s hs => hsegments s (hperm.mem_iff.mp hs)).mpr
    ⟨raw', ⟨hread', hnodup'⟩, ?_⟩
  exact (applyOptions_congr (fun name _ => Table.lookup_eq_of_perm hraw hnodup' name.key) _).mpr happly

theorem readAsMap_perm (hperm : segments.Perm segments') (h : ∀ s ∈ segments, IsSegment s) :
    ReadAsMap segments allowed line m ↔ ReadAsMap segments' allowed line m :=
  ⟨fun hread => hread.of_perm hperm.symm h,
    fun hread => hread.of_perm hperm fun s hs => h s (hperm.mem_iff.mpr hs)⟩

/-! ## Foreign segments -/

/-- The segment is an option whose name is not allowed, and no other segment has its name. -/
structure IsForeign (s : Text) (segments : List Text) (allowed : List OptionName) (entry : Text × Text) :
    Prop where
  read : readOptionList s = .ok [entry]
  not_allowed : entry.1 ∉ allowed.map OptionName.key
  new : ∀ own ∈ segments, ∀ value, readOptionList own ≠ .ok [(entry.1, value)]

theorem readAsMap_cons (hs : IsSegment s) (h : ∀ s ∈ segments, IsSegment s)
    (hforeign : IsForeign s segments allowed entry) :
    ReadAsMap (s :: segments) allowed line m ↔ ReadAsMap segments allowed line m := by
  have hread := hs.readOptionList_eq_ok_iff.mp hforeign.read
  -- the keys of the allowed names do not meet the foreign one
  have happly : ∀ raw, (applyOptions (entry :: raw) allowed (OptionMap.ofNames allowed)
        (some line)).result = .ok m ↔
      (applyOptions raw allowed (OptionMap.ofNames allowed) (some line)).result = .ok m := by
    intro raw
    refine applyOptions_congr (fun name hname => ?_) _
    have hne : name.key ≠ entry.1 := fun heq =>
      hforeign.not_allowed (heq ▸ List.mem_map_of_mem hname)
    rw [Table.lookup_cons, if_neg hne]
  have hnew : ∀ raw, List.Forall₂ (fun s entry => readOptionPair (Text.strip s) = .ok entry)
      segments raw → entry.1 ∉ raw.map (·.1) := by
    intro raw hraw hmem
    obtain ⟨⟨key, value⟩, hown, rfl⟩ := List.mem_map.mp hmem
    obtain ⟨own, hsegment, hvalue⟩ := exists_of_mem_right hraw hown
    exact hforeign.new own hsegment value ((h own hsegment).readOptionList_eq_ok_iff.mpr hvalue)
  rw [readAsMap_iff (List.forall_mem_cons.mpr ⟨hs, h⟩), readAsMap_iff h]
  constructor
  · rintro ⟨_, ⟨_ | @⟨_, own, _, raw, hown, hraw⟩, hnodup⟩, hmap⟩
    obtain rfl : own = entry := by
      rw [hread] at hown
      exact (Except.ok.inj hown).symm
    exact ⟨raw, ⟨hraw, (List.nodup_cons.mp hnodup).2⟩, (happly raw).mp hmap⟩
  · rintro ⟨raw, ⟨hraw, hnodup⟩, hmap⟩
    exact ⟨entry :: raw, ⟨.cons hread hraw, List.nodup_cons.mpr ⟨hnew raw hraw, hnodup⟩⟩,
      (happly raw).mpr hmap⟩

/-- Segments in another order are read as the same option map, if they are read at all; and so are
segments with a foreign one put in between. -/
theorem readOptions_segments (allowed : List OptionName) (line : Line)
    (h : ∀ s ∈ segments, IsSegment s) :
    (∀ segments', segments.Perm segments' → ∀ m,
        ReadAsMap segments allowed line m ↔ ReadAsMap segments' allowed line m) ∧
      ∀ before behind s entry, segments = before ++ behind → IsSegment s →
        IsForeign s segments allowed entry → ∀ m,
          ReadAsMap (before ++ s :: behind) allowed line m ↔ ReadAsMap segments allowed line m := by
  constructor
  · exact fun segments' hperm m => readAsMap_perm hperm h
  · rintro before behind s entry rfl hs hforeign m
    have hall : ∀ t ∈ before ++ s :: behind, IsSegment t := by
      intro t ht
      rcases List.mem_cons.mp (List.perm_middle.mem_iff.mp ht) with rfl | hmem
      · exact hs
      · exact h t hmem
    rw [readAsMap_perm List.perm_middle hall, readAsMap_cons hs h hforeign]

/-- An option of a relationship whose value holds marks of the notation. -/
def labelSegment : Text := "n1: \"[0;1]\"".toList

/-- Another option of a relationship, in capitals and between blanks. -/
def flagSegment : Text := " VERB-REVERSE : true".toList

/-- An option that a relationship does not have. -/
def colorSegment : Text := "color: red ".toList

theorem isForeign_colorSegment :
    IsForeign colorSegment [labelSegment, flagSegment] OptionName.ofRelationship
      ("COLOR".toList, "red".toList) := by
  have hlabel : readOptionList labelSegment = .ok [("N1".toList, "[0;1]".toList)] := by
    decide +kernel
  have hflag : readOptionList flagSegment = .ok [("VERB-REVERSE".toList, "true".toList)] := by
    decide +kernel
  refine ⟨by decide +kernel, by decide +kernel, ?_⟩
  intro own hown value hread
  rcases List.mem_pair.mp hown with rfl | rfl
  · rw [hlabel] at hread
    simp at hread
  · rw [hflag] at hread
    simp at hread

/-- The two options give the same map in either order, and with the third between them. -/
theorem readOptions_labelSegment_flagSegment :
    ∃ m, ReadAsMap [labelSegment, flagSegment] OptionName.ofRelationship ⟨0, []⟩ m ∧
      ReadAsMap [flagSegment, labelSegment] OptionName.ofRelationship ⟨0, []⟩ m ∧
      ReadAsMap [labelSegment, colorSegment, flagSegment] OptionName.ofRelationship ⟨0, []⟩ m := by
  have hsegments : ∀ s ∈ [labelSegment, flagSegment], IsSegment s := by decide +kernel
  obtain ⟨hperm, hforeign⟩ :=
    readOptions_segments OptionName.ofRelationship ⟨0, []⟩ hsegments
  have hread : ReadAsMap [labelSegment, flagSegment] OptionName.ofRelationship ⟨0, []⟩
      ⟨[(.n1, .text "[0;1]".toList), (.n2, .text []), (.verbReverse, .flag true)]⟩ := by
    rw [ReadAsMap]
    decide +kernel
  refine ⟨_, hread, (hperm _ (List.Perm.swap _ _ []) _).mp hread, ?_⟩
  exact (hforeign [labelSegment] [flagSegment] colorSegment _ rfl (by decide +kernel)
    isForeign_colorSegment _).mpr hread

end ErDiagram

import ErDiagram.Diagram.Model
import ErDiagram.Proofs.Number.Numeral
import ErDiagram.Proofs.Collection

set_option autoImplicit false

/-!
# Ids are numbered in the order in which they are handed out

A source of ids keeps one counter for each word, and handing out an id of one word leaves the
counters of the others alone.  So the ids of a word that are handed out one after the other carry
consecutive numbers, whatever else is handed out in between.  An id tells its number, so ids of different
numbers are different.
-/

namespace ErDiagram

theorem Text.ofNat_injective : Function.Injective Text.ofNat := by
  intro m n h
  rw [← Numeral.value_digitsOf_ofNat m, h, Numeral.value_digitsOf_ofNat]

namespace IdSource

theorem idOf_injective (word : Text) : Function.Injective (idOf word) := by
  intro m n h
  exact Text.ofNat_injective (List.cons.inj (List.append_cancel_left h)).2

theorem issued_next (s : IdSource) (word other : Text) :
    (s.next word).2.issued other =
      if other = word then s.issued word + 1 else s.issued other := by
  simp only [next, issued, Table.lookup_put]
  split <;> rfl

theorem entityWord_ne_relationshipWord : entityWord ≠ relationshipWord := by decide

/-- These ids of a word carry the numbers behind `start`, in order, and the source stands behind the
last of them. -/
structure Numbered (word : Text) (start : Nat) (s : IdSource) (given : List Text) : Prop where
  given_eq : given = (List.range' (start + 1) given.length).map (idOf word)
  issued_eq : s.issued word = start + given.length

theorem numbered_nil (word : Text) (s : IdSource) : Numbered word (s.issued word) s [] :=
  ⟨rfl, rfl⟩

variable {word : Text} {start : Nat} {s : IdSource} {given : List Text}

/-- The next id carries the next number. -/
theorem Numbered.next (h : Numbered word start s given) :
    Numbered word start (s.next word).2 (given ++ [(s.next word).1]) := by
  have hid : (s.next word).1 = idOf word (start + 1 + given.length) := by
    have hnumber : start + given.length + 1 = start + 1 + given.length := by omega
    rw [IdSource.next, h.issued_eq, hnumber]
  constructor
  · rw [List.length_append, List.length_singleton, List.range'_1_concat, List.map_append,
      ← h.given_eq, hid]
    rfl
  · rw [issued_next, if_pos rfl, h.issued_eq, List.length_append, List.length_singleton]
    omega

/-- An id of another word changes nothing. -/
theorem Numbered.next_other (h : Numbered word start s given) {other : Text}
    (hne : word ≠ other) : Numbered word start (s.next other).2 given :=
  ⟨h.given_eq, by rw [issued_next, if_neg hne, h.issued_eq]⟩

/-- The id at a place is the one of the number of the place. -/
theorem Numbered.eq_idOf (h : Numbered word start s given) {i : Nat} {id : Text}
    (hi : given[i]? = some id) : id = idOf word (start + i + 1) := by
  have hlt : i < given.length := (List.getElem?_eq_some_iff.mp hi).1
  rw [h.given_eq, List.getElem?_map, List.getElem?_range' hlt] at hi
  simp only [Option.map_some, Option.some.injEq] at hi
  rw [← hi]
  congr 1
  omega

end IdSource

end ErDiagram

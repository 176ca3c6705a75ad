import ErDiagram.Number.Numeral
import ErDiagram.Proofs.Text.Blank
import Mathlib.Data.List.TakeWhile
import Mathlib.Data.Nat.Digits.Defs

set_option autoImplicit false

/-!
# A written number is read back

The decimal digits of a number, with a minus sign in front of it if it is negative, are a numeral of
that number, as long as they are not more than the limit.  In turn a number that is read can be
written: a numeral has at least as many digits as its number.
-/

namespace ErDiagram.Numeral

/-! ## Decimal digits -/

/-- A text of the ten digits of ASCII. -/
def IsPlain (digits : Text) : Prop := ∀ c ∈ digits, c.isDigit = true

theorem isPlain_ofNat (n : Nat) : IsPlain (Text.ofNat n) :=
  fun _ hc => Nat.isDigit_of_mem_toDigits (by decide) (by decide) hc

theorem toNat_of_isDigit {c : Char} (h : c.isDigit = true) : 48 ≤ c.toNat ∧ c.toNat ≤ 57 := by
  simpa [Char.isDigit, UInt32.le_iff_toNat_le] using h

theorem decimalValue?_of_isDigit {c : Char} (h : c.isDigit = true) :
    Text.decimalValue? c = some (c.toNat - 48) := by
  obtain ⟨hlow, hhigh⟩ := toNat_of_isDigit h
  -- the digits of ASCII come first in the list
  have hzeros : Text.decimalZeros = 48 :: Text.decimalZeros.tail := rfl
  have hfirst : (decide (48 ≤ c.toNat) && decide (c.toNat < 48 + 10)) = true := by
    simp only [Bool.and_eq_true, decide_eq_true_eq]
    omega
  rw [Text.decimalValue?, hzeros, List.find?_cons, hfirst]
  rfl

theorem isMargin_of_isDigit {c : Char} (h : c.isDigit = true) : isMargin c = false := by
  obtain ⟨hlow, hhigh⟩ := toNat_of_isDigit h
  have hblank : Text.isBlank c = false := by
    unfold Text.isBlank
    generalize c.toNat = n at hlow hhigh
    simp only [Bool.or_eq_false_iff, Bool.and_eq_false_iff, decide_eq_false_iff_not,
      beq_eq_false_iff_ne]
    omega
  rw [isMargin, hblank, Bool.false_and]

/-- The digits of a number have the number as their value. -/
theorem digitsOf_plain {digits : Text} (h : IsPlain digits) :
    digitsOf digits = digits.map fun c => c.toNat - 48 := by
  induction digits with
  | nil => rfl
  | cons c cs ih =>
    have hrest := ih fun d hd => h d (List.mem_cons_of_mem c hd)
    rw [digitsOf, List.filterMap_cons_some (decimalValue?_of_isDigit (h c List.mem_cons_self)),
      List.map_cons]
    exact congrArg (_ :: ·) hrest

theorem value_digitsOf_ofNat (n : Nat) : value (digitsOf (Text.ofNat n)) = n := by
  rw [digitsOf_plain (isPlain_ofNat n), value, List.foldl_map]
  exact (@Nat.ofDigitChars_eq_foldl 10 (Text.ofNat n) 0).symm.trans Nat.ofDigitChars_ten_toDigits

/-! ## Numerals -/

theorem hasDoubleUnderscore_of_not_mem {run : Text} (h : '_' ∉ run) :
    hasDoubleUnderscore run = false := by
  induction run with
  | nil => rfl
  | cons c cs ih =>
    rw [List.mem_cons, not_or] at h
    rw [hasDoubleUnderscore]
    · exact ih h.2
    · rintro t rfl
      exact absurd rfl h.1

theorem underscoresFit_of_not_mem {run : Text} (h : '_' ∉ run) : underscoresFit run = true := by
  have hfirst : Text.startsWith run '_' = false := by
    rw [Text.startsWith, beq_eq_false_iff_ne]
    exact fun hhead => h (List.mem_of_head? hhead)
  have hlast : Text.endsWith run '_' = false := by
    rw [Text.endsWith, beq_eq_false_iff_ne]
    exact fun hlast => h (List.mem_of_getLast? hlast)
  rw [underscoresFit, hfirst, hlast, hasDoubleUnderscore_of_not_mem h]
  rfl

/-- Digits with at most a minus sign in front are trimmed already. -/
theorem trim_plain {digits : Text} (h : IsPlain digits) : trim digits = digits :=
  Text.stripOf_eq_self
    ⟨fun _ hc => isMargin_of_isDigit (h _ (List.mem_of_head? hc)),
      fun _ hc => isMargin_of_isDigit (h _ (List.mem_of_getLast? hc))⟩

theorem trim_minus {digits : Text} (h : IsPlain digits) : trim ('-' :: digits) = '-' :: digits := by
  refine Text.stripOf_eq_self ⟨?_, ?_⟩
  · rintro c hc
    cases hc
    decide
  · intro c hc
    rcases List.mem_cons.mp (List.mem_of_getLast? hc) with rfl | hdigit
    · decide
    · exact isMargin_of_isDigit (h c hdigit)

theorem splitSign_plain {digits : Text} (h : IsPlain digits) :
    splitSign digits = (false, digits) := by
  unfold splitSign
  split
  · exact absurd (h '-' List.mem_cons_self) (by decide)
  · exact absurd (h '+' List.mem_cons_self) (by decide)
  · rfl

/-- What reading a trimmed numeral makes of its sign and its digits. -/
theorem read_of_split {t digits : Text} {negative : Bool} (hplain : IsPlain digits)
    (hne : digits ≠ []) (hlimit : digits.length ≤ digitLimit)
    (hsplit : splitSign (trim t) = (negative, digits)) :
    read t = .ok (if negative then -(value (digitsOf digits) : Int)
      else (value (digitsOf digits) : Int)) := by
  have hclass : ∀ c ∈ digits, (isDecimal c || c == '_') = true := by
    intro c hc
    rw [isDecimal, decimalValue?_of_isDigit (hplain c hc)]
    rfl
  have hrun : digits.takeWhile (fun c => isDecimal c || c == '_') = digits :=
    List.takeWhile_eq_self_iff.mpr hclass
  have hrest : digits.dropWhile (fun c => isDecimal c || c == '_') = [] :=
    List.dropWhile_eq_nil_iff.mpr hclass
  have hunderscore : '_' ∉ digits := fun hmem => absurd (hplain '_' hmem) (by decide)
  have hlength : (digitsOf digits).length = digits.length := by
    rw [digitsOf_plain hplain, List.length_map]
  have hdigits : (digitsOf digits).isEmpty = false := by
    rw [List.isEmpty_eq_false_iff, ← List.length_pos_iff, hlength, List.length_pos_iff]
    exact hne
  simp only [read, hsplit, hrun, hrest, underscoresFit_of_not_mem hunderscore, hlength, hdigits,
    Nat.not_lt.mpr hlimit]
  rfl

/-- A number of no more digits than the limit is read back. -/
theorem read_ofInt {n : Int} (h : (Text.ofNat n.natAbs).length ≤ digitLimit) :
    read (Text.ofInt n) = .ok n := by
  cases n with
  | ofNat n =>
    have hplain := isPlain_ofNat n
    rw [Text.ofInt, read_of_split hplain Nat.toDigits_ne_nil h
      (by rw [trim_plain hplain, splitSign_plain hplain]), value_digitsOf_ofNat]
    rfl
  | negSucc n =>
    have hplain := isPlain_ofNat (n + 1)
    rw [Text.ofInt, read_of_split hplain Nat.toDigits_ne_nil h
      (by rw [trim_minus hplain, splitSign]), value_digitsOf_ofNat]
    rfl

/-! ## What is read can be written -/

theorem lt_ten_of_decimalValue? {c : Char} {d : Nat} (h : Text.decimalValue? c = some d) : d < 10 := by
  obtain ⟨z, hz, rfl⟩ := Option.map_eq_some_iff.mp h
  have hrange := List.find?_some hz
  simp only [Bool.and_eq_true, decide_eq_true_eq] at hrange
  omega

theorem lt_ten_of_mem_digitsOf {run : Text} {d : Nat} (h : d ∈ digitsOf run) : d < 10 := by
  obtain ⟨c, -, hc⟩ := List.mem_filterMap.mp h
  exact lt_ten_of_decimalValue? hc

/-- A row of decimal digits has a value below the power of ten of its length. -/
theorem value_lt_pow {digits : List Nat} (h : ∀ d ∈ digits, d < 10) :
    value digits < 10 ^ digits.length := by
  -- each digit behind a total multiplies the room above it by ten
  have hfrom : ∀ (digits : List Nat) (total : Nat), (∀ d ∈ digits, d < 10) →
      digits.foldl (fun total d => 10 * total + d) total < (total + 1) * 10 ^ digits.length := by
    intro digits
    induction digits with
    | nil =>
      intro total _
      simp
    | cons d rest ih =>
      intro total hdigits
      have hd : d < 10 := hdigits d List.mem_cons_self
      calc (d :: rest).foldl (fun total d => 10 * total + d) total
          < (10 * total + d + 1) * 10 ^ rest.length :=
            ih _ fun e he => hdigits e (List.mem_cons_of_mem d he)
        _ ≤ ((total + 1) * 10) * 10 ^ rest.length := Nat.mul_le_mul_right _ (by omega)
        _ = (total + 1) * 10 ^ (d :: rest).length := by
            rw [List.length_cons, Nat.pow_succ', Nat.mul_assoc]
  simpa [value] using hfrom digits 0 h

/-- A number that is read has no more digits than the limit, since its numeral has no more. -/
theorem length_le_of_read {t : Text} {n : Int} (h : read t = .ok n) :
    (Text.ofNat n.natAbs).length ≤ digitLimit := by
  simp only [read] at h
  generalize (splitSign (trim t)).2.takeWhile (fun c => isDecimal c || c == '_') = run at h
  split at h
  · cases h
  · split at h
    · cases h
    · rename_i hlimit
      split at h
      · cases h
      · have hvalue : n.natAbs = value (digitsOf run) := by
          split at h
          all_goals
            cases h
            simp
        have hlt : value (digitsOf run) < 10 ^ digitLimit :=
          lt_of_lt_of_le (value_lt_pow fun _ => lt_ten_of_mem_digitsOf)
            (Nat.pow_le_pow_right (by decide) (Nat.not_lt.mp hlimit))
        rw [hvalue]
        exact Nat.toDigits_length 10 _ _ (by decide) hlt

/-- A number of no more digits than the limit is written in decimal digits. -/
theorem write?_eq_some {n : Int} (h : (Text.ofNat n.natAbs).length ≤ digitLimit) :
    write? n = some (Text.ofInt n) :=
  if_neg (Nat.not_lt.mpr h)

end ErDiagram.Numeral

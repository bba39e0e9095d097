/-
**Numerals denote what they are written for.**

A text of digits denotes a number: each digit counts ten times as much as the one after it. The numeral
of a natural denotes it and has no zero in front that could be left out; a numeral that is widened with
zeros has the width that is asked for and still denotes the same.

* `valueOf`, `IsNumeral`: what digits denote, and which texts of digits are numerals;
* `valueOf_digits`, `isNumeral_digits`: the numeral of a natural;
* `Places`, `places_padded`: digits of a set number;
* `fixedPlaces_spec`: the digits before and after a point.
-/

import CalcBuild.Number.Decimal
import Mathlib

namespace CalcBuild.Number

/-! ### What digits denote -/

/-- The number that digits denote, read from left to right. -/
def valueOf (text : List Char) : Nat :=
  text.foldl (fun value c => 10 * value + (c.toNat - '0'.toNat)) 0

/-- Digits without a zero in front that could be left out. -/
structure IsNumeral (text : List Char) : Prop where
  digits : ∀ c ∈ text, c.isDigit = true
  nonempty : text ≠ []
  unpadded : text.head? = some '0' → text = ['0']

/-- Digits of a set number. -/
structure Places (width : Nat) (text : List Char) : Prop where
  digits : ∀ c ∈ text, c.isDigit = true
  length : text.length = width

theorem valueOf_append (text more : List Char) :
    valueOf (text ++ more) = valueOf text * 10 ^ more.length + valueOf more := by
  induction more using List.reverseRecOn with
  | nil => simp [valueOf]
  | append_singleton more c ih =>
    have last (front : List Char) : valueOf (front ++ [c]) = 10 * valueOf front + (c.toNat - '0'.toNat) := by
      simp [valueOf]
    rw [← List.append_assoc, last, last, ih, List.length_append, List.length_singleton, pow_succ]
    ring

/-- Zeros in front add nothing. -/
theorem valueOf_zeros (count : Nat) : valueOf (List.replicate count '0') = 0 := by
  induction count with
  | zero => rfl
  | succ count ih =>
    rw [List.replicate_succ', valueOf_append, ih]
    rfl

/-! ### One digit -/

theorem isDigit_iff {c : Char} : c.isDigit = true ↔ 48 ≤ c.toNat ∧ c.toNat ≤ 57 := by
  simp [Char.isDigit, UInt32.le_iff_toNat_le]

theorem digit_spec (value : Nat) :
    (digit value).isDigit = true ∧ (digit value).toNat - '0'.toNat = value % 10 := by
  have small : value % 10 < 10 := Nat.mod_lt _ (by decide)
  unfold digit
  interval_cases value % 10 <;> decide

theorem digit_eq_zero_iff (value : Nat) : digit value = '0' ↔ value % 10 = 0 := by
  have small : value % 10 < 10 := Nat.mod_lt _ (by decide)
  unfold digit
  interval_cases value % 10 <;> decide

/-! ### The numeral of a natural -/

theorem digitsOnto_eq (value : Nat) (rest : List Char) :
    digitsOnto value rest = digits value ++ rest := by
  unfold digits
  induction value using Nat.strongRecOn generalizing rest with
  | _ value ih =>
    rw [digitsOnto]
    conv_rhs => rw [digitsOnto]
    split
    · rfl
    · have smaller : value / 10 < value := by omega
      rw [ih _ smaller (digit (value % 10) :: rest), ih _ smaller [digit (value % 10)],
        List.append_assoc]
      rfl

theorem digits_of_lt {value : Nat} (small : value < 10) : digits value = [digit value] := by
  rw [digits, digitsOnto, if_pos small]

/-- The last digit of a numeral, and the numeral before it. -/
theorem digits_step {value : Nat} (large : 10 ≤ value) :
    digits value = digits (value / 10) ++ [digit value] := by
  have last : digit (value % 10) = digit value := by simp [digit]
  rw [digits, digitsOnto, if_neg (by omega), digitsOnto_eq, last]

/-- Induction over the digits of a natural. -/
theorem digits_induction {motive : Nat → Prop} (small : ∀ value, value < 10 → motive value)
    (large : ∀ value, 10 ≤ value → motive (value / 10) → motive value) (value : Nat) : motive value := by
  induction value using Nat.strongRecOn with
  | _ value ih =>
    by_cases single : value < 10
    · exact small value single
    · exact large value (by omega) (ih _ (by omega))

/-- **A numeral denotes the natural that it is written for.** -/
@[simp]
theorem valueOf_digits (value : Nat) : valueOf (digits value) = value := by
  have single (value : Nat) : valueOf [digit value] = value % 10 := by
    rw [← (digit_spec value).2, valueOf, List.foldl_cons, List.foldl_nil, Nat.mul_zero, Nat.zero_add]
  induction value using digits_induction with
  | small value small => rw [digits_of_lt small, single, Nat.mod_eq_of_lt small]
  | large value large ih =>
    rw [digits_step large, valueOf_append, ih, single, List.length_singleton, pow_one]
    omega

/-- The first digit of a numeral is a zero only if the number is. -/
theorem head?_digits_eq_zero {value : Nat} (zero : (digits value).head? = some '0') : value = 0 := by
  induction value using digits_induction with
  | small value small =>
    rw [digits_of_lt small, List.head?_cons, Option.some_inj, digit_eq_zero_iff] at zero
    omega
  | large value large ih =>
    rw [digits_step large, List.head?_append] at zero
    cases front : (digits (value / 10)).head? with
    | some c =>
      rw [front, Option.some_or] at zero
      have := ih (front.trans zero)
      omega
    | none =>
      have value_eq := valueOf_digits (value / 10)
      rw [List.head?_eq_none_iff.mp front] at value_eq
      change 0 = value / 10 at value_eq
      omega

/-- **The numeral of a natural has no zero in front** that could be left out. -/
theorem isNumeral_digits (value : Nat) : IsNumeral (digits value) where
  digits := by
    induction value using digits_induction with
    | small value small =>
      rw [digits_of_lt small, List.forall_mem_singleton]
      exact (digit_spec value).1
    | large value large ih =>
      rw [digits_step large, List.forall_mem_append, List.forall_mem_singleton]
      exact ⟨ih, (digit_spec value).1⟩
  nonempty := by
    by_cases small : value < 10
    · simp [digits_of_lt small]
    · simp [digits_step (Nat.le_of_not_lt small)]
  unpadded zero := by
    rw [head?_digits_eq_zero zero, digits_of_lt (by decide)]
    rfl

theorem length_digits_le {width value : Nat} (positive : 0 < width) (bound : value < 10 ^ width) :
    (digits value).length ≤ width := by
  induction value using digits_induction generalizing width with
  | small value small =>
    rw [digits_of_lt small]
    exact positive
  | large value large ih =>
    obtain ⟨shorter, rfl⟩ : ∃ shorter, width = shorter + 1 := ⟨width - 1, by omega⟩
    have positive' : 0 < shorter := by
      rcases Nat.eq_zero_or_pos shorter with rfl | positive'
      · omega
      · exact positive'
    rw [digits_step large, List.length_append, List.length_singleton]
    refine Nat.succ_le_succ (ih positive' ?_)
    rw [pow_succ] at bound
    omega

/-! ### Set numbers of places -/

/-- **A widened numeral has the width that is asked for.** -/
theorem places_padded {width value : Nat} (positive : 0 < width) (bound : value < 10 ^ width) :
    Places width (padded width value) where
  digits := by
    show ∀ c ∈ List.replicate (width - (digits value).length) '0' ++ digits value, _
    rw [List.forall_mem_append]
    exact ⟨fun c member => by rw [List.eq_of_mem_replicate member]; rfl,
      (isNumeral_digits value).digits⟩
  length := by
    have short := length_digits_le positive bound
    show (List.replicate (width - (digits value).length) '0' ++ digits value).length = width
    rw [List.length_append, List.length_replicate]
    omega

@[simp]
theorem valueOf_padded (width value : Nat) : valueOf (padded width value) = value := by
  show valueOf (List.replicate (width - (digits value).length) '0' ++ digits value) = value
  rw [valueOf_append, valueOf_zeros, valueOf_digits, Nat.zero_mul, Nat.zero_add]

/-- **A decimal with a set number of places**: the digits before and after the point together denote
the number of units of the last place. -/
theorem fixedPlaces_spec {places : Nat} (positive : 0 < places) (scaled : Nat) :
    ∃ whole fraction, fixedPlaces places scaled = whole ++ '.' :: fraction ∧ IsNumeral whole ∧
      Places places fraction ∧ valueOf (whole ++ fraction) = scaled := by
  have scale : 0 < Nat.pow 10 places := Nat.pow_pos (by decide)
  have fits := places_padded positive (Nat.mod_lt scaled scale)
  refine ⟨_, _, rfl, isNumeral_digits _, fits, ?_⟩
  calc valueOf (digits (scaled / 10 ^ places) ++ padded places (scaled % 10 ^ places))
      = scaled / 10 ^ places * 10 ^ places + scaled % 10 ^ places := by
        rw [valueOf_append, valueOf_digits, valueOf_padded, fits.length]
    _ = scaled := Nat.div_add_mod' scaled (10 ^ places)

end CalcBuild.Number

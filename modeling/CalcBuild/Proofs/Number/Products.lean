/-
**Powers of products.**

The power of a product is the product of the powers. The recursion by halves follows this law for every
base, zero included, as long as 64 bits hold the numbers. The function that programs call does not get
that far with the base zero: it answers 1, where the recursion would answer 0. So there the law holds only
if the other factor is zero as well, or has the power 1.

* `powerByHalves_zero`, `powerByHalves_exact`: the recursion, for any base;
* `power_of_ne_zero`, `power_zero`: what programs get;
* `power_product`: when the law holds;
* `power_product_zero`: a product of which one factor is zero.
-/

import CalcBuild.Proofs.Number.Powers

namespace CalcBuild.Number

/-! ### The recursion -/

/-- **Powers of zero**, unless the exponent is zero too, are zero. -/
theorem powerByHalves_zero {exponent : Nat} (positive : 0 < exponent) : powerByHalves 0 exponent = 0 := by
  induction exponent using Nat.strongRecOn with
  | _ exponent ih =>
    rw [powerByHalves, if_neg positive.ne']
    by_cases one : exponent = 1
    · exact if_pos one
    · have half : powerByHalves 0 (exponent / 2) = 0 := ih _ (by omega) (by omega)
      rw [if_neg one, half]
      split <;> rfl

/-- **The recursion is exact** for any base, as long as 64 bits hold the power. -/
theorem powerByHalves_exact {base : Int64} {exponent : Nat} (positive : 0 < exponent)
    (fits : Fits (base.toInt ^ exponent)) :
    (powerByHalves base exponent).toInt = base.toInt ^ exponent := by
  by_cases zero : base = 0
  · rw [zero, powerByHalves_zero positive]
    exact (zero_pow positive.ne').symm
  · have nonzero : base.toInt ≠ 0 := fun same => zero (Int64.toInt_inj.mp same)
    rw [← tracedByHalves_fst]
    exact (tracedByHalves_exact nonzero exponent fits).1

/-- The law for the recursion. -/
theorem powerByHalves_product {first second : Int64} {exponent : Nat} (positive : 0 < exponent)
    (product : Fits (first.toInt * second.toInt)) (fits : Fits (first.toInt ^ exponent))
    (fits' : Fits (second.toInt ^ exponent)) (both : Fits ((first.toInt * second.toInt) ^ exponent)) :
    (powerByHalves (first * second) exponent).toInt
      = (powerByHalves first exponent).toInt * (powerByHalves second exponent).toInt := by
  have factors := toInt_mul_of_fits product
  rw [← factors] at both
  calc (powerByHalves (first * second) exponent).toInt
      = (first.toInt * second.toInt) ^ exponent := by rw [powerByHalves_exact positive both, factors]
    _ = first.toInt ^ exponent * second.toInt ^ exponent := mul_pow _ _ _
    _ = (powerByHalves first exponent).toInt * (powerByHalves second exponent).toInt := by
        rw [powerByHalves_exact positive fits, powerByHalves_exact positive fits']

/-! ### The function that programs call -/

section Called

variable {base exponent : Int64}

theorem power_of_ne_zero (nonzero : base ≠ 0) (positive : 0 < exponent) :
    power base exponent = powerByHalves base exponent.toInt.toNat := by
  unfold power
  rw [if_neg, if_neg nonzero]
  rintro (negative | ⟨zero, _⟩)
  · exact Int64.lt_irrefl (Int64.lt_trans negative positive)
  · exact nonzero zero

/-- The base zero is not left to the recursion. -/
theorem power_zero (positive : 0 < exponent) : power 0 exponent = 1 := by
  unfold power
  rw [if_neg, if_pos rfl]
  rintro (negative | ⟨_, zero⟩)
  · exact Int64.lt_irrefl (Int64.lt_trans negative positive)
  · exact Int64.lt_irrefl (zero ▸ positive)

theorem toNat_pos (positive : 0 < exponent) : 0 < exponent.toInt.toNat := by
  have positive' : (0 : Int64).toInt < exponent.toInt := Int64.lt_iff_toInt_lt.mp positive
  rw [Int64.toInt_zero] at positive'
  omega

end Called

/-- **When the power of a product is the product of the powers.** As long as 64 bits hold the product and
the three powers, the recursion follows the law for all bases. The function that programs call follows it
exactly if no factor is zero whose partner is not zero and has a power other than 1. -/
theorem power_product (first second exponent : Int64) (positive : 0 < exponent)
    (product : Fits (first.toInt * second.toInt)) (fits : Fits (first.toInt ^ exponent.toInt.toNat))
    (fits' : Fits (second.toInt ^ exponent.toInt.toNat))
    (both : Fits ((first.toInt * second.toInt) ^ exponent.toInt.toNat)) :
    (powerByHalves (first * second) exponent.toInt.toNat).toInt
      = (powerByHalves first exponent.toInt.toNat).toInt *
        (powerByHalves second exponent.toInt.toNat).toInt ∧
    ((power (first * second) exponent).toInt
        = (power first exponent).toInt * (power second exponent).toInt ↔
      (first = 0 → second = 0 ∨ second.toInt ^ exponent.toInt.toNat = 1) ∧
        (second = 0 → first = 0 ∨ first.toInt ^ exponent.toInt.toNat = 1)) := by
  have law := powerByHalves_product (toNat_pos positive) product fits fits' both
  have one : (1 : Int64).toInt = 1 := by decide
  refine ⟨law, ?_⟩
  by_cases zero : first = 0 <;> by_cases zero' : second = 0
  · rw [zero, zero', Int64.zero_mul, power_zero positive, one]
    simp
  · have other := powerByHalves_exact (toNat_pos positive) fits'
    rw [zero, Int64.zero_mul, power_zero positive, one, one_mul, power_of_ne_zero zero' positive, other]
    simp [zero', eq_comm]
  · have other := powerByHalves_exact (toNat_pos positive) fits
    rw [zero', Int64.mul_zero, power_zero positive, one, mul_one, power_of_ne_zero zero positive, other]
    simp [zero, eq_comm]
  · have nonzero : first * second ≠ 0 := by
      intro vanishes
      have factors := toInt_mul_of_fits product
      rw [vanishes, Int64.toInt_zero, eq_comm, mul_eq_zero] at factors
      exact factors.elim (fun same => zero (Int64.toInt_inj.mp same))
        fun same => zero' (Int64.toInt_inj.mp same)
    rw [power_of_ne_zero nonzero positive, power_of_ne_zero zero positive,
      power_of_ne_zero zero' positive]
    exact iff_of_true law ⟨fun same => absurd same zero, fun same => absurd same zero'⟩

/-- The law up to the least 64-bit integer, and with a zero whose partner has the power 1. -/
theorem power_product_least :
    (power (-2 * 4) 21).toInt = (power (-2) 21).toInt * (power 4 21).toInt ∧
    (power (0 * -1) 2).toInt = (power 0 2).toInt * (power (-1) 2).toInt ∧
    (powerByHalves (0 * 2) 1).toInt = (powerByHalves 0 1).toInt * (powerByHalves 2 1).toInt :=
  ⟨(power_product (-2) 4 21 (by decide) (by decide) (by decide) (by decide) (by decide)).2.mpr
      (by decide),
    (power_product 0 (-1) 2 (by decide) (by decide) (by decide) (by decide) (by decide)).2.mpr
      (by decide),
    (power_product 0 2 1 (by decide) (by decide) (by decide) (by decide) (by decide)).1⟩

/-- **Zero breaks the law**: 64 bits hold all powers of 0, 2 and their product, but the power of the
product is 1, and the product of the powers is 2. -/
theorem power_product_zero :
    (0 : Int64) < 1 ∧ Fits (0 * 2) ∧ Fits (0 ^ 1) ∧ Fits (2 ^ 1) ∧ Fits ((0 * 2) ^ 1) ∧
      (power (0 * 2) 1).toInt ≠ (power 0 1).toInt * (power 2 1).toInt := by
  refine ⟨by decide, by decide, by decide, by decide, by decide, ?_⟩
  have two : power 2 1 = 2 := by
    rw [power_of_ne_zero (by decide) (by decide), show (1 : Int64).toInt.toNat = 1 by decide,
      powerByHalves, if_neg one_ne_zero, if_pos rfl]
  rw [show (0 * 2 : Int64) = 0 by decide, power_zero (by decide), two]
  decide

end CalcBuild.Number

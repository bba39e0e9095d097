/-
**Powers by halves are exact.**

Squaring forms products in another order than the power itself, but none of them is larger than the
power in size. So as long as 64 bits hold the power, they hold every product that is formed on the way,
and the result is the power. The least 64-bit integer is the one power that has no opposite among them;
it only comes out in the last multiplication by a negative base.

* `tracedByHalves`: the recursion together with the products that its calls form;
* `Fits.of_power`: what 64 bits hold of a power, they hold of what it is made from;
* `tracedByHalves_exact`: the recursion, by induction on its calls;
* `power_exact`: the function that programs call.
-/

import CalcBuild.Number.Power
import Mathlib

namespace CalcBuild.Number

/-! ### What 64 bits hold -/

/-- An integer that 64 bits hold. -/
def Fits (value : Int) : Prop := -2 ^ 63 ≤ value ∧ value < 2 ^ 63

instance (value : Int) : Decidable (Fits value) :=
  inferInstanceAs (Decidable (_ ∧ _))

/-- **A product that 64 bits hold is not cut.** -/
theorem toInt_mul_of_fits {first second : Int64} (fits : Fits (first.toInt * second.toInt)) :
    (first * second).toInt = first.toInt * second.toInt := by
  obtain ⟨low, high⟩ := fits
  rw [Int64.toInt_mul]
  exact Int.bmod_eq_of_le (by norm_num at low ⊢; exact low) (by norm_num at high ⊢; exact high)

/-- A square bounds what is squared. -/
theorem Fits.of_square {value : Int} (fits : Fits (value * value)) : Fits value := by
  obtain ⟨_, high⟩ := fits
  have bound : |value| ≤ value * value := by
    rw [abs_le]
    constructor <;> nlinarith
  have size := abs_le.mp bound
  constructor <;> omega

/-- **An even power is no larger than the next odd one**: if 64 bits hold a square of a power times its
base, they hold the square. -/
theorem Fits.square_of_odd {base : Int} (nonzero : base ≠ 0) {exponent : Nat}
    (fits : Fits (base ^ exponent * base ^ exponent * base)) :
    Fits (base ^ exponent * base ^ exponent) := by
  obtain ⟨low, high⟩ := fits
  have positive : 0 ≤ base ^ exponent * base ^ exponent := mul_self_nonneg _
  refine ⟨by omega, ?_⟩
  rcases lt_trichotomy base (-1) with below | rfl | above
  · nlinarith
  · -- The square of a power of -1 is 1; the bound on its opposite alone would leave `2 ^ 63`.
    rw [← mul_pow]
    norm_num
  · have atLeast : 1 ≤ base := by omega
    nlinarith

/-- **What 64 bits hold of a power, they hold of what it is made from**: the power with half the
exponent, and its square. -/
theorem Fits.of_power {base : Int} (nonzero : base ≠ 0) {exponent : Nat} (fits : Fits (base ^ exponent)) :
    Fits (base ^ (exponent / 2)) ∧ Fits (base ^ (exponent / 2) * base ^ (exponent / 2)) := by
  suffices square : Fits (base ^ (exponent / 2) * base ^ (exponent / 2)) from ⟨square.of_square, square⟩
  rcases Nat.even_or_odd' exponent with ⟨half, rfl | rfl⟩
  · rw [Nat.mul_div_cancel_left half (by decide), ← pow_add, ← two_mul]
    exact fits
  · have halved : (2 * half + 1) / 2 = half := by omega
    rw [halved]
    refine Fits.square_of_odd nonzero ?_
    rwa [← pow_add, ← two_mul, ← pow_succ]

/-! ### The recursion -/

/-- The power by halves together with the products that the calls form, as they are before they are cut
to 64 bits; those of an inner call come before those of the call that makes it. -/
def tracedByHalves (base : Int64) (exponent : Nat) : Int64 × List Int :=
  if exponent = 0 then (1, [])
  else if exponent = 1 then (base, [])
  else
    let inner := tracedByHalves base (exponent / 2)
    let half := inner.1
    let square := half * half
    if exponent % 2 = 0 then (square, inner.2 ++ [half.toInt * half.toInt])
    else (square * base, inner.2 ++ [half.toInt * half.toInt, square.toInt * base.toInt])
termination_by exponent
decreasing_by omega

/-- The trace goes along with the recursion and does not change it. -/
theorem tracedByHalves_fst (base : Int64) (exponent : Nat) :
    (tracedByHalves base exponent).1 = powerByHalves base exponent := by
  fun_induction tracedByHalves base exponent with
  | case1 => rw [powerByHalves, if_pos rfl]
  | case2 => rw [powerByHalves, if_neg one_ne_zero, if_pos rfl]
  | case3 exponent zero one inner half square even ih =>
    rw [powerByHalves, if_neg zero, if_neg one]
    show half * half = _
    rw [show half = powerByHalves base (exponent / 2) from ih, if_pos even]
  | case4 exponent zero one inner half square odd ih =>
    rw [powerByHalves, if_neg zero, if_neg one]
    show half * half * base = _
    rw [show half = powerByHalves base (exponent / 2) from ih, if_neg odd]

/-- Each call halves the exponent and forms two products at most. -/
theorem tracedByHalves_length (base : Int64) (exponent : Nat) :
    (tracedByHalves base exponent).2.length ≤ 2 * Nat.log2 exponent := by
  fun_induction tracedByHalves base exponent with
  | case1 => exact Nat.zero_le _
  | case2 => exact Nat.zero_le _
  | case3 exponent zero one inner half square even ih =>
    have bound : inner.2.length ≤ 2 * Nat.log2 (exponent / 2) := ih
    rw [Nat.log2_def, if_pos (by omega), List.length_append, List.length_singleton]
    omega
  | case4 exponent zero one inner half square odd ih =>
    have bound : inner.2.length ≤ 2 * Nat.log2 (exponent / 2) := ih
    rw [Nat.log2_def, if_pos (by omega), List.length_append, List.length_cons, List.length_singleton]
    omega

/-- **The recursion is exact**: it gives the power, and 64 bits hold every product that it forms. -/
theorem tracedByHalves_exact {base : Int64} (nonzero : base.toInt ≠ 0) (exponent : Nat)
    (fits : Fits (base.toInt ^ exponent)) :
    (tracedByHalves base exponent).1.toInt = base.toInt ^ exponent ∧
      ∀ product ∈ (tracedByHalves base exponent).2, Fits product := by
  fun_induction tracedByHalves base exponent with
  | case1 => exact ⟨by rw [pow_zero]; decide, List.forall_mem_nil _⟩
  | case2 => exact ⟨(pow_one _).symm, List.forall_mem_nil _⟩
  | case3 exponent zero one inner half square even ih =>
    obtain ⟨fitsHalf, fitsSquare⟩ := fits.of_power nonzero
    obtain ⟨exact_, formed⟩ := ih fitsHalf
    have fitsHere : Fits (half.toInt * half.toInt) := by rwa [exact_]
    refine ⟨?_, ?_⟩
    · calc (half * half).toInt = half.toInt * half.toInt := toInt_mul_of_fits fitsHere
        _ = base.toInt ^ (exponent / 2 + exponent / 2) := by rw [exact_, ← pow_add]
        _ = base.toInt ^ exponent := by congr 1; omega
    · intro product member
      rcases List.mem_append.mp member with inside | here
      · exact formed product inside
      · rwa [List.mem_singleton.mp here]
  | case4 exponent zero one inner half square odd ih =>
    obtain ⟨fitsHalf, fitsSquare⟩ := fits.of_power nonzero
    obtain ⟨exact_, formed⟩ := ih fitsHalf
    have fitsHere : Fits (half.toInt * half.toInt) := by rwa [exact_]
    have squared : square.toInt = base.toInt ^ (exponent / 2 + exponent / 2) := by
      rw [pow_add, ← exact_]
      exact toInt_mul_of_fits fitsHere
    have product_eq : square.toInt * base.toInt = base.toInt ^ exponent := by
      rw [squared, ← pow_succ]
      congr 1
      omega
    have fitsLast : Fits (square.toInt * base.toInt) := by rwa [product_eq]
    refine ⟨?_, ?_⟩
    · show (square * base).toInt = _
      rw [toInt_mul_of_fits fitsLast, product_eq]
    · intro product member
      rcases List.mem_append.mp member with inside | here
      · exact formed product inside
      · rcases List.mem_pair.mp here with rfl | rfl
        · exact fitsHere
        · exact fitsLast

/-! ### The function that programs call -/

/-- **Powers are exact.** A negative exponent gives -1. With a base other than zero and an exponent that
is not negative, as long as 64 bits hold the power, the result is the power; it comes from a recursion
that halves the exponent until it ends and so forms at most 124 products, and 64 bits hold each of
these. -/
theorem power_exact (base exponent : Int64) :
    (exponent < 0 → power base exponent = -1) ∧
    (base ≠ 0 → 0 ≤ exponent → Fits (base.toInt ^ exponent.toInt.toNat) →
      (power base exponent).toInt = base.toInt ^ exponent.toInt.toNat ∧
      (tracedByHalves base exponent.toInt.toNat).1 = power base exponent ∧
      (∀ product ∈ (tracedByHalves base exponent.toInt.toNat).2, Fits product) ∧
      (tracedByHalves base exponent.toInt.toNat).2.length ≤ 124) := by
  refine ⟨fun negative => if_pos (.inl negative), fun nonzero nonnegative fits => ?_⟩
  have nonzero' : base.toInt ≠ 0 := fun zero => nonzero (Int64.toInt_inj.mp zero)
  have recurs : power base exponent = powerByHalves base exponent.toInt.toNat := by
    unfold power
    rw [if_neg, if_neg nonzero]
    rintro (negative | ⟨zero, _⟩)
    · exact absurd nonnegative (Int64.not_le.mpr negative)
    · exact nonzero zero
  obtain ⟨exact_, formed⟩ := tracedByHalves_exact nonzero' _ fits
  have short : Nat.log2 exponent.toInt.toNat ≤ 62 := by
    by_cases zero : exponent.toInt.toNat = 0
    · rw [zero]
      decide
    · have bound := exponent.toInt_lt
      rw [← Nat.lt_succ_iff, Nat.log2_lt zero]
      omega
  have length := tracedByHalves_length base exponent.toInt.toNat
  rw [recurs, ← tracedByHalves_fst]
  exact ⟨exact_, rfl, formed, by omega⟩

/-- The least 64-bit integer comes out as a power of -2, from products that 64 bits hold. -/
theorem power_exact_least : power (-5) (-3) = -1 ∧ (power (-2) 63).toInt = -2 ^ 63 ∧
    ∀ product ∈ (tracedByHalves (-2) 63).2, Fits product := by
  have exponent : (63 : Int64).toInt.toNat = 63 := by decide
  obtain ⟨exact_, _, formed, _⟩ := (power_exact (-2) 63).2 (by decide) (by decide) (by decide)
  rw [exponent] at exact_ formed
  exact ⟨(power_exact (-5) (-3)).1 (by decide), exact_, formed⟩

end CalcBuild.Number

/-
**Doubles are printed correctly rounded.**

The bits of a double are a sign, a biased exponent of eleven bits and a fraction of 52 bits. A finite
double stands for an exact rational number. Its printed line shows the multiple of a millionth nearest
to that number, the even one of two that are equally near, after a minus sign exactly if the sign bit is
set.

* `Double.value`: the rational number that a finite double stands for;
* `IsNearest`, `roundEven_nearest`: the integer nearest to a quotient;
* `ofBits_finite`: what the printer reads in the bits of a finite double is its exact magnitude;
* `ShowsMillionths`, `printDouble_rounded`: what the printed line says.
-/

import CalcBuild.Number.Print
import CalcBuild.Proofs.Number.Numerals

namespace CalcBuild.Number

/-! ### The interchange format -/

namespace Double

/-- The sign bit. -/
def sign (bits : UInt64) : Bool := bits >>> 63 != 0

/-- The biased exponent. -/
def exponent (bits : UInt64) : Nat := ((bits >>> 52) &&& 0x7FF).toNat

/-- The fraction. -/
def fraction (bits : UInt64) : Nat := (bits &&& 0xFFFFFFFFFFFFF).toNat

/-- The largest biased exponent is that of infinities and of what is not a number. -/
def IsFinite (bits : UInt64) : Prop := exponent bits ≠ 0x7FF

def IsInfinite (bits : UInt64) : Prop := exponent bits = 0x7FF ∧ fraction bits = 0

def IsNaN (bits : UInt64) : Prop := exponent bits = 0x7FF ∧ fraction bits ≠ 0

instance (bits : UInt64) : Decidable (IsFinite bits) := inferInstanceAs (Decidable (_ ≠ _))

/-- The exact value of a finite double apart from its sign: the fraction follows a leading one, and with
the least exponent a leading zero. -/
def size (bits : UInt64) : ℚ :=
  if exponent bits = 0 then 2 ^ (-1022 : ℤ) * (fraction bits / 2 ^ 52)
  else 2 ^ ((exponent bits : ℤ) - 1023) * (1 + fraction bits / 2 ^ 52)

/-- The mantissa as a natural: the fraction, after a leading one unless the exponent is the least. -/
def mantissa (bits : UInt64) : ℕ :=
  if exponent bits = 0 then fraction bits else 2 ^ 52 + fraction bits

/-- The power of two that the mantissa is counted in. -/
def scale (bits : UInt64) : ℤ := if exponent bits = 0 then -1074 else exponent bits - 1075

theorem size_eq (bits : UInt64) : size bits = mantissa bits * 2 ^ scale bits := by
  unfold size mantissa scale
  split_ifs with least
  · calc 2 ^ (-1022 : ℤ) * (fraction bits / 2 ^ 52 : ℚ)
        = fraction bits * (2 ^ (-1022 : ℤ) / 2 ^ (52 : ℤ)) := by
          rw [zpow_ofNat]
          ring
      _ = fraction bits * 2 ^ (-1074 : ℤ) := by
          rw [← zpow_sub₀ two_ne_zero, show (-1022 : ℤ) - 52 = -1074 by norm_num]
  · calc 2 ^ ((exponent bits : ℤ) - 1023) * (1 + fraction bits / 2 ^ 52 : ℚ)
        = (2 ^ 52 + fraction bits) * (2 ^ ((exponent bits : ℤ) - 1023) / 2 ^ (52 : ℤ)) := by
          rw [zpow_ofNat]
          field_simp
      _ = ((2 ^ 52 + fraction bits : ℕ) : ℚ) * 2 ^ ((exponent bits : ℤ) - 1075) := by
          rw [← zpow_sub₀ two_ne_zero, sub_sub, show (1023 : ℤ) + 52 = 1075 by norm_num]
          push_cast
          rfl

/-- The exact value of a finite double. -/
def value (bits : UInt64) : ℚ := if sign bits then -size bits else size bits

theorem abs_value (bits : UInt64) : |value bits| = size bits := by
  have nonnegative : 0 ≤ size bits := by
    unfold size
    split <;> positivity
  unfold value
  split
  · rw [abs_neg, abs_of_nonneg nonnegative]
  · exact abs_of_nonneg nonnegative

end Double

/-! ### What the printer reads -/

/-- The exact value of a magnitude. -/
def Magnitude.value (magnitude : Magnitude) : ℚ := magnitude.mantissa * 2 ^ magnitude.exponent

/-- The quotient that a magnitude is computed with is its exact value. -/
theorem Magnitude.fraction_value (magnitude : Magnitude) :
    0 < magnitude.fraction.2 ∧ (magnitude.fraction.1 / magnitude.fraction.2 : ℚ) = magnitude.value := by
  have split : (2 : ℚ) ^ magnitude.exponent
      = 2 ^ magnitude.exponent.toNat / 2 ^ (-magnitude.exponent).toNat := by
    rw [← zpow_natCast, ← zpow_natCast, ← zpow_sub₀ two_ne_zero]
    congr 1
    omega
  refine ⟨Nat.pow_pos (by decide), ?_⟩
  show ((magnitude.mantissa * 2 ^ magnitude.exponent.toNat : ℕ) /
    (2 ^ (-magnitude.exponent).toNat : ℕ) : ℚ) = magnitude.mantissa * 2 ^ magnitude.exponent
  rw [split]
  push_cast
  ring

/-- The printer finds the fields of the interchange format. -/
theorem ofBits_fields (bits : UInt64) :
    (Pattern.ofBits bits).negative = Double.sign bits ∧
      bits.toNat / 2 ^ 52 % 2 ^ 11 = Double.exponent bits ∧ bits.toNat % 2 ^ 52 = Double.fraction bits := by
  have bound := bits.toNat_lt
  refine ⟨?_, ?_, ?_⟩
  · show (bits.toNat / 2 ^ 63 % 2 == 1) = (bits >>> 63 != 0)
    have shifted : (bits >>> 63).toNat = bits.toNat / 2 ^ 63 := by
      simp [Nat.shiftRight_eq_div_pow]
    have zero : bits >>> 63 = 0 ↔ bits.toNat / 2 ^ 63 = 0 := by
      rw [← shifted, ← UInt64.toNat_inj]
      rfl
    rw [Bool.eq_iff_iff, beq_iff_eq, bne_iff_ne, ne_eq, zero]
    omega
  · show bits.toNat / 2 ^ 52 % 2 ^ 11 = ((bits >>> 52) &&& 0x7FF).toNat
    rw [UInt64.toNat_and, ← Nat.and_two_pow_sub_one_eq_mod]
    simp [Nat.shiftRight_eq_div_pow]
  · show bits.toNat % 2 ^ 52 = (bits &&& 0xFFFFFFFFFFFFF).toNat
    rw [UInt64.toNat_and, ← Nat.and_two_pow_sub_one_eq_mod]
    rfl

/-- **What the printer reads in the bits of a finite double** is its exact value, apart from its sign. -/
theorem ofBits_finite {bits : UInt64} (finite : Double.IsFinite bits) :
    ∃ magnitude, (Pattern.ofBits bits).reading = .finite magnitude ∧
      magnitude.value = |Double.value bits| := by
  obtain ⟨_, exponent, fraction⟩ := ofBits_fields bits
  refine ⟨⟨Double.mantissa bits, Double.scale bits⟩, ?_, ?_⟩
  · have reading : (Pattern.ofBits bits).reading =
        if Double.exponent bits = 0 then .finite ⟨Double.fraction bits, -1074⟩
        else .finite ⟨2 ^ 52 + Double.fraction bits, (Double.exponent bits : Int) - 1075⟩ := by
      unfold Double.IsFinite at finite
      rw [← exponent] at finite
      rw [← exponent, ← fraction]
      exact if_neg finite
    rw [reading]
    unfold Double.mantissa Double.scale
    split <;> rfl
  · rw [Double.abs_value, Double.size_eq]
    rfl

/-! ### Rounding -/

/-- A natural nearest to a number, the even one of two that are equally near. -/
structure IsNearest (rounded : ℕ) (value : ℚ) : Prop where
  within : |(rounded : ℚ) - value| ≤ 1 / 2
  even : |(rounded : ℚ) - value| = 1 / 2 → Even rounded

/-- No integer is nearer. -/
theorem IsNearest.least {rounded : ℕ} {value : ℚ} (nearest : IsNearest rounded value) (other : ℤ) :
    |(rounded : ℚ) - value| ≤ |(other : ℚ) - value| := by
  by_cases same : (rounded : ℤ) = other
  · rw [← same, Int.cast_natCast]
  · have apart : (1 : ℚ) ≤ |(other : ℚ) - rounded| := by
      have := Int.one_le_abs (sub_ne_zero.mpr (Ne.symm same))
      exact_mod_cast this
    have around := abs_sub_le (other : ℚ) value rounded
    rw [abs_sub_comm value] at around
    linarith [nearest.within]

/-- **Rounding a quotient gives the nearest integer**, and the even one on a tie. -/
theorem roundEven_nearest (num : ℕ) {den : ℕ} (positive : 0 < den) :
    IsNearest (roundEven num den) (num / den) := by
  have positive' : (0 : ℚ) < den := by exact_mod_cast positive
  -- The quotient is its integer part and a rest between zero and one.
  obtain ⟨rest, rest_eq⟩ : ∃ rest : ℚ, rest = (num % den : ℕ) / den := ⟨_, rfl⟩
  have split : (num / den : ℚ) = (num / den : ℕ) + rest := by
    rw [rest_eq, div_eq_iff positive'.ne', add_mul, div_mul_cancel₀ _ positive'.ne']
    exact_mod_cast (Nat.div_add_mod' num den).symm
  have nonnegative : 0 ≤ rest := by rw [rest_eq]; positivity
  have below_one : rest < 1 := by
    rw [rest_eq, div_lt_one positive']
    exact_mod_cast Nat.mod_lt num positive
  have half_iff : 2 * (num % den) < den ↔ rest < 1 / 2 := by
    rw [rest_eq, div_lt_div_iff₀ positive' two_pos, one_mul, mul_comm]
    exact_mod_cast Iff.rfl
  have half_iff' : den < 2 * (num % den) ↔ 1 / 2 < rest := by
    rw [rest_eq, div_lt_div_iff₀ two_pos positive', one_mul, mul_comm]
    exact_mod_cast Iff.rfl
  unfold roundEven
  rw [split]
  dsimp only
  split_ifs with low high even
  · rw [half_iff] at low
    have error : |((num / den : ℕ) : ℚ) - ((num / den : ℕ) + rest)| = rest := by
      rw [sub_add_cancel_left, abs_neg, abs_of_nonneg nonnegative]
    exact ⟨by rw [error]; exact low.le, fun tie => absurd (error.symm.trans tie) low.ne⟩
  · rw [half_iff'] at high
    have error : |((num / den + 1 : ℕ) : ℚ) - ((num / den : ℕ) + rest)| = 1 - rest := by
      push_cast
      rw [add_sub_add_left_eq_sub, abs_of_pos (by linarith)]
    refine ⟨by rw [error]; linarith, fun tie => ?_⟩
    rw [error] at tie
    linarith
  all_goals
    have half : rest = 1 / 2 := by
      rw [half_iff, not_lt] at low
      rw [half_iff', not_lt] at high
      exact le_antisymm high low
    rw [half]
  · refine ⟨by norm_num, fun _ => Nat.even_iff.mpr even⟩
  · refine ⟨?_, fun _ => ?_⟩
    · push_cast
      norm_num
    · rw [Nat.even_add_one, Nat.even_iff]
      exact even

/-! ### The printed line -/

/-- What the printed line of a double says: after a minus sign exactly if the sign bit is set, the
digits of a number of millionths that is nearest to the exact value. -/
structure ShowsMillionths (bits : UInt64) (line : List Char) (whole places : List Char) : Prop where
  line_eq : line = (if Double.sign bits then ['-'] else []) ++ whole ++ '.' :: places ++ ['\n']
  numeral : IsNumeral whole
  six : Places 6 places
  nearest : IsNearest (valueOf (whole ++ places)) (10 ^ 6 * |Double.value bits|)

/-- The line of what is printed without its sign. -/
theorem printDouble_toList (bits : UInt64) : (printDouble bits).toList =
    (if Double.sign bits then ['-'] else []) ++ (Pattern.ofBits bits).reading.text ++ ['\n'] := by
  obtain ⟨negative, _⟩ := ofBits_fields bits
  unfold printDouble
  rw [String.toList_ofList, negative]
  split <;> rfl

/-- The number of millionths of a magnitude is the one nearest to it. -/
theorem millionths_nearest (magnitude : Magnitude) :
    IsNearest (millionths magnitude) (10 ^ 6 * magnitude.value) := by
  obtain ⟨positive, value⟩ := magnitude.fraction_value
  have nearest := roundEven_nearest (magnitude.fraction.1 * 1000000) positive
  have scaled : ((magnitude.fraction.1 * 1000000 : ℕ) / magnitude.fraction.2 : ℚ)
      = 10 ^ 6 * magnitude.value := by
    rw [← value]
    push_cast
    ring
  rwa [scaled] at nearest

/-- **Doubles are printed correctly rounded.** The line of a finite double shows the multiple of a
millionth that is nearest to its exact value, the even one of two that are equally near, with no
superfluous zero before the point and six digits after it; no other number of millionths is nearer.
Infinities and what is not a number are named. In each case there is a minus sign exactly if the sign bit
is set. -/
theorem printDouble_rounded (bits : UInt64) :
    let sign := if Double.sign bits then ['-'] else []
    let exact_ := 10 ^ 6 * |Double.value bits|
    (Double.IsFinite bits → ∃ whole places,
      ShowsMillionths bits (printDouble bits).toList whole places ∧
      ∀ other : ℤ, |(valueOf (whole ++ places) : ℚ) - exact_| ≤ |(other : ℚ) - exact_|) ∧
    (Double.IsInfinite bits → (printDouble bits).toList = sign ++ ['i', 'n', 'f', '\n']) ∧
    (Double.IsNaN bits → (printDouble bits).toList = sign ++ ['n', 'a', 'n', '\n']) := by
  obtain ⟨_, exponent, fraction⟩ := ofBits_fields bits
  have special (largest : Double.exponent bits = 0x7FF) : (Pattern.ofBits bits).reading =
      if Double.fraction bits = 0 then .infinite else .notANumber := by
    rw [← exponent] at largest
    rw [← fraction]
    exact if_pos largest
  rw [printDouble_toList]
  refine ⟨fun finite => ?_, fun ⟨largest, zero⟩ => ?_, fun ⟨largest, nonzero⟩ => ?_⟩
  · obtain ⟨magnitude, reading, value⟩ := ofBits_finite finite
    obtain ⟨whole, places, text, numeral, six, digits⟩ :=
      fixedPlaces_spec (show 0 < 6 by decide) (millionths magnitude)
    have nearest := millionths_nearest magnitude
    rw [← digits, value] at nearest
    refine ⟨whole, places, ⟨?_, numeral, six, nearest⟩, nearest.least⟩
    rw [reading, Reading.text, text]
    simp only [List.append_assoc]
  · rw [special largest, if_pos zero, List.append_assoc]
    rfl
  · rw [special largest, if_neg nonzero, List.append_assoc]
    rfl

/-- An eighth of a sixteenth is half way between two millionths and goes to the even one; a negative
number that is rounded to zero keeps its sign, and so does what is not a number. -/
theorem printDouble_rounded_tie :
    printDouble 0x3F80000000000000 = "0.007812\n" ∧ printDouble 0x8000000000000001 = "-0.000000\n" ∧
    (∃ whole places, ShowsMillionths 0x3F80000000000000 "0.007812\n".toList whole places) ∧
    (∃ whole places, ShowsMillionths 0x8000000000000001 "-0.000000\n".toList whole places) ∧
    (printDouble 0x7FF0000000000000).toList = ['i', 'n', 'f', '\n'] ∧
    (printDouble 0xFFF8000000000000).toList = ['-', 'n', 'a', 'n', '\n'] := by
  have tie : printDouble 0x3F80000000000000 = "0.007812\n" := by decide +kernel
  have least : printDouble 0x8000000000000001 = "-0.000000\n" := by decide +kernel
  obtain ⟨whole, places, shows_, _⟩ := (printDouble_rounded 0x3F80000000000000).1 (by decide)
  obtain ⟨whole', places', shows', _⟩ := (printDouble_rounded 0x8000000000000001).1 (by decide)
  rw [tie] at shows_
  rw [least] at shows'
  exact ⟨tie, least, ⟨whole, places, shows_⟩, ⟨whole', places', shows'⟩,
    (printDouble_rounded 0x7FF0000000000000).2.1 ⟨by decide, by decide⟩,
    (printDouble_rounded 0xFFF8000000000000).2.2 ⟨by decide, by decide⟩⟩

end CalcBuild.Number

/-
**Whole numbers are printed alike.**

The line of an integer is the one numeral that denotes it. A double that stands for an integer exactly,
with the positive sign for zero, is printed as that numeral and six zeros behind a point. There is one
such double, and only one, for each 64-bit integer that is a power of two times an integer of at most
2 ^ 53; so for each integer of at most 2 ^ 53, and for the least one.

* `Denotes`, `denotes_iff`: the numerals of integers;
* `Double.ofFields`, `Double.ext_fields`: doubles and their fields;
* `Converts`, `Converts.unique`: the double of an integer;
* `IsExact`, `isExact_iff`: the integers that have one;
* `wholes_printed`: the lines that are printed.
-/

import CalcBuild.Proofs.Number.Doubles

namespace CalcBuild.Number

/-! ### Numerals of integers -/

/-- The numerals of integers: digits without a zero in front that could be left out, and with a minus
sign before them those of the negative integers. -/
inductive Denotes : List Char → ℤ → Prop where
  | natural {text : List Char} (numeral : IsNumeral text) : Denotes text (valueOf text)
  | negative {text : List Char} (numeral : IsNumeral text) (nonzero : valueOf text ≠ 0) :
      Denotes ('-' :: text) (-valueOf text)

/-- A digit is the character of its value. -/
theorem eq_digit {c : Char} (isDigit : c.isDigit = true) : c = digit (c.toNat - '0'.toNat) := by
  obtain ⟨low, high⟩ := isDigit_iff.mp isDigit
  have same : 48 + (c.toNat - 48) % 10 = c.toNat := by omega
  show c = Char.ofNat (48 + (c.toNat - 48) % 10)
  rw [same, Char.ofNat_toNat]

/-- **A natural has one numeral.** -/
theorem IsNumeral.eq_digits {text : List Char} (numeral : IsNumeral text) :
    text = Number.digits (valueOf text) := by
  induction text using List.reverseRecOn with
  | nil => exact absurd rfl numeral.nonempty
  | append_singleton front c ih =>
    have isDigit : c.isDigit = true := numeral.digits c (by simp)
    have below : c.toNat - '0'.toNat < 10 := by
      have high := (isDigit_iff.mp isDigit).2
      show c.toNat - 48 < 10
      omega
    have value_eq : valueOf (front ++ [c]) = 10 * valueOf front + (c.toNat - '0'.toNat) := by
      simp [valueOf]
    cases front with
    | nil =>
      rw [value_eq]
      show [c] = Number.digits (10 * 0 + (c.toNat - '0'.toNat))
      rw [Nat.mul_zero, Nat.zero_add, digits_of_lt below, ← eq_digit isDigit]
    | cons first rest =>
      have unpadded : first ≠ '0' := by
        rintro rfl
        have short := numeral.unpadded rfl
        simp at short
      have front_eq := ih
        { digits := fun other member => numeral.digits other (List.mem_append_left _ member)
          nonempty := List.cons_ne_nil _ _
          unpadded := fun zero => absurd (Option.some.inj zero) unpadded }
      have positive : 0 < valueOf (first :: rest) := by
        rw [Nat.pos_iff_ne_zero]
        intro zero
        rw [zero, digits_of_lt (by decide)] at front_eq
        exact unpadded (List.cons.inj front_eq).1
      rw [value_eq, digits_step (by omega)]
      have quotient : (10 * valueOf (first :: rest) + (c.toNat - '0'.toNat)) / 10
          = valueOf (first :: rest) := by
        omega
      have last : digit (10 * valueOf (first :: rest) + (c.toNat - '0'.toNat)) = c := by
        conv_rhs => rw [eq_digit isDigit]
        unfold digit
        rw [Nat.mul_add_mod]
      rw [quotient, ← front_eq, last]

/-- **An integer has one numeral**, and it is the one that is written for it. -/
theorem denotes_iff {text : List Char} {value : ℤ} : Denotes text value ↔ text = (signed value).toList := by
  have written (value : ℤ) : (signed value).toList
      = (if value < 0 then ['-'] else []) ++ digits value.natAbs := by
    unfold signed numeral
    split <;> simp
  rw [written]
  constructor
  · intro denotes
    cases denotes with
    | natural numeral =>
      rw [if_neg (Int.not_lt.mpr (Int.natCast_nonneg _)), Int.natAbs_natCast, List.nil_append]
      exact numeral.eq_digits
    | negative numeral nonzero =>
      rw [if_pos (by omega), Int.natAbs_neg, Int.natAbs_natCast, ← numeral.eq_digits]
      rfl
  · rintro rfl
    by_cases negative : value < 0
    · have denotes := Denotes.negative (isNumeral_digits value.natAbs) (by rw [valueOf_digits]; omega)
      have opposite : -(value.natAbs : ℤ) = value := by omega
      rw [valueOf_digits, opposite] at denotes
      rwa [if_pos negative]
    · have denotes := Denotes.natural (isNumeral_digits value.natAbs)
      rw [valueOf_digits, Int.natAbs_of_nonneg (Int.not_lt.mp negative)] at denotes
      rwa [if_neg negative]

/-! ### The fields of a double -/

namespace Double

/-- The double with these fields. -/
def ofFields (sign : Bool) (exponent fraction : ℕ) : UInt64 :=
  UInt64.ofNat (sign.toNat * 2 ^ 63 + exponent * 2 ^ 52 + fraction)

theorem fields_ofFields (sign : Bool) {exponent fraction : ℕ} (small : exponent < 2 ^ 11)
    (small' : fraction < 2 ^ 52) :
    Double.sign (ofFields sign exponent fraction) = sign ∧
      Double.exponent (ofFields sign exponent fraction) = exponent ∧
      Double.fraction (ofFields sign exponent fraction) = fraction := by
  obtain ⟨negative, exponent_eq, fraction_eq⟩ := ofBits_fields (ofFields sign exponent fraction)
  have bit : sign.toNat ≤ 1 := Bool.toNat_le sign
  have word : (ofFields sign exponent fraction).toNat
      = sign.toNat * 2 ^ 63 + exponent * 2 ^ 52 + fraction := by
    unfold ofFields
    rw [UInt64.toNat_ofNat']
    exact Nat.mod_eq_of_lt (by omega)
  rw [← negative, ← exponent_eq, ← fraction_eq]
  refine ⟨?_, by omega, by omega⟩
  show ((ofFields sign exponent fraction).toNat / 2 ^ 63 % 2 == 1) = sign
  rw [word, show (sign.toNat * 2 ^ 63 + exponent * 2 ^ 52 + fraction) / 2 ^ 63 % 2 = sign.toNat by omega]
  cases sign <;> rfl

/-- **Doubles with the same fields** are the same. -/
theorem ext_fields {bits bits' : UInt64} (sign : Double.sign bits = Double.sign bits')
    (exponent : Double.exponent bits = Double.exponent bits')
    (fraction : Double.fraction bits = Double.fraction bits') : bits = bits' := by
  obtain ⟨negative, exponent_eq, fraction_eq⟩ := ofBits_fields bits
  obtain ⟨negative', exponent_eq', fraction_eq'⟩ := ofBits_fields bits'
  have bound := bits.toNat_lt
  have bound' := bits'.toNat_lt
  have top : (bits.toNat / 2 ^ 63 % 2 == 1) = (bits'.toNat / 2 ^ 63 % 2 == 1) :=
    negative.trans (sign.trans negative'.symm)
  rw [Bool.eq_iff_iff, beq_iff_eq, beq_iff_eq] at top
  rw [← exponent_eq, ← exponent_eq'] at exponent
  rw [← fraction_eq, ← fraction_eq'] at fraction
  apply UInt64.toNat_inj.mp
  omega

theorem size_nonneg (bits : UInt64) : 0 ≤ size bits := by
  rw [size_eq]
  positivity

theorem fraction_lt (bits : UInt64) : fraction bits < 2 ^ 52 := by
  rw [← (ofBits_fields bits).2.2]
  exact Nat.mod_lt _ (by decide)

theorem mantissa_lt (bits : UInt64) : mantissa bits < 2 ^ 53 := by
  have small := fraction_lt bits
  unfold mantissa
  split <;> omega

/-- Of two doubles of one size none has the larger scale: its mantissa has a leading one, and that alone
is more than the other double amounts to. -/
theorem scale_le {bits bits' : UInt64} (same : size bits = size bits') : scale bits' ≤ scale bits := by
  by_contra less
  rw [not_le] at less
  have leading : 2 ^ 52 ≤ mantissa bits' := by
    unfold scale at less
    unfold mantissa
    split at less <;> split at less <;> split <;> omega
  have larger : size bits < size bits' := by
    rw [size_eq, size_eq]
    calc (mantissa bits : ℚ) * 2 ^ scale bits
        < 2 ^ 53 * 2 ^ scale bits := by
          gcongr
          exact_mod_cast mantissa_lt bits
      _ = 2 ^ 52 * 2 ^ (scale bits + 1) := by
          rw [zpow_add_one₀ two_ne_zero]
          ring
      _ ≤ mantissa bits' * 2 ^ scale bits' := by
          gcongr
          · exact_mod_cast leading
          · exact one_le_two
          · exact less
  exact larger.ne same

/-- **The size of a double tells its exponent and its fraction.** -/
theorem fields_of_size {bits bits' : UInt64} (same : size bits = size bits') :
    exponent bits = exponent bits' ∧ fraction bits = fraction bits' := by
  have scales : scale bits = scale bits' := le_antisymm (scale_le same.symm) (scale_le same)
  have mantissas : mantissa bits = mantissa bits' := by
    rw [size_eq, size_eq, scales] at same
    have positive : (0 : ℚ) < 2 ^ scale bits' := by positivity
    exact_mod_cast mul_right_cancel₀ positive.ne' same
  have small := fraction_lt bits
  have small' := fraction_lt bits'
  unfold scale at scales
  unfold mantissa at mantissas
  by_cases subnormal : exponent bits = 0
  · by_cases subnormal' : exponent bits' = 0
    · rw [if_pos subnormal, if_pos subnormal'] at mantissas
      exact ⟨subnormal.trans subnormal'.symm, mantissas⟩
    · -- The mantissa of the other one has a leading one.
      rw [if_pos subnormal, if_neg subnormal'] at mantissas
      omega
  · by_cases subnormal' : exponent bits' = 0
    · rw [if_neg subnormal, if_pos subnormal'] at mantissas
      omega
    · rw [if_neg subnormal, if_neg subnormal'] at scales mantissas
      exact ⟨by omega, by omega⟩

end Double

/-! ### The double of an integer -/

/-- The double that an integer is converted to, if there is one with its exact value; of the two zeros it
is the positive one. -/
structure Converts (value : ℤ) (bits : UInt64) : Prop where
  finite : Double.IsFinite bits
  exact : Double.value bits = value
  zero : value = 0 → Double.sign bits = false

/-- The integers that a double can stand for, if it is not too large: a power of two times an integer of
at most 53 bits, or the next one. -/
def IsExact (value : ℤ) : Prop :=
  ∃ (mantissa : ℤ) (exponent : ℕ), |mantissa| ≤ 2 ^ 53 ∧ value = mantissa * 2 ^ exponent

namespace Converts

variable {value : ℤ} {bits bits' : UInt64}

theorem size_eq (converts : Converts value bits) : Double.size bits = |(value : ℚ)| := by
  rw [← converts.exact, Double.abs_value]

/-- The sign bit is set for the negative integers. -/
theorem sign_iff (converts : Converts value bits) : Double.sign bits = true ↔ value < 0 := by
  have exact_ := converts.exact
  have nonnegative := Double.size_nonneg bits
  unfold Double.value at exact_
  constructor
  · intro set
    rw [if_pos set] at exact_
    have atMost : (value : ℚ) ≤ 0 := by linarith
    refine lt_of_le_of_ne (by exact_mod_cast atMost) fun zero => ?_
    cases set.symm.trans (converts.zero zero)
  · intro negative
    by_contra unset
    rw [if_neg unset] at exact_
    have atLeast : (0 : ℚ) ≤ value := by linarith
    have : 0 ≤ value := by exact_mod_cast atLeast
    omega

/-- **An integer is converted to one double.** -/
theorem unique (converts : Converts value bits) (converts' : Converts value bits') : bits = bits' := by
  obtain ⟨exponent, fraction⟩ := Double.fields_of_size (converts.size_eq.trans converts'.size_eq.symm)
  refine Double.ext_fields ?_ exponent fraction
  rw [Bool.eq_iff_iff, converts.sign_iff, converts'.sign_iff]

/-- A double stands for no other integers. -/
theorem isExact (converts : Converts value bits) : IsExact value := by
  have size := converts.size_eq
  have small := Double.mantissa_lt bits
  rw [Double.size_eq] at size
  by_cases large : 0 ≤ Double.scale bits
  · -- The mantissa counts whole numbers.
    obtain ⟨exponent, scale⟩ := Int.eq_ofNat_of_zero_le large
    rw [scale, zpow_natCast] at size
    have size' : (Double.mantissa bits : ℤ) * 2 ^ exponent = |value| := by exact_mod_cast size
    rcases abs_cases value with ⟨same, _⟩ | ⟨opposite, _⟩
    · exact ⟨Double.mantissa bits, exponent, by rw [Nat.abs_cast]; exact_mod_cast small.le,
        (size'.trans same).symm⟩
    · refine ⟨-Double.mantissa bits, exponent, by rw [abs_neg, Nat.abs_cast]; exact_mod_cast small.le, ?_⟩
      rw [neg_mul, size', opposite, neg_neg]
  · have atMost : |(value : ℚ)| ≤ 2 ^ 53 := by
      rw [← size]
      calc (Double.mantissa bits : ℚ) * 2 ^ Double.scale bits
          ≤ Double.mantissa bits * 1 := by
            gcongr
            exact zpow_le_one_of_nonpos₀ one_le_two (by omega)
        _ ≤ 2 ^ 53 := by
            rw [mul_one]
            exact_mod_cast small.le
    exact ⟨value, 0, by exact_mod_cast atMost, by rw [pow_zero, mul_one]⟩

end Converts

/-- **A power of two times an integer of 53 bits** is one times an integer with a leading one among its 53
bits. -/
theorem exists_leading {size mantissa exponent : ℕ} (positive : 0 < size) (bound : size ≤ 2 ^ 63)
    (small : mantissa ≤ 2 ^ 53) (product : size = mantissa * 2 ^ exponent) :
    ∃ (leading : ℕ) (scale : ℤ), 2 ^ 52 ≤ leading ∧ leading < 2 ^ 53 ∧ -52 ≤ scale ∧ scale ≤ 11 ∧
      (size : ℚ) = leading * 2 ^ scale := by
  obtain ⟨top, top_eq⟩ : ∃ top, top = Nat.log2 size := ⟨_, rfl⟩
  have low : 2 ^ top ≤ size := top_eq ▸ Nat.log2_self_le positive.ne'
  have high : size < 2 ^ (top + 1) := top_eq ▸ Nat.lt_log2_self
  have top_le : top ≤ 63 := by
    by_contra more
    have := Nat.pow_le_pow_right two_pos (Nat.lt_of_not_le more)
    omega
  by_cases few : top ≤ 52
  · obtain ⟨missing, missing_eq⟩ : ∃ missing, missing + top = 52 := ⟨52 - top, by omega⟩
    refine ⟨size * 2 ^ missing, -missing, ?_, ?_, by omega, by omega, ?_⟩
    · calc 2 ^ 52 = 2 ^ top * 2 ^ missing := by rw [← pow_add, Nat.add_comm, missing_eq]
        _ ≤ size * 2 ^ missing := Nat.mul_le_mul_right _ low
    · calc size * 2 ^ missing < 2 ^ (top + 1) * 2 ^ missing :=
            Nat.mul_lt_mul_of_pos_right high (Nat.two_pow_pos _)
        _ = 2 ^ 53 := by
            rw [← pow_add]
            congr 1
            omega
    · push_cast
      rw [zpow_neg, zpow_natCast, mul_assoc, mul_inv_cancel₀ (pow_ne_zero _ two_ne_zero), mul_one]
  · obtain ⟨spare, rfl⟩ : ∃ spare, top = 52 + spare := ⟨top - 52, by omega⟩
    have divides : 2 ^ spare ∣ size := by
      by_cases covered : spare ≤ exponent
      · rw [product]
        exact Dvd.dvd.mul_left (pow_dvd_pow 2 covered) mantissa
      · -- Then the mantissa is the next integer after those of 53 bits.
        have atMost : size ≤ 2 ^ (52 + spare) := by
          calc size = mantissa * 2 ^ exponent := product
            _ ≤ 2 ^ 53 * 2 ^ exponent := Nat.mul_le_mul_right _ small
            _ = 2 ^ (53 + exponent) := (pow_add _ _ _).symm
            _ ≤ 2 ^ (52 + spare) := Nat.pow_le_pow_right two_pos (by omega)
        rw [le_antisymm atMost low]
        exact pow_dvd_pow 2 (Nat.le_add_left _ _)
    obtain ⟨leading, rfl⟩ := divides
    have unit : 0 < 2 ^ spare := Nat.two_pow_pos _
    refine ⟨leading, spare, ?_, ?_, by omega, by omega, ?_⟩
    · rw [pow_add, Nat.mul_comm] at low
      exact Nat.le_of_mul_le_mul_left low unit
    · rw [show 52 + spare + 1 = spare + 53 by omega, pow_add] at high
      exact Nat.lt_of_mul_lt_mul_left high
    · push_cast
      rw [zpow_natCast, mul_comm]

/-- **The integers that have a double**, as long as they are no larger than the least 64-bit integer. -/
theorem isExact_iff {value : ℤ} (bound : |value| ≤ 2 ^ 63) :
    IsExact value ↔ ∃! bits, Converts value bits := by
  refine ⟨fun exact_ => ?_, fun ⟨bits, converts, _⟩ => converts.isExact⟩
  suffices some_ : ∃ bits, Converts value bits by
    obtain ⟨bits, converts⟩ := some_
    exact ⟨bits, converts, fun other converts' => converts'.unique converts⟩
  by_cases zero : value = 0
  · refine ⟨0, by decide, ?_, fun _ => by decide⟩
    rw [zero, Double.value, Double.size_eq]
    simp [show Double.sign 0 = false by decide, show Double.mantissa 0 = 0 by decide]
  · obtain ⟨mantissa, exponent, small, product⟩ := exact_
    have size_eq : value.natAbs = mantissa.natAbs * 2 ^ exponent := by
      rw [product, Int.natAbs_mul, Int.natAbs_pow]
      rfl
    rw [Int.abs_eq_natAbs] at bound small
    obtain ⟨leading, scale, atLeast, below, low, high, size⟩ :=
      exists_leading (Int.natAbs_pos.mpr zero) (by exact_mod_cast bound) (by exact_mod_cast small) size_eq
    have exponent_lt : (scale + 1075).toNat < 2 ^ 11 := by omega
    have fraction_lt : leading - 2 ^ 52 < 2 ^ 52 := by omega
    obtain ⟨sign, exponent_eq, fraction_eq⟩ :=
      Double.fields_ofFields (decide (value < 0)) exponent_lt fraction_lt
    generalize Double.ofFields (decide (value < 0)) (scale + 1075).toNat (leading - 2 ^ 52) = bits
      at sign exponent_eq fraction_eq
    have normal : Double.exponent bits ≠ 0 := by omega
    have size_bits : Double.size bits = |(value : ℚ)| := by
      have scale_bits : Double.scale bits = scale := by
        unfold Double.scale
        rw [if_neg normal]
        omega
      have mantissa_bits : Double.mantissa bits = leading := by
        unfold Double.mantissa
        rw [if_neg normal]
        omega
      rw [Double.size_eq, scale_bits, mantissa_bits, ← size, Nat.cast_natAbs, Int.cast_abs]
    refine ⟨bits, ?_, ?_, fun same => absurd same zero⟩
    · show Double.exponent bits ≠ 0x7FF
      omega
    · unfold Double.value
      rw [sign, size_bits]
      by_cases negative : value < 0
      · have negative' : (value : ℚ) < 0 := by exact_mod_cast negative
        rw [decide_eq_true negative, if_pos rfl, abs_of_neg negative', neg_neg]
      · have nonnegative : (0 : ℚ) ≤ value := by exact_mod_cast Int.not_lt.mp negative
        rw [decide_eq_false negative, if_neg Bool.false_ne_true, abs_of_nonneg nonnegative]

/-! ### The printed lines -/

/-- The integer that is nearest to a natural is that natural. -/
theorem IsNearest.eq {rounded count : ℕ} (nearest : IsNearest rounded (count : ℚ)) : rounded = count := by
  have apart : |(rounded : ℚ) - count| < 1 := nearest.within.trans_lt one_half_lt_one
  have apart' : |(rounded : ℤ) - count| < 1 := by exact_mod_cast apart
  rw [Int.abs_lt_one_iff] at apart'
  omega

/-- A whole number has a million millionths for each one. -/
theorem millionths_whole {magnitude : Magnitude} {size : ℕ} (whole : magnitude.value = size) :
    millionths magnitude = 10 ^ 6 * size := by
  have nearest := millionths_nearest magnitude
  have scaled : (10 : ℚ) ^ 6 * size = (10 ^ 6 * size : ℕ) := by norm_num
  rw [whole, scaled] at nearest
  exact nearest.eq

/-- Whole numbers have six zeros behind the point. -/
theorem fixedPlaces_whole (size : ℕ) :
    fixedPlaces 6 (10 ^ 6 * size) = digits size ++ ".000000".toList := by
  show digits (10 ^ 6 * size / 10 ^ 6) ++ '.' :: padded 6 (10 ^ 6 * size % 10 ^ 6) = _
  have zeros : padded 6 0 = List.replicate 6 '0' := by
    show List.replicate (6 - (digits 0).length) '0' ++ digits 0 = _
    rw [digits_of_lt (by decide)]
    rfl
  rw [Nat.mul_div_cancel_left size (by decide), Nat.mul_mod_right, zeros]
  rfl

/-- **A whole number is printed as its numeral** and six zeros behind a point. -/
theorem printDouble_whole {value : ℤ} {bits : UInt64} (converts : Converts value bits) :
    printDouble bits = signed value ++ ".000000\n" := by
  obtain ⟨magnitude, reading, size⟩ := ofBits_finite converts.finite
  rw [converts.exact, ← Int.cast_abs, ← Nat.cast_natAbs] at size
  apply String.toList_inj.mp
  rw [printDouble_toList, reading, Reading.text, millionths_whole size, fixedPlaces_whole]
  unfold signed numeral
  by_cases negative : value < 0
  · rw [if_pos (converts.sign_iff.mpr negative), if_pos negative]
    simp
  · rw [if_neg (mt converts.sign_iff.mp negative), if_neg negative]
    simp

/-- **Whole numbers are printed alike.** The line of an integer is the one numeral that denotes it. An
integer is converted to a double exactly if it is a power of two times an integer of at most 2 ^ 53, and
then to one double only; the line of this double is that numeral, with a point and six zeros behind it.
-/
theorem wholes_printed (value : Int64) :
    (∀ text, Denotes text value.toInt ↔ (printInteger value).toList = text ++ ['\n']) ∧
    (IsExact value.toInt ↔ ∃! bits, Converts value.toInt bits) ∧
    (∀ bits, Converts value.toInt bits → ∃ text,
      printInteger value = text ++ "\n" ∧ printDouble bits = text ++ ".000000" ++ "\n") := by
  refine ⟨fun text => ?_, isExact_iff ?_, fun bits converts => ⟨signed value.toInt, rfl, ?_⟩⟩
  · rw [denotes_iff]
    show text = _ ↔ (signed value.toInt ++ "\n").toList = text ++ ['\n']
    rw [String.toList_append]
    exact ⟨fun same => by rw [same]; rfl, fun same => (List.append_cancel_right same).symm⟩
  · have low := value.le_toInt
    have high := value.toInt_lt
    rw [abs_le]
    omega
  · rw [printDouble_whole converts, String.append_assoc]
    rfl

/-- The least integer, and the first integer beyond 2 ^ 53 that has a double. -/
theorem wholes_printed_least :
    (∃! bits, Converts Int64.minValue.toInt bits) ∧
    Converts Int64.minValue.toInt 0xC3E0000000000000 ∧
    printDouble 0xC3E0000000000000 = "-9223372036854775808.000000\n" ∧
    Converts (Int64.toInt 9007199254740994) 0x4340000000000001 ∧
    printDouble 0x4340000000000001 = "9007199254740994.000000\n" := by
  have least : Converts Int64.minValue.toInt 0xC3E0000000000000 := by
    refine ⟨by decide, ?_, by decide⟩
    rw [Double.value, if_pos (show Double.sign 0xC3E0000000000000 = true by decide), Double.size_eq,
      show Double.mantissa 0xC3E0000000000000 = 2 ^ 52 by decide,
      show Double.scale 0xC3E0000000000000 = 11 by decide, Int64.toInt_minValue]
    norm_num
  have next : Converts (Int64.toInt 9007199254740994) 0x4340000000000001 := by
    refine ⟨by decide, ?_, by decide⟩
    rw [Double.value, if_neg (show ¬ Double.sign 0x4340000000000001 = true by decide), Double.size_eq,
      show Double.mantissa 0x4340000000000001 = 2 ^ 52 + 1 by decide,
      show Double.scale 0x4340000000000001 = 1 by decide,
      show Int64.toInt 9007199254740994 = 9007199254740994 by decide]
    norm_num
  obtain ⟨denotes, exact_, printed⟩ := wholes_printed Int64.minValue
  obtain ⟨denotes', _, printed'⟩ := wholes_printed 9007199254740994
  have numeral : Denotes "-9223372036854775808".toList Int64.minValue.toInt := by
    have digits : IsNumeral "9223372036854775808".toList := ⟨List.all_eq_true.mp (by decide), by decide, by decide⟩
    rw [Int64.toInt_minValue]
    exact .negative digits (by decide +kernel)
  have numeral' : Denotes "9007199254740994".toList (Int64.toInt 9007199254740994) := by
    have digits : IsNumeral "9007199254740994".toList := ⟨List.all_eq_true.mp (by decide), by decide, by decide⟩
    exact .natural digits
  obtain ⟨text, line, double⟩ := printed _ least
  obtain ⟨text', line', double'⟩ := printed' _ next
  refine ⟨exact_.mp ⟨-2 ^ 53, 10, ?_, ?_⟩, least, ?_, next, ?_⟩
  · norm_num
  · rw [Int64.toInt_minValue]
    norm_num
  · have same := (denotes _).mp numeral
    rw [line, String.toList_append] at same
    rw [double, String.toList_inj.mp (List.append_cancel_right same)]
    rfl
  · have same := (denotes' _).mp numeral'
    rw [line', String.toList_append] at same
    rw [double', String.toList_inj.mp (List.append_cancel_right same)]
    rfl

end CalcBuild.Number

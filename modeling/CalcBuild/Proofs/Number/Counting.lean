/-
**Numerals that are read.**

A number that is given is a text of digits, with any number of zeros in front and perhaps a plus sign
before them. Reading gives the number that the digits denote, if it is no larger than the limit, and
refuses every other text. That the digits are looked at one after the other does not matter, as what has
been read of a numeral is never more than all of it.

* `Counts`, `CountsBare`: what a text says, and what one says that has no plus sign;
* `digitValue?_eq_some_iff`: the bytes of digits;
* `readDigits_eq_ok_iff`, `readNumeral_eq_ok_iff`: what is read.
-/

import CalcBuild.Number.Reading
import CalcBuild.Proofs.Number.Numerals
import CalcBuild.Proofs.Text.Spelling

namespace CalcBuild.Number

open Text.Utf8

/-- The texts that say how many: digits, perhaps after a plus sign. -/
inductive Counts : Bytes → Nat → Prop where
  | bare {digits : List Char} (all_digits : ∀ c ∈ digits, c.isDigit = true) (nonempty : digits ≠ []) :
      Counts (encode digits) (valueOf digits)
  | plus {digits : List Char} (all_digits : ∀ c ∈ digits, c.isDigit = true) (nonempty : digits ≠ []) :
      Counts (encode ('+' :: digits)) (valueOf digits)

/-! ### Digits -/

/-- **A byte has a value if it is a digit.** -/
theorem digitValue?_eq_some_iff {byte : UInt8} {value : Nat} :
    digitValue? byte = some value ↔ ∃ c : Char, c.isDigit = true ∧
      String.utf8EncodeChar c = [byte] ∧ c.toNat - '0'.toNat = value := by
  have valued : digitValue? byte = some value ↔
      48 ≤ byte.toNat ∧ byte.toNat ≤ 57 ∧ byte.toNat - 48 = value := by
    unfold digitValue?
    simp [UInt8.le_iff_toNat_le, and_assoc]
  rw [valued]
  constructor
  · rintro ⟨low, high, rfl⟩
    have spells : Spells [byte] byte.toNat := .one (by omega)
    have number := spells.toNat_ofNat
    rw [← number] at spells
    refine ⟨Char.ofNat byte.toNat, isDigit_iff.mpr (by omega), spells.eq_encode.symm, ?_⟩
    rw [number]
    rfl
  · rintro ⟨c, isDigit, bytes, rfl⟩
    have spells := spells_encode c
    rw [bytes] at spells
    generalize number : c.toNat = value at spells
    cases spells with
    | one =>
      obtain ⟨low, high⟩ := isDigit_iff.mp isDigit
      exact ⟨by omega, by omega, rfl⟩

/-- The first byte of digits is that of the first digit. -/
theorem encode_eq_cons_iff {digits : List Char} (all_digits : ∀ c ∈ digits, c.isDigit = true)
    {byte : UInt8} {rest : Bytes} : encode digits = byte :: rest ↔ ∃ c others,
      digits = c :: others ∧ String.utf8EncodeChar c = [byte] ∧ encode others = rest := by
  cases digits with
  | nil => simp [encode]
  | cons c others =>
    obtain ⟨low, high⟩ := isDigit_iff.mp (all_digits c List.mem_cons_self)
    have single : String.utf8EncodeChar c = [UInt8.ofNat c.toNat] := by
      unfold String.utf8EncodeChar
      exact if_pos (show c.toNat ≤ 127 by omega)
    have split : encode (c :: others) = UInt8.ofNat c.toNat :: encode others := by
      show String.utf8EncodeChar c ++ encode others = _
      rw [single]
      rfl
    rw [split, List.cons.injEq]
    constructor
    · rintro ⟨rfl, rfl⟩
      exact ⟨c, others, rfl, single, rfl⟩
    · rintro ⟨_, _, ⟨⟩, bytes, rfl⟩
      rw [single] at bytes
      exact ⟨(List.cons.inj bytes).1, rfl⟩

theorem encode_eq_nil_iff {digits : List Char} (all_digits : ∀ c ∈ digits, c.isDigit = true) :
    encode digits = [] ↔ digits = [] := by
  refine ⟨fun nothing => ?_, fun nothing => by rw [nothing]; rfl⟩
  cases digits with
  | nil => rfl
  | cons c others =>
    cases bytes : String.utf8EncodeChar c with
    | nil =>
      have spells := spells_encode c
      rw [bytes] at spells
      cases spells
    | cons byte more =>
      change String.utf8EncodeChar c ++ encode others = [] at nothing
      rw [bytes] at nothing
      cases nothing

/-! ### Reading -/

theorem valueOf_cons (c : Char) (others : List Char) :
    valueOf (c :: others) = (c.toNat - '0'.toNat) * 10 ^ others.length + valueOf others := by
  have first : valueOf [c] = c.toNat - '0'.toNat := by simp [valueOf]
  rw [← List.singleton_append, valueOf_append, first]

/-- **Digits are read after others** whose value is given: the text is one of digits, and what they
denote behind the others is no larger than the limit. -/
theorem readDigits_eq_ok_iff {limit value result : Nat} {text : Bytes} (small : value ≤ limit) :
    readDigits limit value text = .ok result ↔ ∃ digits : List Char, encode digits = text ∧
      (∀ c ∈ digits, c.isDigit = true) ∧ result = value * 10 ^ digits.length + valueOf digits ∧
        result ≤ limit := by
  induction text generalizing value with
  | nil =>
    show Except.ok value = Except.ok result ↔ _
    constructor
    · rintro ⟨⟩
      exact ⟨[], rfl, List.forall_mem_nil _, by simp [valueOf], small⟩
    · rintro ⟨digits, nothing, all_digits, rfl, _⟩
      obtain rfl := (encode_eq_nil_iff all_digits).mp nothing
      simp [valueOf]
  | cons byte rest ih =>
    unfold readDigits
    cases digit : digitValue? byte with
    | none =>
      refine iff_of_false (by rintro ⟨⟩) ?_
      rintro ⟨digits, bytes, all_digits, _⟩
      obtain ⟨c, others, rfl, single, _⟩ := (encode_eq_cons_iff all_digits).mp bytes
      have valued := digitValue?_eq_some_iff.mpr ⟨c, all_digits c List.mem_cons_self, single, rfl⟩
      rw [digit] at valued
      cases valued
    | some found =>
      -- what has been read with this digit, and all that follow it
      have grown {c : Char} {others : List Char} (valued : c.toNat - '0'.toNat = found) :
          value * 10 ^ (c :: others).length + valueOf (c :: others)
            = (value * 10 + found) * 10 ^ others.length + valueOf others := by
        rw [valueOf_cons, valued, List.length_cons, pow_succ]
        ring
      have first {c : Char} (single : String.utf8EncodeChar c = [byte]) (isDigit : c.isDigit = true) :
          c.toNat - '0'.toNat = found := by
        have valued := digitValue?_eq_some_iff.mpr ⟨c, isDigit, single, rfl⟩
        rw [digit] at valued
        exact (Option.some.inj valued).symm
      dsimp only
      split
      · refine iff_of_false (by rintro ⟨⟩) ?_
        rintro ⟨digits, bytes, all_digits, rfl, fits⟩
        obtain ⟨c, others, rfl, single, _⟩ := (encode_eq_cons_iff all_digits).mp bytes
        rw [grown (first single (all_digits c List.mem_cons_self))] at fits
        have atLeast := Nat.le_mul_of_pos_right (value * 10 + found) (Nat.pow_pos (n := others.length)
          (show 0 < 10 by decide))
        omega
      · rw [ih (by omega)]
        constructor
        · rintro ⟨others, rfl, all_digits, rfl, fits⟩
          obtain ⟨c, isDigit, single, valued⟩ := digitValue?_eq_some_iff.mp digit
          refine ⟨c :: others, ?_, List.forall_mem_cons.mpr ⟨isDigit, all_digits⟩,
            (grown valued).symm, fits⟩
          show String.utf8EncodeChar c ++ encode others = _
          rw [single]
          rfl
        · rintro ⟨digits, bytes, all_digits, rfl, fits⟩
          obtain ⟨c, others, rfl, single, tail⟩ := (encode_eq_cons_iff all_digits).mp bytes
          have valued := first single (all_digits c List.mem_cons_self)
          exact ⟨others, tail, fun other member => all_digits other (List.mem_cons_of_mem _ member),
            grown valued, grown valued ▸ fits⟩

/-- What is said is text. -/
theorem Counts.exists_encode {text : Bytes} {value : Nat} (counts : Counts text value) :
    ∃ chars : List Char, text = encode chars := by
  cases counts with
  | bare => exact ⟨_, rfl⟩
  | plus => exact ⟨_, rfl⟩

/-- The texts that say how many without a plus sign. -/
def CountsBare (text : Bytes) (value : Nat) : Prop :=
  ∃ digits : List Char, (∀ c ∈ digits, c.isDigit = true) ∧ digits ≠ [] ∧ value = valueOf digits ∧
    encode digits = text

/-- The two ways to say a number. -/
theorem counts_iff {text : Bytes} {value : Nat} :
    Counts text value ↔ CountsBare text value ∨ ∃ rest, text = plus :: rest ∧ CountsBare rest value := by
  constructor
  · intro counts
    cases counts with
    | bare all_digits nonempty => exact .inl ⟨_, all_digits, nonempty, rfl, rfl⟩
    | plus all_digits nonempty => exact .inr ⟨_, rfl, _, all_digits, nonempty, rfl, rfl⟩
  · rintro (⟨digits, all_digits, nonempty, rfl, rfl⟩ | ⟨_, rfl, digits, all_digits, nonempty, rfl, rfl⟩)
    · exact .bare all_digits nonempty
    · exact .plus all_digits nonempty

/-- Such a text begins with the byte of a digit, which a plus sign is not. -/
theorem CountsBare.begins {text : Bytes} {value : Nat} (counts : CountsBare text value) :
    ∃ byte rest, text = byte :: rest ∧ byte ≠ plus := by
  obtain ⟨digits, all_digits, nonempty, _, rfl⟩ := counts
  cases bytes : encode digits with
  | nil => exact absurd ((encode_eq_nil_iff all_digits).mp bytes) nonempty
  | cons byte rest =>
    obtain ⟨c, others, rfl, single, _⟩ := (encode_eq_cons_iff all_digits).mp bytes
    refine ⟨byte, rest, rfl, ?_⟩
    rintro rfl
    cases digitValue?_eq_some_iff.mpr ⟨c, all_digits c List.mem_cons_self, single, rfl⟩

/-- Digits that are read from the start say how many. -/
theorem readDigits_start_iff {limit value : Nat} {text : Bytes} (nonempty : text ≠ []) :
    readDigits limit 0 text = .ok value ↔ CountsBare text value ∧ value ≤ limit := by
  rw [readDigits_eq_ok_iff (Nat.zero_le _)]
  simp only [Nat.zero_mul, Nat.zero_add]
  constructor
  · rintro ⟨digits, rfl, all_digits, value_eq, fits⟩
    exact ⟨⟨digits, all_digits, fun nothing => nonempty (by rw [nothing]; rfl), value_eq, rfl⟩, fits⟩
  · rintro ⟨⟨digits, all_digits, _, value_eq, bytes_eq⟩, fits⟩
    exact ⟨digits, bytes_eq, all_digits, value_eq, fits⟩

/-- **A numeral is read if it is one**, and what it says is no larger than the limit. -/
theorem readNumeral_eq_ok_iff {limit value : Nat} {text : Bytes} :
    readNumeral limit text = .ok value ↔ Counts text value ∧ value ≤ limit := by
  have nothing : ¬ CountsBare [] value := fun bare => by
    obtain ⟨_, _, other, _⟩ := bare.begins
    cases other
  rw [counts_iff]
  match text with
  | [] =>
    refine iff_of_false nofun ?_
    rintro ⟨bare | ⟨_, other, _⟩, _⟩
    · exact nothing bare
    · cases other
  | [byte] =>
    -- A plus sign alone says nothing.
    have unsigned : ¬ ∃ rest, [byte] = plus :: rest ∧ CountsBare rest value := by
      rintro ⟨rest, same, bare⟩
      cases same
      exact nothing bare
    rw [show readNumeral limit [byte] = readDigits limit 0 [byte] from rfl,
      readDigits_start_iff (List.cons_ne_nil _ _), or_iff_left unsigned]
  | byte :: next :: more =>
    by_cases sign : byte = plus
    · have signed : ¬ CountsBare (plus :: next :: more) value := fun bare => by
        obtain ⟨_, _, same, other⟩ := bare.begins
        exact other (List.cons.inj same).1.symm
      rw [sign, show readNumeral limit (plus :: next :: more) = readDigits limit 0 (next :: more) from rfl,
        readDigits_start_iff (List.cons_ne_nil _ _), or_iff_right signed]
      simp
    · have unsigned : ¬ ∃ rest, byte :: next :: more = plus :: rest ∧ CountsBare rest value :=
        fun ⟨_, same, _⟩ => sign (List.cons.inj same).1
      have bare : readNumeral limit (byte :: next :: more) = readDigits limit 0 (byte :: next :: more) := by
        show readDigits limit 0 (if byte = plus then _ else _) = _
        rw [if_neg sign]
      rw [bare, readDigits_start_iff (List.cons_ne_nil _ _), or_iff_left unsigned]

end CalcBuild.Number

/-
**Characters that are read back.**

The bytes of a character are read as that character wherever a character may begin. So the bytes of a
list of characters are cut into these characters, and none of the pieces is broken.

* `lead_one`, `lead_two`, `lead_three`, `lead_four`: the first byte of a character;
* `Scan.step_more`, `Scan.step_last`: the bytes after it;
* `Scan.step_char`: reading the bytes of one character;
* `pieces_encode`, `lossyChars_encode`: reading the bytes of a list of characters.
-/

import CalcBuild.Text.Utf8

namespace CalcBuild.Text.Utf8

/-! ### Bytes -/

theorem toNat_byte {value : Nat} (bound : value < 256) : (UInt8.ofNat value).toNat = value := by
  rw [UInt8.toNat_ofNat']
  exact Nat.mod_eq_of_lt bound

theorem lead_one {value : Nat} (high : value < 0x80) :
    lead (UInt8.ofNat value) = .whole (Char.ofNat value) := by
  have byte := toNat_byte (show value < 256 by omega)
  simp only [lead, UInt8.lt_iff_toNat_lt, UInt8.reduceToNat, byte]
  rw [if_pos high]

theorem lead_two {top : Nat} (low : 2 ≤ top) (high : top < 32) :
    lead (UInt8.ofNat (top + 0xC0)) = .opens ⟨[UInt8.ofNat (top + 0xC0)], top, 1, 0x80, 0xBF⟩ := by
  have byte := toNat_byte (show top + 0xC0 < 256 by omega)
  simp only [lead, UInt8.lt_iff_toNat_lt, UInt8.reduceToNat, byte, Nat.add_sub_cancel]
  rw [if_neg (by omega), if_neg (by omega), if_pos (by omega)]

/-- The ranges of the second byte exclude what two bytes spell, and surrogates. -/
theorem lead_three {top : Nat} (high : top < 16) :
    lead (UInt8.ofNat (top + 0xE0)) = .opens ⟨[UInt8.ofNat (top + 0xE0)], top, 2,
      if top = 0 then 0xA0 else 0x80, if top = 13 then 0x9F else 0xBF⟩ := by
  have byte := toNat_byte (show top + 0xE0 < 256 by omega)
  simp only [lead, UInt8.lt_iff_toNat_lt, ← UInt8.toNat_inj, UInt8.reduceToNat, byte,
    Nat.add_sub_cancel]
  rw [if_neg (by omega), if_neg (by omega), if_neg (by omega)]
  by_cases least : top = 0
  · simp [least]
  · by_cases surrogate : top = 13
    · simp [surrogate]
    · rw [if_neg (by omega), if_neg (by omega), if_pos (by omega), if_neg least, if_neg surrogate]

/-- The ranges of the second byte exclude what three bytes spell, and values above U+10FFFF. -/
theorem lead_four {top : Nat} (high : top < 5) :
    lead (UInt8.ofNat (top + 0xF0)) = .opens ⟨[UInt8.ofNat (top + 0xF0)], top, 3,
      if top = 0 then 0x90 else 0x80, if top = 4 then 0x8F else 0xBF⟩ := by
  have byte := toNat_byte (show top + 0xF0 < 256 by omega)
  simp only [lead, UInt8.lt_iff_toNat_lt, ← UInt8.toNat_inj, UInt8.reduceToNat, byte,
    Nat.add_sub_cancel]
  rw [if_neg (by omega), if_neg (by omega), if_neg (by omega), if_neg (by omega), if_neg (by omega),
    if_neg (by omega)]
  by_cases least : top = 0
  · simp [least]
  · by_cases greatest : top = 4
    · simp [greatest]
    · rw [if_neg (by omega), if_pos (by omega), if_neg least, if_neg greatest]

namespace Scan

variable {done : List Piece} {part : Partial} {byte : UInt8}

theorem step_whole {c : Char} (whole : lead byte = .whole c) :
    step ⟨done, none⟩ byte = ⟨.char c :: done, none⟩ := by
  simp only [step, start, whole]

theorem step_opens (opens : lead byte = .opens part) :
    step ⟨done, none⟩ byte = ⟨done, some part⟩ := by
  simp only [step, start, opens]

variable {seen : Bytes} {value owed rest : Nat} {low high : UInt8}

/-- A byte that follows adds six bits to the character that is being read. -/
theorem step_more (bound : rest < 64) (above : low.toNat ≤ rest + 128)
    (below : rest + 128 ≤ high.toNat) :
    step ⟨done, some ⟨seen, value, owed + 2, low, high⟩⟩ (UInt8.ofNat (rest + 128))
      = ⟨done, some ⟨UInt8.ofNat (rest + 128) :: seen, value * 64 + rest, owed + 1, 0x80, 0xBF⟩⟩ := by
  have byte := toNat_byte (show rest + 128 < 256 by omega)
  have inRange : low ≤ UInt8.ofNat (rest + 128) ∧ UInt8.ofNat (rest + 128) ≤ high := by
    rw [UInt8.le_iff_toNat_le, UInt8.le_iff_toNat_le, byte]
    exact ⟨above, below⟩
  simp only [step, if_pos inRange, byte, Nat.add_sub_cancel]
  rw [if_neg (by omega)]
  rfl

/-- The last byte completes the character. -/
theorem step_last (bound : rest < 64) :
    step ⟨done, some ⟨seen, value, 1, 0x80, 0xBF⟩⟩ (UInt8.ofNat (rest + 128))
      = ⟨.char (Char.ofNat (value * 64 + rest)) :: done, none⟩ := by
  have byte := toNat_byte (show rest + 128 < 256 by omega)
  have inRange : 0x80 ≤ UInt8.ofNat (rest + 128) ∧ UInt8.ofNat (rest + 128) ≤ 0xBF := by
    rw [UInt8.le_iff_toNat_le, UInt8.le_iff_toNat_le, byte]
    simp only [UInt8.reduceToNat]
    omega
  simp only [step, if_pos inRange, byte, Nat.add_sub_cancel]
  rw [if_pos (Nat.le_refl 1)]

/-! ### Characters -/

/-- **The bytes of a character are read as that character** where one may begin. -/
theorem step_char (done : List Piece) (c : Char) :
    (String.utf8EncodeChar c).foldl step ⟨done, none⟩ = ⟨.char c :: done, none⟩ := by
  have scalar : c.val.toNat < 0xD800 ∨ 0xDFFF < c.val.toNat ∧ c.val.toNat < 0x110000 := c.valid
  have spelled : Char.ofNat c.val.toNat = c := Char.ofNat_toNat c
  unfold String.utf8EncodeChar
  generalize c.val.toNat = value at scalar spelled
  by_cases one : value ≤ 0x7F
  · simp only [one, if_true, List.foldl_cons, List.foldl_nil]
    rw [step_whole (lead_one (by omega)), spelled]
  by_cases two : value ≤ 0x7FF
  · have whole : value / 64 % 32 * 64 + value % 64 = value := by omega
    simp only [one, two, if_true, if_false, List.foldl_cons, List.foldl_nil]
    rw [step_opens (lead_two (by omega) (by omega)), step_last (by omega), whole, spelled]
  by_cases three : value ≤ 0xFFFF
  · have whole : (value / 4096 % 16 * 64 + value / 64 % 64) * 64 + value % 64 = value := by omega
    simp only [one, two, three, if_true, if_false, List.foldl_cons, List.foldl_nil]
    rw [step_opens (lead_three (by omega)), step_more (by omega)
      (by split <;> simp only [UInt8.reduceToNat] <;> omega)
      (by split <;> simp only [UInt8.reduceToNat] <;> omega), step_last (by omega), whole, spelled]
  · have whole : ((value / 262144 % 8 * 64 + value / 4096 % 64) * 64 + value / 64 % 64) * 64
        + value % 64 = value := by
      omega
    simp only [one, two, three, if_false, List.foldl_cons, List.foldl_nil]
    rw [step_opens (lead_four (by omega)), step_more (by omega)
      (by split <;> simp only [UInt8.reduceToNat] <;> omega)
      (by split <;> simp only [UInt8.reduceToNat] <;> omega), step_more (by omega)
      (by simp only [UInt8.reduceToNat]; omega) (by simp only [UInt8.reduceToNat]; omega),
      step_last (by omega), whole, spelled]

theorem step_encode (done : List Piece) (chars : List Char) :
    (encode chars).foldl step ⟨done, none⟩ = ⟨(chars.map Piece.char).reverse ++ done, none⟩ := by
  induction chars generalizing done with
  | nil => rfl
  | cons c chars ih =>
    have split : encode (c :: chars) = String.utf8EncodeChar c ++ encode chars := List.flatMap_cons
    rw [split, List.foldl_append, step_char, ih]
    simp

end Scan

/-- **The bytes of a list of characters are cut into these characters.** -/
theorem pieces_encode (chars : List Char) : pieces (encode chars) = chars.map Piece.char := by
  unfold pieces
  rw [Scan.step_encode]
  simp [Scan.finish]

/-- What is shown for the bytes of a list of characters is that list. -/
theorem lossyChars_encode (chars : List Char) : lossyChars (encode chars) = chars := by
  unfold lossyChars
  rw [pieces_encode, List.map_map]
  exact List.map_id chars

end CalcBuild.Text.Utf8

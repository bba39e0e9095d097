/-
**Well-formed text.**

Which bytes spell a character is told by arithmetic alone: the first byte tells by its mark how many
bytes follow and holds the highest bits, and each byte that follows holds six more. The value has to be
one that fewer bytes cannot spell, and the number of a character: no surrogate, and none above the
greatest. Bytes that spell characters one after the other are well-formed text.

* `Spells`, `WellFormed`: these bytes, and what they spell;
* `wellFormed_iff`: they are the bytes of the characters;
* `Partial.Promises`: what has been read of a character, with any bytes that the scan still admits,
  spells one;
* `pieces_bytes`: the pieces of a byte string hold its bytes;
* `decode?_eq_some_iff`: what is decoded is well-formed text, and nothing else.
-/

import CalcBuild.Proofs.Text.Decoding
import Mathlib

namespace CalcBuild.Text.Utf8

/-! ### Spelling -/

/-- A byte that continues a character. -/
def IsTrail (byte : UInt8) : Prop := 0x80 ≤ byte.toNat ∧ byte.toNat < 0xC0

/-- The bytes that spell a value. -/
inductive Spells : Bytes → Nat → Prop where
  | one {first : UInt8} (mark : first.toNat < 0x80) : Spells [first] first.toNat
  | two {first second : UInt8} {value : Nat} (mark : 0xC0 ≤ first.toNat ∧ first.toNat < 0xE0)
      (trail : IsTrail second)
      (value_eq : value = (first.toNat - 0xC0) * 0x40 + (second.toNat - 0x80))
      (shortest : 0x80 ≤ value) : Spells [first, second] value
  | three {first second third : UInt8} {value : Nat} (mark : 0xE0 ≤ first.toNat ∧ first.toNat < 0xF0)
      (trail : IsTrail second ∧ IsTrail third)
      (value_eq : value
        = ((first.toNat - 0xE0) * 0x40 + (second.toNat - 0x80)) * 0x40 + (third.toNat - 0x80))
      (shortest : 0x800 ≤ value) (no_surrogate : value < 0xD800 ∨ 0xDFFF < value) :
      Spells [first, second, third] value
  | four {first second third fourth : UInt8} {value : Nat}
      (mark : 0xF0 ≤ first.toNat ∧ first.toNat < 0xF8)
      (trail : IsTrail second ∧ IsTrail third ∧ IsTrail fourth)
      (value_eq : value = (((first.toNat - 0xF0) * 0x40 + (second.toNat - 0x80)) * 0x40
        + (third.toNat - 0x80)) * 0x40 + (fourth.toNat - 0x80))
      (shortest : 0x10000 ≤ value) (greatest : value ≤ 0x10FFFF) :
      Spells [first, second, third, fourth] value

/-- Bytes that spell characters one after the other. -/
inductive WellFormed : Bytes → List Char → Prop where
  | nil : WellFormed [] []
  | cons {bytes rest : Bytes} {c : Char} {chars : List Char} (spells : Spells bytes c.toNat)
      (others : WellFormed rest chars) : WellFormed (bytes ++ rest) (c :: chars)

/-- What is spelled is the number of a character. -/
theorem Spells.toNat_ofNat {bytes : Bytes} {value : Nat} (spells : Spells bytes value) :
    (Char.ofNat value).toNat = value := by
  have valid : value.isValidChar := by
    cases spells with
    | one mark => exact .inl (by omega)
    | two mark trail value_eq => exact .inl (by unfold IsTrail at trail; omega)
    | three mark trail value_eq _ no_surrogate =>
      unfold IsTrail at trail
      rcases no_surrogate with low | high
      · exact .inl low
      · exact .inr ⟨high, by omega⟩
    | four _ _ _ shortest greatest => exact .inr ⟨by omega, by omega⟩
  rw [Char.ofNat, dif_pos valid]
  rfl

/-- **The bytes that spell a character** are its bytes. -/
theorem Spells.eq_encode {bytes : Bytes} {c : Char} (spells : Spells bytes c.toNat) :
    bytes = String.utf8EncodeChar c := by
  have byte {value : Nat} {byte : UInt8} (same : value = byte.toNat) : byte = UInt8.ofNat value := by
    rw [same, UInt8.ofNat_toNat]
  change Spells bytes c.val.toNat at spells
  unfold String.utf8EncodeChar
  generalize c.val.toNat = value at spells
  cases spells with
  | one mark =>
    rw [if_pos (by omega), ← byte rfl]
  | two mark trail value_eq shortest =>
    unfold IsTrail at trail
    rw [if_neg (by omega), if_pos (by omega)]
    exact congrArg₂ _ (byte (by omega)) (congrArg₂ _ (byte (by omega)) rfl)
  | three mark trail value_eq shortest =>
    unfold IsTrail at trail
    rw [if_neg (by omega), if_neg (by omega), if_pos (by omega)]
    exact congrArg₂ _ (byte (by omega)) (congrArg₂ _ (byte (by omega))
      (congrArg₂ _ (byte (by omega)) rfl))
  | four mark trail value_eq shortest greatest =>
    unfold IsTrail at trail
    rw [if_neg (by omega), if_neg (by omega), if_neg (by omega)]
    exact congrArg₂ _ (byte (by omega)) (congrArg₂ _ (byte (by omega))
      (congrArg₂ _ (byte (by omega)) (congrArg₂ _ (byte (by omega)) rfl)))

/-- The bytes of a character spell it. -/
theorem spells_encode (c : Char) : Spells (String.utf8EncodeChar c) c.toNat := by
  have scalar : c.val.toNat < 0xD800 ∨ 0xDFFF < c.val.toNat ∧ c.val.toNat < 0x110000 := c.valid
  show Spells _ c.val.toNat
  unfold String.utf8EncodeChar
  generalize c.val.toNat = value at scalar
  have trail (rest : Nat) : IsTrail (UInt8.ofNat (rest % 64 + 128)) ∧
      (UInt8.ofNat (rest % 64 + 128)).toNat - 0x80 = rest % 64 := by
    unfold IsTrail
    rw [toNat_byte (by omega)]
    omega
  by_cases one : value ≤ 0x7F
  · simp only [one, if_true]
    have first := toNat_byte (show value < 256 by omega)
    simpa only [first] using @Spells.one (UInt8.ofNat value) (by omega)
  by_cases two : value ≤ 0x7FF
  · simp only [one, two, if_true, if_false]
    have first := toNat_byte (show value / 64 % 32 + 0xC0 < 256 by omega)
    refine .two (by omega) (trail value).1 ?_ (by omega)
    rw [first, (trail value).2]
    omega
  by_cases three : value ≤ 0xFFFF
  · simp only [one, two, three, if_true, if_false]
    have first := toNat_byte (show value / 4096 % 16 + 0xE0 < 256 by omega)
    refine .three (by omega) ⟨(trail _).1, (trail _).1⟩ ?_ (by omega) (by omega)
    rw [first, (trail _).2, (trail _).2]
    omega
  · simp only [one, two, three, if_false]
    have first := toNat_byte (show value / 262144 % 8 + 0xF0 < 256 by omega)
    refine .four (by omega) ⟨(trail _).1, (trail _).1, (trail _).1⟩ ?_ (by omega) (by omega)
    rw [first, (trail _).2, (trail _).2, (trail _).2]
    omega

/-- **Well-formed text is the bytes of its characters.** -/
theorem wellFormed_iff {bytes : Bytes} {chars : List Char} :
    WellFormed bytes chars ↔ bytes = encode chars := by
  constructor
  · intro spelled
    induction spelled with
    | nil => rfl
    | cons spells _ ih => rw [spells.eq_encode, ih, encode, encode, List.flatMap_cons]
  · rintro rfl
    induction chars with
    | nil => exact .nil
    | cons c chars ih =>
      rw [encode, List.flatMap_cons]
      exact .cons (spells_encode c) ih

/-- Bytes spell one text at most. -/
theorem WellFormed.unique {bytes : Bytes} {chars chars' : List Char} (spelled : WellFormed bytes chars)
    (spelled' : WellFormed bytes chars') : chars = chars' := by
  rw [wellFormed_iff] at spelled spelled'
  rw [← lossyChars_encode chars, ← spelled, spelled', lossyChars_encode]

/-! ### The scan -/

/-- A value with six more bits for each byte. -/
def extended (value : Nat) (trail : Bytes) : Nat :=
  trail.foldl (fun value byte => value * 64 + (byte.toNat - 0x80)) value

/-- What has been read of a character spells one with any bytes that the scan still admits: the next
one in its range, and as many more as are owed. -/
structure Partial.Promises (part : Partial) : Prop where
  owes : 0 < part.owed
  spells : ∀ next trail, part.low.toNat ≤ next.toNat → next.toNat ≤ part.high.toNat →
    trail.length + 1 = part.owed → (∀ byte ∈ trail, IsTrail byte) →
    Spells (part.seen.reverse ++ next :: trail) (extended part.value (next :: trail))

section Promises

variable {first low high : UInt8} {value : Nat}

theorem promises_two (mark : 0xC2 ≤ first.toNat ∧ first.toNat < 0xE0) :
    Partial.Promises ⟨[first], first.toNat - 0xC0, 1, 0x80, 0xBF⟩ := by
  refine ⟨Nat.one_pos, fun next trail above below count _ => ?_⟩
  simp only [UInt8.reduceToNat] at above below
  obtain rfl := List.length_eq_zero_iff.mp (Nat.succ_injective count)
  exact .two (by omega) ⟨above, by omega⟩ rfl (by simp only [extended, List.foldl]; omega)

/-- The range of the next byte excludes what two bytes spell, and surrogates. -/
theorem promises_three (mark : 0xE0 ≤ first.toNat ∧ first.toNat < 0xF0)
    (range : 0x80 ≤ low.toNat ∧ high.toNat ≤ 0xBF)
    (shortest : first.toNat = 0xE0 → 0xA0 ≤ low.toNat)
    (no_surrogate : first.toNat = 0xED → high.toNat ≤ 0x9F) (bits : value = first.toNat - 0xE0) :
    Partial.Promises ⟨[first], value, 2, low, high⟩ := by
  rw [bits]
  refine ⟨Nat.two_pos, fun next trail above below count trails => ?_⟩
  dsimp only at above below
  obtain ⟨third, rfl⟩ := List.length_eq_one_iff.mp (Nat.succ_injective count)
  have third_trail := List.forall_mem_singleton.mp trails
  have bounds := third_trail
  unfold IsTrail at bounds
  refine .three mark ⟨⟨by omega, by omega⟩, third_trail⟩ rfl ?_ ?_ <;>
    simp only [extended, List.foldl] <;> omega

/-- The range of the next byte excludes what three bytes spell, and values above the greatest. -/
theorem promises_four (mark : 0xF0 ≤ first.toNat ∧ first.toNat < 0xF5)
    (range : 0x80 ≤ low.toNat ∧ high.toNat ≤ 0xBF)
    (shortest : first.toNat = 0xF0 → 0x90 ≤ low.toNat)
    (greatest : first.toNat = 0xF4 → high.toNat ≤ 0x8F) (bits : value = first.toNat - 0xF0) :
    Partial.Promises ⟨[first], value, 3, low, high⟩ := by
  rw [bits]
  refine ⟨Nat.succ_pos 2, fun next trail above below count trails => ?_⟩
  dsimp only at above below
  obtain ⟨third, fourth, rfl⟩ := List.length_eq_two.mp (Nat.succ_injective count)
  obtain ⟨third_trail, others⟩ := List.forall_mem_cons.mp trails
  have fourth_trail := List.forall_mem_singleton.mp others
  have bounds := And.intro third_trail fourth_trail
  unfold IsTrail at bounds
  refine .four (by omega) ⟨⟨by omega, by omega⟩, third_trail, fourth_trail⟩ rfl ?_ ?_ <;>
    simp only [extended, List.foldl] <;> omega

end Promises

/-- What a byte does where a character may begin: it is all the bytes of one, or promises one. -/
inductive Leads (byte : UInt8) : Lead → Prop where
  | whole {c : Char} (all_bytes : String.utf8EncodeChar c = [byte]) : Leads byte (.whole c)
  | opens {part : Partial} (seen : part.seen = [byte]) (promised : part.Promises) :
      Leads byte (.opens part)
  | stray : Leads byte .stray

theorem leads (byte : UInt8) : Leads byte (lead byte) := by
  unfold lead
  simp only [UInt8.lt_iff_toNat_lt, ← UInt8.toNat_inj, UInt8.reduceToNat]
  split_ifs with ascii
  · have spells := Spells.one ascii
    rw [← spells.toNat_ofNat] at spells
    exact .whole spells.eq_encode.symm
  · exact .stray
  · exact .opens rfl (promises_two (by omega))
  · exact .opens rfl (promises_three (by omega) (by decide) (fun _ => by decide) (fun _ => by omega)
      (by omega))
  · exact .opens rfl (promises_three (by omega) (by decide) (fun _ => by omega) (fun _ => by decide)
      (by omega))
  · exact .opens rfl (promises_three (by omega) (by decide) (fun _ => by omega) (fun _ => by omega)
      rfl)
  · exact .opens rfl (promises_four (by omega) (by decide) (fun _ => by decide) (fun _ => by omega)
      (by omega))
  · exact .opens rfl (promises_four (by omega) (by decide) (fun _ => by omega) (fun _ => by omega)
      rfl)
  · exact .opens rfl (promises_four (by omega) (by decide) (fun _ => by omega) (fun _ => by decide)
      (by omega))
  · exact .stray

/-- The bytes of a piece. -/
def Piece.bytes : Piece → Bytes
  | .char c => String.utf8EncodeChar c
  | .broken bytes => bytes

/-- What a scan has read: the bytes of the pieces, and those of the character that is being read. -/
structure Scan.HasRead (scan : Scan) (bytes : Bytes) : Prop where
  holds : scan.done.reverse.flatMap Piece.bytes
    ++ (scan.reading.elim [] fun part => part.seen.reverse) = bytes
  promises : ∀ part, scan.reading = some part → part.Promises

namespace Scan.HasRead

theorem start {done : List Piece} {bytes : Bytes} (holds : done.reverse.flatMap Piece.bytes = bytes)
    (byte : UInt8) : (Scan.start done byte).HasRead (bytes ++ [byte]) := by
  have leads := leads byte
  unfold Scan.start
  generalize lead byte = begins at leads ⊢
  cases leads with
  | whole all_bytes => exact ⟨by simp [holds, Piece.bytes, all_bytes], nofun⟩
  | opens seen promised =>
    refine ⟨by simp [holds, seen], fun _ reading => ?_⟩
    cases reading
    exact promised
  | stray => exact ⟨by simp [holds, Piece.bytes], nofun⟩

/-- **One more byte has been read.** -/
theorem step {scan : Scan} {bytes : Bytes} (read : scan.HasRead bytes) (byte : UInt8) :
    (scan.step byte).HasRead (bytes ++ [byte]) := by
  obtain ⟨done, reading⟩ := scan
  obtain ⟨holds, promises⟩ := read
  unfold Scan.step
  cases reading with
  | none => exact start (by simpa using holds) byte
  | some part =>
    have promised := promises part rfl
    dsimp only
    split_ifs with admitted last
    · -- The character is complete.
      rw [UInt8.le_iff_toNat_le, UInt8.le_iff_toNat_le] at admitted
      have spells := promised.spells byte [] admitted.1 admitted.2
        (Nat.le_antisymm promised.owes last) nofun
      have value_eq := spells.toNat_ofNat
      rw [← value_eq] at spells
      refine ⟨?_, nofun⟩
      simp only [Option.elim, List.reverse_cons, List.flatMap_append, List.flatMap_singleton,
        List.append_nil, Piece.bytes]
      rw [← holds, List.append_assoc]
      exact congrArg _ spells.eq_encode.symm
    · rw [UInt8.le_iff_toNat_le, UInt8.le_iff_toNat_le] at admitted
      refine ⟨by simp [← holds], fun _ reading => ?_⟩
      cases reading
      refine ⟨by dsimp only; omega, fun next trail above below count trails => ?_⟩
      simp only [UInt8.reduceToNat] at above below count
      have spells := promised.spells byte (next :: trail) admitted.1 admitted.2
        (by simp only [List.length_cons]; omega)
        (List.forall_mem_cons.mpr ⟨⟨above, by omega⟩, trails⟩)
      simpa [extended] using spells
    · exact start (by simpa [Piece.bytes] using holds) byte

theorem run {scan : Scan} {bytes : Bytes} (read : scan.HasRead bytes) (more : Bytes) :
    (more.foldl Scan.step scan).HasRead (bytes ++ more) := by
  induction more generalizing scan bytes with
  | nil => simpa using read
  | cons byte more ih => simpa using ih (read.step byte)

theorem finish {scan : Scan} {bytes : Bytes} (read : scan.HasRead bytes) :
    scan.finish.flatMap Piece.bytes = bytes := by
  rw [← read.holds, Scan.finish]
  cases scan.reading <;> simp [Piece.bytes]

end Scan.HasRead

/-- **The pieces of a byte string hold its bytes.** -/
theorem pieces_bytes (bytes : Bytes) : (pieces bytes).flatMap Piece.bytes = bytes := by
  have nothing : Scan.HasRead ⟨[], none⟩ [] := ⟨rfl, nofun⟩
  exact (nothing.run bytes).finish

/-! ### Decoding -/

/-- **What is decoded is well-formed text**, and all of it is decoded. -/
theorem decode?_eq_some_iff {bytes : Bytes} {chars : List Char} :
    decode? bytes = some chars ↔ WellFormed bytes chars := by
  rw [wellFormed_iff]
  constructor
  · intro decoded
    unfold decode? at decoded
    dsimp only at decoded
    split_ifs at decoded with whole
    cases decoded
    have same : (pieces bytes).map (fun piece => String.utf8EncodeChar piece.shown)
        = (pieces bytes).map Piece.bytes := by
      refine List.map_congr_left fun piece member => ?_
      have isChar := List.all_eq_true.mp whole piece member
      cases piece with
      | char c => rfl
      | broken bytes => cases isChar
    calc bytes = (pieces bytes).flatMap Piece.bytes := (pieces_bytes bytes).symm
      _ = ((pieces bytes).map Piece.bytes).flatten := List.flatMap_def
      _ = ((pieces bytes).map fun piece => String.utf8EncodeChar piece.shown).flatten := by rw [same]
      _ = encode ((pieces bytes).map Piece.shown) := by
        rw [encode, List.flatMap_def, List.map_map]
        rfl
  · rintro rfl
    unfold decode?
    simp [pieces_encode, Piece.isChar, Function.comp_def, Piece.shown]

end CalcBuild.Text.Utf8

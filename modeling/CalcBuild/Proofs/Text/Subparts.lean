/-
**Ill-formed bytes.**

Bytes are characters one after the other, and between them what is no character. There the bytes that a
character could begin with are ill-formed together, as many as there are; a byte that no character begins
with is ill-formed on its own. This cuts any bytes in one way, and the scan finds it. All bytes of an
ill-formed part are above those of ASCII.

* `IsSubpart`, `Cuts`: the maximal ill-formed subparts, and the cut of bytes into these and characters;
* `Scan.run_start`, `Scan.run_subpart`: what the scan does on a part of a character, and on an
  ill-formed part;
* `cuts_iff`: the scan finds the cut, and there is no other;
* `any_blank_iff`: what is shown holds white space only if a character is;
* `encode_lossyChars_eq_iff`: what is shown for bytes is these bytes if they are text;
* `ascii_shown`: the bytes of ASCII are shown as they are.
-/

import CalcBuild.Proofs.Text.Spelling
import CalcBuild.Text.Blank

namespace CalcBuild.Text.Utf8

/-! ### The cut -/

/-- Bytes that a character begins with, perhaps all of its bytes. -/
def IsStart (bytes : Bytes) : Prop := ∃ c, bytes <+: String.utf8EncodeChar c

/-- Bytes that are ill-formed together in front of other bytes: no character begins there, and they are
the longest beginning of a character, or one byte. -/
structure IsSubpart (part rest : Bytes) : Prop where
  proper : part ≠ []
  illFormed : ∀ c, ¬ String.utf8EncodeChar c <+: part ++ rest
  begins : IsStart part ∨ part.length = 1
  longest : ∀ start, start <+: part ++ rest → IsStart start → start.length ≤ part.length

/-- Bytes as characters and ill-formed parts, one after the other. -/
inductive Cuts : Bytes → List Piece → Prop where
  | nil : Cuts [] []
  | char (c : Char) {rest : Bytes} {cut : List Piece} (others : Cuts rest cut) :
      Cuts (String.utf8EncodeChar c ++ rest) (.char c :: cut)
  | broken {part rest : Bytes} {cut : List Piece} (subpart : IsSubpart part rest)
      (others : Cuts rest cut) : Cuts (part ++ rest) (.broken part :: cut)

namespace Scan

/-- Pieces that have been cut stay. -/
theorem step_done (scan : Scan) (byte : UInt8) : scan.done <:+ (scan.step byte).done := by
  have starts (done : List Piece) : done <:+ (start done byte).done := by
    unfold start
    split
    · exact List.suffix_cons _ _
    · exact List.suffix_refl _
    · exact List.suffix_cons _ _
  unfold step
  split
  · exact starts _
  · split
    · dsimp only
      split
      · exact List.suffix_cons _ _
      · exact List.suffix_refl _
    · exact (List.suffix_cons _ _).trans (starts _)

theorem run_done (scan : Scan) (bytes : Bytes) : scan.done <:+ (bytes.foldl step scan).done := by
  induction bytes generalizing scan with
  | nil => exact List.suffix_refl _
  | cons byte bytes ih => exact (step_done scan byte).trans (ih _)

/-- **A part of a character is being read** when the scan has come to its end. -/
theorem run_start {part : Bytes} (proper : part ≠ []) (isStart : IsStart part)
    (illFormed : ∀ c, ¬ String.utf8EncodeChar c <+: part) (done : List Piece) :
    ∃ reading : Partial, part.foldl step ⟨done, none⟩ = ⟨done, some reading⟩ ∧
      reading.seen.reverse = part ∧ reading.Promises := by
  obtain ⟨c, rest, whole⟩ := isStart
  have character := step_char done c
  rw [← whole, List.foldl_append] at character
  have before : HasRead ⟨done, none⟩ (done.reverse.flatMap Piece.bytes) := ⟨List.append_nil _, nofun⟩
  have read := before.run part
  have kept := run_done ⟨done, none⟩ part
  have left := run_done (part.foldl step ⟨done, none⟩) rest
  rw [character] at left
  generalize part.foldl step ⟨done, none⟩ = middle at read kept left
  obtain ⟨pieces, reading⟩ := middle
  obtain ⟨holds, promises⟩ := read
  rcases List.suffix_cons_iff.mp left with rfl | below
  · -- The whole character has been read: then it is a part of the part.
    refine absurd ?_ (illFormed c)
    simp only [List.reverse_cons, List.flatMap_append, List.flatMap_singleton, List.append_assoc,
      List.append_cancel_left_eq] at holds
    exact ⟨_, holds⟩
  · obtain rfl : done = pieces := kept.eq_of_length_le below.length_le
    rw [List.append_cancel_left_eq] at holds
    cases reading with
    | none => exact absurd holds.symm proper
    | some reading => exact ⟨reading, rfl, holds, promises reading rfl⟩

end Scan

theorem lead_range {byte : UInt8} {part : Partial} (opens : lead byte = .opens part) :
    part.low ≤ part.high := by
  unfold lead at opens
  split_ifs at opens
  all_goals
    cases opens
    exact of_decide_eq_true rfl

/-- The bytes read of a character, with one that the scan admits, are the beginning of a character. -/
theorem Partial.Promises.isStart {part : Partial} (promised : part.Promises) {next : UInt8}
    (admitted : part.low ≤ next ∧ next ≤ part.high) : IsStart (part.seen.reverse ++ [next]) := by
  have spells := promised.spells next (List.replicate (part.owed - 1) 0x80)
    (UInt8.le_iff_toNat_le.mp admitted.1) (UInt8.le_iff_toNat_le.mp admitted.2)
    (by rw [List.length_replicate]; exact Nat.sub_add_cancel promised.owes)
    (fun byte member => by
      rw [List.eq_of_mem_replicate member]
      exact ⟨Nat.le_refl _, by decide⟩)
  rw [← spells.toNat_ofNat] at spells
  exact ⟨_, List.replicate (part.owed - 1) 0x80, by
    rw [← spells.eq_encode, List.append_assoc, List.singleton_append]⟩

/-- A byte that no character begins with is ill-formed on its own. -/
theorem lead_stray {byte : UInt8} (stray : ¬ IsStart [byte]) : lead byte = .stray := by
  have leads := leads byte
  cases begins : lead byte with
  | stray => rfl
  | whole c =>
    rw [begins] at leads
    cases leads with
    | whole all_bytes => exact absurd ⟨c, all_bytes ▸ List.prefix_refl _⟩ stray
  | opens part =>
    rw [begins] at leads
    cases leads with
    | opens seen promised =>
      obtain ⟨c, longer⟩ := promised.isStart ⟨UInt8.le_refl _, lead_range begins⟩
      rw [seen] at longer
      exact absurd ⟨c, (List.prefix_append _ _).trans longer⟩ stray

/-- **An ill-formed part is cut off as one piece**: the scan goes on behind it as from its end. -/
theorem Scan.run_subpart {part rest : Bytes} (subpart : IsSubpart part rest) (done : List Piece) :
    ((part ++ rest).foldl step ⟨done, none⟩).finish
      = (rest.foldl step ⟨.broken part :: done, none⟩).finish := by
  rw [List.foldl_append]
  by_cases isStart : IsStart part
  · obtain ⟨reading, runs, seen, promised⟩ := run_start subpart.proper isStart
      (fun c begins => subpart.illFormed c (begins.trans (List.prefix_append _ _))) done
    rw [runs]
    cases rest with
    | nil => simp only [List.foldl_nil, finish, seen]
    | cons next rest =>
      have refused : ¬ (reading.low ≤ next ∧ next ≤ reading.high) := by
        intro admitted
        have longer := promised.isStart admitted
        rw [seen] at longer
        have bound := subpart.longest _ (List.append_cons part next rest ▸ List.prefix_append _ _) longer
        rw [List.length_append, List.length_singleton] at bound
        omega
      have steps : step ⟨done, some reading⟩ next = step ⟨.broken part :: done, none⟩ next := by
        simp only [step, if_neg refused, seen]
      rw [List.foldl_cons, List.foldl_cons, steps]
  · obtain ⟨byte, rfl⟩ := List.length_eq_one_iff.mp (subpart.begins.resolve_left isStart)
    have steps : step ⟨done, none⟩ byte = ⟨.broken [byte] :: done, none⟩ := by
      simp only [step, start, lead_stray isStart]
    rw [List.foldl_cons, List.foldl_nil, steps]

theorem Cuts.run {bytes : Bytes} {cut : List Piece} (cuts : Cuts bytes cut) (done : List Piece) :
    (bytes.foldl Scan.step ⟨done, none⟩).finish = done.reverse ++ cut := by
  induction cuts generalizing done with
  | nil => exact (List.append_nil _).symm
  | char c _ ih =>
    rw [List.foldl_append, Scan.step_char, ih, List.reverse_cons, List.append_assoc]
    rfl
  | broken subpart _ ih =>
    rw [Scan.run_subpart subpart, ih, List.reverse_cons, List.append_assoc]
    rfl

/-- The bytes of a character are that of ASCII, or above all of these. -/
theorem encodeChar_ascii (c : Char) :
    (∃ byte, String.utf8EncodeChar c = [byte]) ∨ ∀ byte ∈ String.utf8EncodeChar c, ¬ byte < 0x80 := by
  have spells := spells_encode c
  generalize String.utf8EncodeChar c = bytes, c.toNat = value at spells
  simp only [UInt8.lt_iff_toNat_lt, UInt8.reduceToNat]
  cases spells with
  | one _ => exact .inl ⟨_, rfl⟩
  | two mark trail _ _ =>
    unfold IsTrail at trail
    right
    simp only [List.forall_mem_cons]
    refine ⟨by omega, by omega, nofun⟩
  | three mark trail _ _ _ =>
    unfold IsTrail at trail
    right
    simp only [List.forall_mem_cons]
    refine ⟨by omega, by omega, by omega, nofun⟩
  | four mark trail _ _ _ =>
    unfold IsTrail at trail
    right
    simp only [List.forall_mem_cons]
    refine ⟨by omega, by omega, by omega, by omega, nofun⟩

/-- **An ill-formed part holds no byte of ASCII.** -/
theorem IsSubpart.above {part rest : Bytes} (subpart : IsSubpart part rest) :
    ∀ byte ∈ part, ¬ byte < 0x80 := by
  rcases subpart.begins with ⟨c, begins⟩ | single
  · rcases encodeChar_ascii c with ⟨byte, whole⟩ | above
    · -- A part of one byte is the whole character.
      have same : part = String.utf8EncodeChar c := by
        refine begins.eq_of_length_le ?_
        rw [whole]
        exact List.length_pos_iff.mpr subpart.proper
      exact absurd (same ▸ List.prefix_append _ _) (subpart.illFormed c)
    · exact fun byte member => above byte (begins.subset member)
  · obtain ⟨byte, rfl⟩ := List.length_eq_one_iff.mp single
    refine List.forall_mem_singleton.mpr fun ascii => ?_
    rw [UInt8.lt_iff_toNat_lt] at ascii
    have spells := Spells.one ascii
    rw [← spells.toNat_ofNat] at spells
    refine subpart.illFormed (Char.ofNat byte.toNat) ?_
    rw [← spells.eq_encode]
    exact List.prefix_append _ _

end CalcBuild.Text.Utf8

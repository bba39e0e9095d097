/-
**What is said of a tool that failed, and what the driver exits with.**

Two readers look at the status word of a process: one puts it into words, the other makes an exit status
of it. Both go by the same fields of the word, the low seven bits, the bit of a core dump and the second
byte, and so they never disagree.

* `Form`, `Form.Fits`: the forms of a status, told by the bits of its word;
* `fits_iff`: exactly one of them fits;
* `text_form`: the words for a status are the words for its form;
* `text_eq_exit_iff`, `announces_iff`: which form the words for a status give away;
* `failed_stage_agrees`: the main theorem.
-/

import CalcBuild.Proofs.CommandLine.Status
import CalcBuild.Proofs.Number.Numerals

namespace CalcBuild

namespace WaitStatus

/-! ### The bits of a status word -/

/-- What the status word of a process tells. -/
inductive Form where
  | exited (code : Nat)
  | killed (signal : Nat) (core : Bool)
  | stopped (signal : Nat)
  | continued
  | unrecognised (word : UInt32)
  deriving DecidableEq, Repr

/-- No bit of the low seven is set. -/
def Exits (word : UInt32) : Prop := word &&& 0x7F = 0

/-- The low seven bits and one, as a signed byte, are at least two: a byte of which all these bits are
set overflows. -/
def Dies (word : UInt32) : Prop := 2 ≤ ((word &&& 0x7F) + 1).toUInt8.toInt8

/-- The low byte has all bits set but the highest. -/
def Stops (word : UInt32) : Prop := word &&& 0xFF = 0x7F

/-- The two low bytes have all bits set, and the others none. -/
def Continues (word : UInt32) : Prop := word = 0xFFFF

/-- The form fits the bits of a status word. -/
def Form.Fits (word : UInt32) : Form → Prop
  | .exited code => Exits word ∧ ((word >>> 8) &&& 0xFF).toNat = code
  | .killed signal core =>
    Dies word ∧ (word &&& 0x7F).toNat = signal ∧ (word &&& 0x80 ≠ 0 ↔ core = true)
  | .stopped signal => Stops word ∧ ((word >>> 8) &&& 0xFF).toNat = signal
  | .continued => Continues word
  | .unrecognised shown =>
    shown = word ∧ ¬ Exits word ∧ ¬ Dies word ∧ ¬ Stops word ∧ ¬ Continues word

/-- The words that tell the form. -/
def Form.lead : Form → String
  | .exited _ => "exit status: "
  | .killed _ _ => "signal: "
  | .stopped _ => "stopped (not terminated) by signal: "
  | .continued => "continued (WIFCONTINUED)"
  | .unrecognised _ => "unrecognised wait status: "

/-- What is told of a form. -/
def Form.rest : Form → String
  | .exited code => Number.numeral code
  | .killed signal core => signalText signal ++ (if core then " (core dumped)" else "")
  | .stopped signal => signalText signal
  | .continued => ""
  | .unrecognised word =>
    Number.signed (toInt ⟨word⟩) ++ " 0x" ++ String.ofList (Text.hexDigits word.toNat)

/-- The words for a form. -/
def Form.text (form : Form) : String := form.lead ++ form.rest

/-- The form of a status. -/
def form (status : WaitStatus) : Form :=
  match status.exitCode?, status.signal?, status.stopSignal? with
  | some code, _, _ => .exited code
  | none, some signal, _ => .killed signal status.hasCore
  | none, none, some signal => .stopped signal
  | none, none, none => if status.isContinued then .continued else .unrecognised status.word

section Bits

variable (word : UInt32)

theorem toNat_low (bits : Nat) {mask : UInt32} (mask_eq : mask.toNat = 2 ^ bits - 1) :
    (word &&& mask).toNat = word.toNat % 2 ^ bits := by
  rw [UInt32.toNat_and, mask_eq, Nat.and_two_pow_sub_one_eq_mod]

theorem exits_iff : Exits word ↔ word.toNat % 128 = 0 := by
  rw [Exits, ← UInt32.toNat_inj, toNat_low word 7 rfl]
  rfl

theorem toNat_second : ((word >>> 8) &&& 0xFF).toNat = word.toNat / 256 % 256 := by
  rw [toNat_low _ 8 rfl, UInt32.toNat_shiftRight, Nat.shiftRight_eq_div_pow]
  rfl

theorem dies_iff : Dies word ↔ 0 < word.toNat % 128 ∧ word.toNat % 128 < 127 := by
  have signed : ∀ low < 128, (2 ≤ ((UInt32.ofNat low) + 1).toUInt8.toInt8 ↔ 0 < low ∧ low < 127) := by
    decide +kernel
  have low : word &&& 0x7F = UInt32.ofNat (word.toNat % 128) := by
    rw [← UInt32.toNat_inj, toNat_low word 7 rfl, UInt32.toNat_ofNat']
    omega
  rw [Dies, low]
  exact signed _ (Nat.mod_lt _ (by decide))

theorem core_iff : word &&& 0x80 ≠ 0 ↔ word.toNat / 128 % 2 = 1 := by
  have bit : (word &&& 0x80).toNat = (word.toNat.testBit 7).toNat * 2 ^ 7 := by
    rw [UInt32.toNat_and, ← Nat.and_two_pow]
    rfl
  rw [ne_eq, ← UInt32.toNat_inj, bit, Nat.testBit_eq_decide_div_mod_eq]
  by_cases set : word.toNat / 2 ^ 7 % 2 = 1 <;> simp_all

theorem stops_iff : Stops word ↔ word.toNat % 256 = 127 := by
  rw [Stops, ← UInt32.toNat_inj, toNat_low word 8 rfl]
  rfl

theorem continues_iff : Continues word ↔ word.toNat = 0xFFFF := by
  rw [Continues, ← UInt32.toNat_inj]
  rfl

end Bits

theorem form_fits (status : WaitStatus) : status.form.Fits status.word := by
  obtain ⟨word⟩ := status
  have low : (word &&& 0x7F).toNat = word.toNat % 128 := toNat_low word 7 rfl
  have core : word &&& 0x80 ≠ 0 ↔ hasCore ⟨word⟩ = true := by rw [core_iff, hasCore, beq_iff_eq]
  unfold form exitCode? signal? stopSignal? isContinued kind detail
  by_cases exits : word.toNat % 128 = 0
  · simp only [exits, if_true]
    exact ⟨(exits_iff word).mpr exits, toNat_second word⟩
  by_cases dies : word.toNat % 128 < 127
  · simp only [exits, if_false, Nat.pos_of_ne_zero exits, dies, and_self, if_true]
    exact ⟨(dies_iff word).mpr ⟨Nat.pos_of_ne_zero exits, dies⟩, low, core⟩
  by_cases stops : word.toNat % 256 = 127
  · simp only [exits, if_false, dies, and_false, stops, if_true]
    exact ⟨(stops_iff word).mpr stops, toNat_second word⟩
  simp only [exits, if_false, dies, and_false, stops, beq_iff_eq]
  split
  · exact (continues_iff word).mpr ‹_›
  · refine ⟨rfl, ?_⟩
    rw [exits_iff, dies_iff, stops_iff, continues_iff]
    omega

/-- The bits that tell the forms apart exclude one another. -/
theorem fits_unique {word : UInt32} {first second : Form} (fits : first.Fits word)
    (fits' : second.Fits word) : first = second := by
  cases first <;> cases second <;> simp only [Form.Fits] at fits fits'
  case exited.exited => rw [← fits.2, ← fits'.2]
  case killed.killed =>
    rw [← fits.2.1, ← fits'.2.1, Bool.eq_iff_iff.mpr (fits.2.2.symm.trans fits'.2.2)]
  case stopped.stopped => rw [← fits.2, ← fits'.2]
  case unrecognised.unrecognised => rw [fits.1, fits'.1]
  case continued.continued => rfl
  all_goals
    simp only [exits_iff, dies_iff, stops_iff, continues_iff] at fits fits'
    exfalso
    omega

/-- **Exactly one form fits a status.** -/
theorem fits_iff (status : WaitStatus) (other : Form) :
    other.Fits status.word ↔ other = status.form :=
  ⟨fun fits => fits_unique fits status.form_fits, fun same => same ▸ status.form_fits⟩

/-! ### The two readers -/

/-- The words for a status are the words for its form. -/
theorem text_form (status : WaitStatus) : status.form.text = status.text := by
  unfold form text Form.text
  cases status.exitCode? with
  | some code => rfl
  | none =>
    cases status.signal? with
    | some signal => exact (String.append_assoc ..).symm
    | none =>
      cases status.stopSignal? with
      | some signal => rfl
      | none =>
        cases status.isContinued with
        | true => exact String.append_empty
        | false => simp only [Form.lead, Form.rest, String.append_assoc, Bool.false_eq_true, if_false]

theorem exitCode?_of_form {status : WaitStatus} {code : Nat} (same : .exited code = status.form) :
    status.exitCode? = some code := by
  unfold form at same
  split at same
  · rename_i exits
    cases same
    exact exits
  · cases same
  · cases same
  · split at same <;> cases same

theorem signal?_of_form {status : WaitStatus} {signal : Nat} {core : Bool}
    (same : .killed signal core = status.form) : status.signal? = some signal := by
  unfold form at same
  split at same
  · cases same
  · rename_i dies
    cases same
    exact dies
  · cases same
  · split at same <;> cases same

/-- What is reported of a status whose form is neither an exit nor a death. -/
theorem reported_of_form {status : WaitStatus} (runs : ∀ code, .exited code ≠ status.form)
    (lives : ∀ signal core, .killed signal core ≠ status.form) : status.reported = generalFailure := by
  unfold form at runs lives
  refine reported_other (fun code exits => ?_) ?_
  · rw [exits] at runs
    exact absurd rfl (runs code)
  · cases exits : status.exitCode? with
    | some code =>
      rw [exits] at runs
      exact absurd rfl (runs code)
    | none =>
      cases dies : status.signal? with
      | none => rfl
      | some signal =>
        rw [exits, dies] at lives
        exact absurd rfl (lives signal status.hasCore)

/-! ### What the words give away -/

/-- The text begins by telling of a signal. The number goes on for as long as there are digits: what
begins with `signal: 11` does not tell of signal 1. -/
def Announces (text : String) (signal : Nat) : Prop :=
  ∃ rest, text = "signal: " ++ Number.numeral signal ++ rest ∧
    ∀ c ∈ rest.toList.head?, c.isDigit = false

theorem numeral_injective {first second : Nat} (same : Number.numeral first = Number.numeral second) :
    first = second := by
  rw [← Number.valueOf_digits first, ← Number.valueOf_digits second, String.ofList_inj.mp same]

/-- A numeral ends where the digits do. -/
theorem takeWhile_numeral (value : Nat) {rest : List Char}
    (ends : ∀ c ∈ rest.head?, c.isDigit = false) :
    (Number.digits value ++ rest).takeWhile Char.isDigit = Number.digits value := by
  rw [List.takeWhile_append_of_pos (Number.isNumeral_digits value).digits]
  cases rest with
  | nil => exact List.append_nil _
  | cons c rest =>
    rw [List.takeWhile_cons_of_neg (by simp [ends c rfl]), List.append_nil]

/-- Texts differ if one begins otherwise than the other. -/
theorem append_ne {front front' rest rest' : String}
    (apart : ¬ front.toList <+: front'.toList ∧ ¬ front'.toList <+: front.toList) :
    front ++ rest ≠ front' ++ rest' := by
  intro same
  have fronts : front.toList ++ rest.toList = front'.toList ++ rest'.toList := by
    rw [← String.toList_append, same, String.toList_append]
  rcases Nat.le_total front.toList.length front'.toList.length with shorter | shorter
  · exact apart.1 (List.prefix_of_prefix_length_le ⟨_, fronts⟩ ⟨_, rfl⟩ shorter)
  · exact apart.2 (List.prefix_of_prefix_length_le ⟨_, rfl⟩ ⟨_, fronts⟩ shorter)

/-- A text tells of one signal only. -/
theorem Announces.unique {text : String} {first second : Nat} (announces : Announces text first)
    (announces' : Announces text second) : first = second := by
  obtain ⟨rest, rfl, ends⟩ := announces
  obtain ⟨rest', same, ends'⟩ := announces'
  rw [String.append_assoc, String.append_assoc, String.append_right_inj, ← String.toList_inj,
    String.toList_append, String.toList_append] at same
  have numerals := congrArg (List.takeWhile Char.isDigit) same
  unfold Number.numeral at numerals
  rw [String.toList_ofList, String.toList_ofList, takeWhile_numeral first ends,
    takeWhile_numeral second ends'] at numerals
  rw [← Number.valueOf_digits first, ← Number.valueOf_digits second, numerals]

/-- After the number of a signal comes its name in brackets, or nothing. -/
theorem signalText_eq (signal : Nat) : ∃ name, signalText signal = Number.numeral signal ++ name ∧
    (name = "" ∨ ∃ rest, name = " (SIG" ++ rest) := by
  unfold signalText
  dsimp only
  split
  · rename_i name _
    exact ⟨" (SIG" ++ name ++ ")", by simp only [String.append_assoc],
      .inr ⟨name ++ ")", String.append_assoc ..⟩⟩
  · exact ⟨"", String.append_empty.symm, .inl rfl⟩

theorem announces_killed (signal : Nat) (core : Bool) :
    Announces (Form.killed signal core).text signal := by
  obtain ⟨name, text, shape⟩ := signalText_eq signal
  refine ⟨name ++ if core then " (core dumped)" else "", ?_, ?_⟩
  · rw [Form.text, Form.rest, text, String.append_assoc, ← String.append_assoc]
    rfl
  · rcases shape with rfl | ⟨rest, rfl⟩ <;> cases core <;> simp

/-- **Only a death by a signal is announced so**, and only by that signal. -/
theorem announces_iff (form : Form) (signal : Nat) :
    Announces form.text signal ↔ ∃ core, form = .killed signal core := by
  constructor
  · intro announces
    cases form with
    | killed other core => exact ⟨core, by rw [(announces_killed other core).unique announces]⟩
    | _ =>
      obtain ⟨rest, same, -⟩ := announces
      rw [String.append_assoc] at same
      exact absurd same (append_ne (by simp only [Form.lead]; decide))
  · rintro ⟨core, rfl⟩
    exact announces_killed signal core

/-- **Only an exit is told as an exit status**, and only as that one. -/
theorem text_eq_exit_iff (form : Form) (code : Nat) :
    form.text = "exit status: " ++ Number.numeral code ↔ form = .exited code := by
  constructor
  · intro same
    cases form with
    | exited other => rw [numeral_injective ((String.append_right_inj _).mp same)]
    | _ => exact absurd same (append_ne (by simp only [Form.lead]; decide))
  · rintro rfl
    rfl

end WaitStatus

open WaitStatus in
/-- **What is said of a tool that failed agrees with what the driver exits with.** Exactly one form
fits the bits of the status, whatever they are, and the message tells it. It tells an exit status
exactly if the tool exited with that code, and the driver exits with the same, or with one if the code
is zero. It tells of a signal exactly if that signal, which is not more than 126, killed the tool, and
the driver exits with 128 more, be there a core or not. Of anything else the driver makes one. So what
it makes of a status is neither zero nor more than fits into a byte, and is the status that the driver
exits with. -/
theorem failed_stage_agrees (stage : Stage) (command : String) (status : WaitStatus) :
    let failure := BuildFailure.stageFailed stage command status
    ∃ form : Form, (∀ other : Form, other.Fits status.word ↔ other = form) ∧
      failure.message = stage.name ++ " stage failed (" ++ form.text ++ "): " ++ command ∧
      (∀ code, form.text = "exit status: " ++ Number.numeral code ↔
        (Form.exited code).Fits status.word) ∧
      (∀ code, (Form.exited code).Fits status.word →
        failure.exitCode = if code = 0 then 1 else (code : Int)) ∧
      (∀ signal, Announces form.text signal ↔ ∃ core, (Form.killed signal core).Fits status.word) ∧
      (∀ signal core, (Form.killed signal core).Fits status.word →
        1 ≤ signal ∧ signal ≤ 126 ∧ failure.exitCode = 128 + signal) ∧
      ((∀ code, ¬ (Form.exited code).Fits status.word) →
        (∀ signal core, ¬ (Form.killed signal core).Fits status.word) → failure.exitCode = 1) ∧
      1 ≤ failure.exitCode ∧ failure.exitCode ≤ 255 ∧
      ∀ complaint : CommandLine.Complaint, complaint.failure? = some failure →
        (complaint.code : Int) = failure.exitCode := by
  intro failure
  have told : failure.exitCode = status.reported := rfl
  refine ⟨status.form, status.fits_iff, ?_, fun code => ?_, fun code fits => ?_, fun signal => ?_,
    fun signal core fits => ?_, fun runs lives => ?_, status.reported_bounds.1,
    status.reported_bounds.2, fun complaint about => CommandLine.Complaint.code_stageFailed about⟩
  · rw [text_form]
    rfl
  · rw [text_eq_exit_iff, fits_iff, eq_comm]
  · have exits := exitCode?_of_form ((status.fits_iff _).mp fits)
    rw [told]
    unfold reported
    rw [exits]
    rfl
  · simp only [announces_iff, fits_iff, eq_comm]
  · have dies := signal?_of_form ((status.fits_iff _).mp fits)
    have bounds := signal?_lt dies
    exact ⟨bounds.1, bounds.2, reported_signal dies⟩
  · exact reported_of_form (fun code same => runs code ((status.fits_iff _).mpr same))
      fun signal core same => lives signal core ((status.fits_iff _).mpr same)

end CalcBuild

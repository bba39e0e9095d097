/-
**A command line says what it spells.**

Options may be given in any order, before the source file and after it, and a value may stand behind
its option or in the same argument behind an equals sign. However an invocation is written, it is read:
the values end up in their slots, and the directories for tools in the order in which they were given.
A timeout is a numeral of a positive number of 64 bits, and nothing else is taken for one.

* `Wish`, `Wish.Spelled`: the options, and the arguments for each;
* `Spells`, `Writes`: the command lines that are written with them;
* `Gives`, `Gives.last`: the values that options give, and what the last of them gives;
* `readTimeout_eq_ok_iff`: the timeouts;
* `Reader.Holds`, `Reader.Holds.spelled`: the machine between two options, and after one more;
* `Spells.holds`: the machine after all arguments;
* `Reader.timeout_fault`: texts that are no timeouts;
* `arguments_told`: what is read.
-/

import CalcBuild.Proofs.CommandLine.Insertion
import CalcBuild.Proofs.Number.Counting

namespace CalcBuild.CommandLine

/-! ### Writing a command line -/

/-- What is asked for with one option, and with its value if it takes one. -/
inductive Wish where
  | verbose
  | valued (slot : Slot) (value : Bytes)
  deriving DecidableEq, Repr

/-- The argument that names an option with a value. -/
def Slot.flag (slot : Slot) : Bytes := Bytes.ofText ("--" ++ slot.name)

/-- The arguments that are no options. -/
def IsPlain (argument : Bytes) : Prop := argument.head? ≠ some Reader.dash

instance (argument : Bytes) : Decidable (IsPlain argument) := inferInstanceAs (Decidable (_ ≠ _))

/-- The arguments for an option. What follows an equals sign may be anything. -/
inductive Wish.Spelled : Wish → List Bytes → Prop where
  | verbose : Spelled .verbose [verboseArgument]
  | separate {slot : Slot} {value : Bytes} (option : slot ∈ Slot.options) (plain : IsPlain value) :
      Spelled (.valued slot value) [slot.flag, value]
  | attached {slot : Slot} (option : slot ∈ Slot.options) (value : Bytes) :
      Spelled (.valued slot value) [slot.flag ++ Reader.equals :: value]
  | short {value : Bytes} (plain : IsPlain value) :
      Spelled (.valued .output value) [Bytes.ofText "-o", value]

/-- The arguments for options, perhaps with the source file between two of them or at either end. -/
inductive Spells : List Wish → Option Bytes → List Bytes → Prop where
  | nothing : Spells [] none []
  | more {wishes : List Wish} {file? : Option Bytes} {arguments : List Bytes}
      (before : Spells wishes file? arguments) {wish : Wish} {words : List Bytes}
      (spelled : wish.Spelled words) : Spells (wishes ++ [wish]) file? (arguments ++ words)
  | file {wishes : List Wish} {arguments : List Bytes} (before : Spells wishes none arguments)
      {file : Bytes} (plain : IsPlain file) : Spells wishes (some file) (arguments ++ [file])

/-- The values that are given for a slot, in their order. -/
def given (slot : Slot) (wishes : List Wish) : List Bytes :=
  wishes.filterMap fun wish => match wish with
    | .verbose => none
    | .valued slot' value => if slot' = slot then some value else none

/-- The paths in a slot, in their order. -/
def Values.paths (values : Values) : Slot → List Bytes
  | .file => values.file?.toList
  | .output => values.output?.toList
  | .toolDir => values.toolDirs
  | .runtime => values.runtime?.toList
  | .timeout => []
  | .tempDir => values.tempDir?.toList

/-- Values and the options that give them: one option for each path, for the timeout and for being
verbose. -/
structure Gives (wishes : List Wish) (values : Values) : Prop where
  verbose : wishes.count .verbose = values.verbose.toNat
  paths : ∀ slot ∈ Slot.options, slot ≠ .timeout → given slot wishes = values.paths slot
  timeout : List.Forall₂ Number.Counts (given .timeout wishes) values.timeout?.toList

/-- Values that can be given: no path is empty, and the timeout is positive and has 64 bits. -/
structure Values.IsProper (values : Values) : Prop where
  paths : ∀ slot, [] ∉ values.paths slot
  timeout : ∀ seconds ∈ values.timeout?, 1 ≤ seconds ∧ seconds < 2 ^ 64

/-- The values that make up an invocation. -/
def Invocation.values (invocation : Invocation) : Values :=
  { file? := some invocation.file, output? := invocation.output?, verbose := invocation.verbose,
    toolDirs := invocation.toolDirs, runtime? := invocation.runtime?,
    timeout? := invocation.timeout?, tempDir? := invocation.tempDir? }

/-- The command lines for an invocation. The source file stands among the options, or at the end after
the argument that ends them; there it may be anything. -/
inductive Writes (invocation : Invocation) : List Bytes → Prop where
  | among {wishes : List Wish} {arguments : List Bytes} (gives : Gives wishes invocation.values)
      (spells : Spells wishes (some invocation.file) arguments) : Writes invocation arguments
  | last {wishes : List Wish} {arguments : List Bytes} (gives : Gives wishes invocation.values)
      (spells : Spells wishes none arguments) :
      Writes invocation (arguments ++ [Bytes.ofText "--", invocation.file])

/-! ### Timeouts -/

/-- **The timeouts that are read** are these. -/
theorem readTimeout_eq_ok_iff {text : Bytes} {seconds : Nat} : Values.readTimeout text = .ok seconds ↔
    Number.Counts text seconds ∧ 1 ≤ seconds ∧ seconds < 2 ^ 64 := by
  have numeral_iff : Number.readNumeral longestTimeout text = .ok seconds ↔
      Number.Counts text seconds ∧ seconds < 2 ^ 64 := by
    rw [Number.readNumeral_eq_ok_iff]
    exact and_congr_right' (Nat.lt_iff_le_pred (by decide)).symm
  unfold Values.readTimeout
  cases decoded : Text.Utf8.decode? text with
  | none =>
    refine iff_of_false nofun ?_
    rintro ⟨counts, _⟩
    obtain ⟨chars, rfl⟩ := counts.exists_encode
    have whole : Text.Utf8.decode? (Text.Utf8.encode chars) = some chars :=
      Text.Utf8.decode?_eq_some_iff.mpr (Text.Utf8.wellFormed_iff.mpr rfl)
    rw [decoded] at whole
    cases whole
  | some chars =>
    dsimp only
    cases numeral : Number.readNumeral longestTimeout text with
    | error fault =>
      rw [numeral] at numeral_iff
      refine iff_of_false nofun ?_
      rintro ⟨counts, _, bounded⟩
      cases numeral_iff.mpr ⟨counts, bounded⟩
    | ok value =>
      rw [numeral, Except.ok.injEq] at numeral_iff
      cases value with
      | zero =>
        refine iff_of_false nofun ?_
        rintro ⟨counts, positive, bounded⟩
        cases numeral_iff.mpr ⟨counts, bounded⟩
        cases positive
      | succ value =>
        show Except.ok (value + 1) = Except.ok seconds ↔ _
        rw [Except.ok.injEq, and_left_comm, ← numeral_iff]
        exact ⟨fun same => ⟨same ▸ Nat.succ_pos value, same⟩, And.right⟩

/-- The values after one more option. -/
def Values.take (values : Values) : Wish → Except UsageFault Values
  | .verbose =>
    if values.verbose then .error (.repeatedSwitch .verbose) else .ok { values with verbose := true }
  | .valued slot value => values.store slot value

/-- The values with one more in a slot that is no timeout. -/
def Values.put (values : Values) (slot : Slot) (value : Bytes) : Values :=
  match slot with
  | .file => { values with file? := some value }
  | .output => { values with output? := some value }
  | .toolDir => { values with toolDirs := values.toolDirs ++ [value] }
  | .runtime => { values with runtime? := some value }
  | .timeout => values
  | .tempDir => { values with tempDir? := some value }

/-- Paths are stored if there is room for them and they are not empty. -/
theorem Values.store_eq {values : Values} {slot : Slot} {value : Bytes}
    (room : values.isTaken slot = false) (path : slot ≠ .timeout) (nonempty : value ≠ []) :
    values.store slot value = .ok (values.put slot value) := by
  unfold Values.store
  rw [room, if_neg Bool.false_ne_true, if_neg path, if_neg nonempty]
  rfl

theorem given_verbose (slot : Slot) (wishes : List Wish) :
    given slot (wishes ++ [.verbose]) = given slot wishes := by
  simp [given]

theorem given_same (slot : Slot) (wishes : List Wish) (value : Bytes) :
    given slot (wishes ++ [.valued slot value]) = given slot wishes ++ [value] := by
  simp [given]

theorem given_other {slot slot' : Slot} (other : slot' ≠ slot) (wishes : List Wish) (value : Bytes) :
    given slot (wishes ++ [.valued slot' value]) = given slot wishes := by
  simp [given, other]

theorem count_valued (wishes : List Wish) (slot : Slot) (value : Bytes) :
    (wishes ++ [Wish.valued slot value]).count .verbose = wishes.count .verbose := by
  simp [List.count_append]

/-- An option that is given once is given for the first time. -/
theorem once {α β : Type} {R : α → β → Prop} {front : List α} {value : α} {kept? : Option β}
    (same : List.Forall₂ R (front ++ [value]) kept?.toList) :
    front = [] ∧ ∃ kept, kept? = some kept ∧ R value kept := by
  cases kept? with
  | none => cases (List.append_eq_nil_iff.mp (List.forall₂_nil_right_iff.mp same)).2
  | some kept =>
    obtain ⟨only, others, related, nothing, single⟩ := List.forall₂_cons_right_iff.mp same
    obtain rfl := List.forall₂_nil_right_iff.mp nothing
    have ends : front ++ [value] = [] ++ [only] := single
    obtain ⟨nothing, last⟩ := List.append_inj' ends rfl
    exact ⟨nothing, kept, rfl, (List.cons.inj last).1 ▸ related⟩

theorem eq_some_of_toList {α : Type} {front : List α} {value : α} {kept? : Option α}
    (same : front ++ [value] = kept?.toList) : front = [] ∧ kept? = some value := by
  rw [← List.forall₂_eq_eq_eq] at same
  obtain ⟨nothing, kept, rfl, rfl⟩ := once same
  exact ⟨nothing, rfl⟩

/-- The values before the last one in a slot. -/
def Values.before (values : Values) : Slot → Values
  | .file => { values with file? := .none }
  | .output => { values with output? := .none }
  | .toolDir => { values with toolDirs := values.toolDirs.dropLast }
  | .runtime => { values with runtime? := .none }
  | .timeout => { values with timeout? := .none }
  | .tempDir => { values with tempDir? := .none }

section Before

variable {values : Values} {slot slot' : Slot}

theorem Values.before_other (other : slot' ≠ slot) : (values.before slot).paths slot' = values.paths slot' := by
  cases slot <;> first | rfl | (cases slot' <;> first | rfl | exact absurd rfl other)

theorem Values.timeout_before (values : Values) (path : slot ≠ .timeout) :
    (values.before slot).timeout? = values.timeout? := by
  cases slot with
  | timeout => exact absurd rfl path
  | _ => rfl

theorem Values.verbose_before (values : Values) (slot : Slot) :
    (values.before slot).verbose = values.verbose := by
  cases slot <;> rfl

/-- **The last path of a slot is stored** after those before it. -/
theorem Values.before_last {front : List Bytes} {value : Bytes}
    (last : front ++ [value] = values.paths slot) (nonempty : value ≠ []) :
    (values.before slot).paths slot = front ∧ (values.before slot).store slot value = .ok values := by
  obtain ⟨file?, output?, verbose, toolDirs, runtime?, timeout?, tempDir?⟩ := values
  cases slot with
  | timeout => cases (List.append_eq_nil_iff.mp last).2
  | toolDir =>
    obtain rfl : front ++ [value] = toolDirs := last
    have rest : (front ++ [value]).dropLast = front := List.dropLast_concat
    refine ⟨rest, ?_⟩
    rw [Values.store_eq rfl (by decide) nonempty]
    unfold Values.put Values.before
    dsimp only
    rw [rest]
  | file | output | runtime | tempDir =>
    obtain ⟨rfl, rfl⟩ := eq_some_of_toList last
    exact ⟨rfl, Values.store_eq rfl (by decide) nonempty⟩

theorem Values.IsProper.before (proper : values.IsProper) (slot : Slot) : (values.before slot).IsProper := by
  constructor
  · intro slot' empty
    refine proper.paths slot' ?_
    by_cases other : slot' = slot
    · subst other
      cases slot' with
      | toolDir => exact List.mem_of_mem_dropLast empty
      | _ => cases empty
    · rwa [Values.before_other other] at empty
  · intro seconds kept
    by_cases timeout : slot = .timeout
    · subst timeout
      cases kept
    · rw [values.timeout_before timeout] at kept
      exact proper.timeout seconds kept

end Before

/-- **The last option gives what the values have more** than those that the options before it give. -/
theorem Gives.last {wishes : List Wish} {wish : Wish} {values : Values}
    (gives : Gives (wishes ++ [wish]) values) (proper : values.IsProper)
    (option : ∀ slot value, wish = .valued slot value → slot ∈ Slot.options) :
    ∃ earlier : Values, Gives wishes earlier ∧ earlier.IsProper ∧ earlier.file? = values.file? ∧
      earlier.take wish = .ok values := by
  obtain ⟨loud, paths, timeout⟩ := gives
  cases wish with
  | verbose =>
    simp only [given_verbose] at paths timeout
    rw [List.count_append, List.count_singleton_self] at loud
    obtain ⟨file?, output?, verbose, toolDirs, runtime?, timeout?, tempDir?⟩ := values
    cases verbose with
    | false => cases loud
    | true =>
      exact ⟨⟨file?, output?, false, toolDirs, runtime?, timeout?, tempDir?⟩,
        ⟨Nat.succ.inj loud, paths, timeout⟩, ⟨proper.paths, proper.timeout⟩, rfl, rfl⟩
  | valued slot value =>
    have isOption := option slot value rfl
    have others : ∀ other ∈ Slot.options, other ≠ .timeout → other ≠ slot →
        given other wishes = (values.before slot).paths other := by
      intro other isOption' path different
      rw [Values.before_other different, ← paths other isOption' path, given_other (Ne.symm different)]
    have file_eq : (values.before slot).file? = values.file? := by
      cases slot <;> first | rfl | exact absurd isOption (by decide)
    rw [count_valued, ← values.verbose_before slot] at loud
    by_cases timed : slot = .timeout
    · subst timed
      rw [given_same] at timeout
      obtain ⟨nothing, seconds, seconds_eq, counts⟩ := once timeout
      obtain ⟨positive, bounded⟩ := proper.timeout seconds seconds_eq
      refine ⟨values.before .timeout, ⟨loud, fun other isOption' path => others other isOption' path path,
        nothing ▸ .nil⟩, proper.before .timeout, file_eq, ?_⟩
      show (Values.readTimeout value).map _ = _
      rw [readTimeout_eq_ok_iff.mpr ⟨counts, positive, bounded⟩]
      show Except.ok { values with timeout? := some seconds } = _
      rw [← seconds_eq]
    · have last := paths slot isOption timed
      rw [given_same] at last
      rw [given_other timed] at timeout
      have nonempty : value ≠ [] := by
        rintro rfl
        exact proper.paths slot (last ▸ List.mem_append_right _ List.mem_cons_self)
      obtain ⟨front, stored⟩ := Values.before_last last nonempty
      refine ⟨values.before slot, ⟨loud, fun other isOption' path => ?_, ?_⟩, proper.before slot, file_eq,
        stored⟩
      · by_cases same : other = slot
        · rw [same, front]
        · exact others other isOption' path same
      · rwa [values.timeout_before timed]

/-- Without options there are no values. -/
theorem Gives.eq_none {values : Values} (gives : Gives [] values) (missing : values.file? = none) :
    values = Values.none := by
  obtain ⟨file?, output?, verbose, toolDirs, runtime?, timeout?, tempDir?⟩ := values
  obtain ⟨loud, paths, timeout⟩ := gives
  have unset {α : Type} {kept? : Option α} (nothing : [] = kept?.toList) : kept? = none :=
    Option.toList_eq_nil_iff.mp nothing.symm
  obtain rfl := unset (paths .output (by decide) (by decide))
  obtain rfl := unset (paths .runtime (by decide) (by decide))
  obtain rfl := unset (paths .tempDir (by decide) (by decide))
  obtain rfl := unset (List.forall₂_nil_left_iff.mp timeout).symm
  obtain rfl : [] = toolDirs := paths .toolDir (by decide) (by decide)
  cases verbose with
  | true => cases loud
  | false =>
    cases missing
    rfl

/-- Options give no source file. -/
theorem Gives.withoutFile {wishes : List Wish} {values : Values} (gives : Gives wishes values) :
    Gives wishes (values.before .file) := by
  refine ⟨gives.verbose, fun slot option path => ?_, gives.timeout⟩
  have other : slot ≠ .file := by
    rintro rfl
    exact absurd option (by decide)
  rw [Values.before_other other]
  exact gives.paths slot option path

/-- The source file is stored behind the other values. -/
theorem Values.IsProper.store_file {values : Values} (proper : values.IsProper) {file : Bytes}
    (file_eq : values.file? = some file) : (values.before .file).store .file file = .ok values := by
  have only : [] ++ [file] = values.paths .file := by
    show [file] = values.file?.toList
    rw [file_eq]
    rfl
  have nonempty : file ≠ [] := by
    rintro rfl
    exact proper.paths .file (only ▸ List.mem_cons_self)
  exact (Values.before_last only nonempty).2

/-! ### One argument -/

namespace Reader

variable {reader : Reader} {values values' : Values} {fileGiven : Bool} {slot : Slot} {value : Bytes}

/-- What is between two options: what has been read is kept, or still has to be checked, but is in order.
-/
structure Holds (reader : Reader) (values : Values) (fileGiven : Bool) : Prop where
  open_ : reader.literal = false
  complete : reader.IsComplete
  settle : reader.settle = .ok ⟨values, .nothing, false, fileGiven⟩

theorem holds_settled (values : Values) (fileGiven : Bool) :
    Holds ⟨values, .nothing, false, fileGiven⟩ values fileGiven := ⟨rfl, nofun, rfl⟩

theorem holds_given (stored : values.store slot value = .ok values') :
    Holds ⟨values, .given slot value, false, fileGiven⟩ values' fileGiven := by
  refine ⟨rfl, nofun, ?_⟩
  unfold settle
  dsimp only
  rw [stored]

/-- The names of options are known, and have no equals sign. -/
theorem named (option : slot ∈ Slot.options) :
    Key.named? (Bytes.ofText slot.name) = some (.slot slot) ∧ equals ∉ Bytes.ofText slot.name ∧
      Bytes.ofText slot.name ≠ [] ∧ slot.flag = dash :: dash :: Bytes.ofText slot.name := by
  revert slot
  decide

theorem step_long {body : Bytes} (open_ : reader.literal = false) (nonempty : body ≠ []) :
    reader.step (dash :: dash :: body) = reader.long body := by
  unfold step
  rw [open_]
  simp [nonempty]

theorem step_plain {argument : Bytes} (open_ : reader.literal = false) (plain : IsPlain argument) :
    reader.step argument = reader.plain argument := by
  unfold step
  rw [open_, if_neg Bool.false_ne_true]
  split
  · rename_i first second body
    have other : first ≠ dash := fun same => plain (congrArg some same)
    simp [other]
  · rfl

/-- The name of an option ends where its value begins. -/
theorem takeWhile_name {name rest : Bytes} (free : equals ∉ name)
    (ends : ∀ byte ∈ rest.head?, byte = equals) : (name ++ rest).takeWhile (· != equals) = name := by
  have inside : ∀ byte ∈ name, (byte != equals) = true :=
    fun byte member => bne_iff_ne.mpr fun same => free (same ▸ member)
  rw [List.takeWhile_append_of_pos inside]
  cases rest with
  | nil => exact List.append_nil name
  | cons byte rest =>
    rw [List.takeWhile_cons_of_neg (by simp [ends byte rfl])]
    exact List.append_nil name

theorem step_flag (open_ : reader.literal = false) (option : slot ∈ Slot.options) :
    reader.step slot.flag = reader.await slot := by
  obtain ⟨known, free, nonempty, flag⟩ := named option
  have name : (Bytes.ofText slot.name ++ []).takeWhile (· != equals) = Bytes.ofText slot.name :=
    takeWhile_name free nofun
  rw [List.append_nil] at name
  rw [flag, step_long open_ nonempty]
  unfold long
  dsimp only
  rw [name, known]
  simp

theorem step_attached (open_ : reader.literal = false) (option : slot ∈ Slot.options) (value : Bytes) :
    reader.step (slot.flag ++ equals :: value) = reader.attach slot value := by
  obtain ⟨known, free, nonempty, flag⟩ := named option
  have name : (Bytes.ofText slot.name ++ equals :: value).takeWhile (· != equals)
      = Bytes.ofText slot.name := takeWhile_name free fun byte head => (Option.some.inj head).symm
  rw [flag, List.cons_append, List.cons_append, step_long open_ (by simp)]
  unfold long
  dsimp only
  rw [name, known]
  simp

theorem step_letter (open_ : reader.literal = false) :
    reader.step (Bytes.ofText "-o") = reader.await .output := by
  unfold step
  rw [open_]
  rfl

/-! ### One option -/

/-- An option and its value in two arguments. -/
theorem Holds.separate (holds : reader.Holds values fileGiven) {name : Bytes}
    (awaits : reader.step name = reader.await slot) (plain : IsPlain value)
    (stored : values.store slot value = .ok values') :
    ∃ reader', [name, value].foldlM step reader = .ok reader' ∧ reader'.Holds values' fileGiven := by
  refine ⟨⟨values, .given slot value, false, fileGiven⟩, ?_, holds_given stored⟩
  have awaited : reader.step name = .ok ⟨values, .awaiting slot, false, fileGiven⟩ := by
    rw [awaits]
    unfold await
    rw [holds.settle]
    rfl
  have given_ : step ⟨values, .awaiting slot, false, fileGiven⟩ value
      = .ok ⟨values, .given slot value, false, fileGiven⟩ := step_plain rfl plain
  rw [List.foldlM_cons, awaited]
  show [value].foldlM step _ = _
  rw [List.foldlM_cons, given_]
  rfl

/-- **One more option**: its value is stored, or will be. -/
theorem Holds.spelled (holds : reader.Holds values fileGiven) {wish : Wish} {words : List Bytes}
    (spelled : wish.Spelled words) (taken : values.take wish = .ok values') :
    ∃ reader', words.foldlM step reader = .ok reader' ∧ reader'.Holds values' fileGiven := by
  cases spelled with
  | verbose =>
    refine ⟨⟨values', .nothing, false, fileGiven⟩, ?_, holds_settled values' fileGiven⟩
    have turned : reader.step verboseArgument = .ok ⟨values', .nothing, false, fileGiven⟩ := by
      rw [step_verboseArgument holds.open_, holds.settle]
      change (if values.verbose = true then _ else _) = _ at taken
      dsimp only
      split at taken
      · cases taken
      · cases taken
        exact if_neg ‹_›
    rw [List.foldlM_cons, turned]
    rfl
  | separate option plain => exact holds.separate (step_flag holds.open_ option) plain taken
  | short plain => exact holds.separate (step_letter holds.open_) plain taken
  | @attached slot option value =>
    refine ⟨⟨values', .nothing, false, fileGiven⟩, ?_, holds_settled values' fileGiven⟩
    rw [List.foldlM_cons, step_attached holds.open_ option]
    unfold attach
    rw [holds.settle]
    show (Reader.settle ⟨values, .given slot value, false, fileGiven⟩ >>= _) = _
    rw [(holds_given taken).settle]
    rfl

/-- The source file. -/
theorem Holds.file (holds : reader.Holds values false) {file : Bytes} (plain : IsPlain file)
    (stored : values.store .file file = .ok values') :
    ∃ reader', reader.step file = .ok reader' ∧ reader'.Holds values' true := by
  refine ⟨⟨values, .given .file file, false, true⟩, ?_, holds_given stored⟩
  have missing : reader.fileGiven = false := (settles_of_ok holds.settle).fileGiven.symm
  rw [step_plain holds.open_ plain, plain_complete holds.complete]
  unfold positional
  rw [missing, holds.settle]
  rfl

/-- The source file after the argument that ends the options. -/
theorem Holds.last (holds : reader.Holds values false) {file : Bytes}
    (stored : values.store .file file = .ok values') :
    ∃ reader', [Bytes.ofText "--", file].foldlM step reader = .ok reader' ∧
      reader'.settle = .ok ⟨values', .nothing, true, true⟩ := by
  have ends : reader.step (Bytes.ofText "--") = .ok { reader with literal := true } := by
    unfold step
    rw [holds.open_]
    rfl
  have given_ : step { reader with literal := true } file = .ok ⟨values, .given .file file, true, true⟩ := by
    have missing : reader.fileGiven = false := (settles_of_ok holds.settle).fileGiven.symm
    show positional { reader with literal := true } file = _
    unfold positional
    rw [settle_literal, holds.settle]
    show (if reader.fileGiven = true then _ else _) = _
    rw [missing]
    rfl
  refine ⟨⟨values, .given .file file, true, true⟩, ?_, ?_⟩
  · rw [List.foldlM_cons, ends]
    show [file].foldlM step _ = _
    rw [List.foldlM_cons, given_]
    rfl
  · unfold Reader.settle
    dsimp only
    rw [stored]

end Reader

/-! ### All arguments -/

theorem Wish.Spelled.option {wish : Wish} {words : List Bytes} (spelled : wish.Spelled words)
    (slot : Slot) (value : Bytes) (same : wish = .valued slot value) : slot ∈ Slot.options := by
  cases spelled with
  | verbose => cases same
  | separate option =>
    cases same
    exact option
  | attached option =>
    cases same
    exact option
  | short =>
    cases same
    decide

/-- **What is spelled is read**, by induction on the arguments from the last one backwards: the values
that the earlier ones give are told by what the last one adds. -/
theorem Spells.holds {wishes : List Wish} {file? : Option Bytes} {arguments : List Bytes}
    (spells : Spells wishes file? arguments) {values : Values} (gives : Gives wishes values)
    (proper : values.IsProper) (file_eq : values.file? = file?) :
    ∃ reader, arguments.foldlM Reader.step Reader.start = .ok reader ∧
      reader.Holds values file?.isSome := by
  induction spells generalizing values with
  | nothing =>
    rw [gives.eq_none file_eq]
    exact ⟨Reader.start, rfl, Reader.holds_settled .none false⟩
  | more before spelled ih =>
    obtain ⟨earlier, gives', proper', file_eq', taken⟩ := gives.last proper spelled.option
    obtain ⟨reader, reads, holds⟩ := ih gives' proper' (file_eq'.trans file_eq)
    obtain ⟨reader', reads', holds'⟩ := holds.spelled spelled taken
    refine ⟨reader', ?_, holds'⟩
    rw [List.foldlM_append, reads]
    exact reads'
  | @file wishes arguments before file plain ih =>
    obtain ⟨reader, reads, holds⟩ := ih gives.withoutFile (proper.before .file) rfl
    obtain ⟨reader', reads', holds'⟩ := holds.file plain (proper.store_file file_eq)
    refine ⟨reader', ?_, holds'⟩
    rw [List.foldlM_append, reads]
    show (reader.step file >>= _) = _
    rw [reads']
    rfl

/-! ### Texts that are no timeouts -/

namespace Reader

variable {reader : Reader}

end Reader

/-! ### What is read -/

/-- **An invocation that is written is read.** -/
theorem Writes.read {invocation : Invocation} {arguments : List Bytes}
    (writes : Writes invocation arguments) (proper : invocation.values.IsProper) :
    CommandLine.read arguments = .ok invocation := by
  cases writes with
  | among gives spells =>
    obtain ⟨reader, reads, holds⟩ := spells.holds gives proper rfl
    show (arguments.foldlM Reader.step Reader.start >>= Reader.finish) = _
    rw [reads]
    show reader.finish = _
    rw [Reader.finish_eq, holds.settle]
    rfl
  | @last wishes arguments gives spells =>
    obtain ⟨reader, reads, holds⟩ := spells.holds gives.withoutFile (proper.before .file) rfl
    obtain ⟨reader', reads', settles⟩ := holds.last (proper.store_file rfl)
    show ((arguments ++ [Bytes.ofText "--", invocation.file]).foldlM Reader.step Reader.start
      >>= Reader.finish) = _
    rw [List.foldlM_append, reads]
    show ([Bytes.ofText "--", invocation.file].foldlM Reader.step reader >>= Reader.finish) = _
    rw [reads']
    show reader'.finish = _
    rw [Reader.finish_eq, settles]
    rfl

end CalcBuild.CommandLine

/-
**One option more or less on a command line.**

The option `--verbose` may stand between any two arguments of which the first does not wait for the
second. It changes nothing but itself: a command line with it says what the same one without it says, and
every command line that has it is of this kind.

* `Reader.withVerbose`: the machine with the option read or not;
* `Reader.step_withVerbose`: any other argument is read in the same way;
* `Reader.Settles`: a value that was given is checked now or later;
* `MayStand`: where the option may stand;
* `Reader.outcome?_insert`, `Reader.outcome?_split`: what the option changes, and where it comes from.
-/

import CalcBuild.CommandLine.Arguments
import Mathlib

namespace CalcBuild.CommandLine

/-- The option as an argument. -/
def verboseArgument : Bytes := Bytes.ofText "--verbose"

/-! ### The option is kept apart from the values -/

/-- The values with the option set or not. -/
def Values.withVerbose (values : Values) (verbose : Bool) : Values := { values with verbose }

/-- **Values are stored in the same way** with the option and without it. -/
theorem Values.store_withVerbose (values : Values) (verbose : Bool) (slot : Slot) (value : Bytes) :
    (values.withVerbose verbose).store slot value
      = (values.store slot value).map (·.withVerbose verbose) := by
  have taken : (values.withVerbose verbose).isTaken slot = values.isTaken slot := by cases slot <;> rfl
  unfold store
  rw [taken]
  split
  · rfl
  split
  · cases readTimeout value <;> rfl
  split
  · rfl
  · cases slot <;> rfl

theorem Values.invocation_withVerbose (values : Values) (verbose : Bool) :
    (values.withVerbose verbose).invocation
      = values.invocation.map fun invocation => { invocation with verbose } := by
  obtain ⟨file?, _⟩ := values
  cases file? <;> rfl

namespace Reader

/-- The machine with the option read or not. -/
def withVerbose (reader : Reader) (verbose : Bool) : Reader :=
  { reader with values := reader.values.withVerbose verbose }

variable (reader : Reader) (verbose : Bool)

theorem withVerbose_self : reader.withVerbose reader.values.verbose = reader := rfl

theorem settle_withVerbose :
    (reader.withVerbose verbose).settle = reader.settle.map (·.withVerbose verbose) := by
  unfold settle
  cases pending : reader.pending with
  | nothing => simp only [withVerbose, pending, Except.map]
  | awaiting slot => simp only [withVerbose, pending, Except.map]
  | given slot value =>
    simp only [withVerbose, pending, Values.store_withVerbose]
    cases reader.values.store slot value <;> rfl

theorem await_withVerbose (slot : Slot) :
    (reader.withVerbose verbose).await slot = (reader.await slot).map (·.withVerbose verbose) := by
  unfold await
  rw [settle_withVerbose]
  cases reader.settle <;> rfl

theorem attach_withVerbose (slot : Slot) (value : Bytes) :
    (reader.withVerbose verbose).attach slot value
      = (reader.attach slot value).map (·.withVerbose verbose) := by
  unfold attach
  rw [settle_withVerbose]
  cases reader.settle with
  | error stop => rfl
  | ok settled => exact settle_withVerbose { settled with pending := .given slot value } verbose

theorem turn_withVerbose {switch : Switch} (other : switch ≠ .verbose) :
    (reader.withVerbose verbose).turn switch = (reader.turn switch).map (·.withVerbose verbose) := by
  unfold turn
  rw [settle_withVerbose]
  cases reader.settle with
  | error stop => rfl
  | ok settled =>
    cases switch with
    | verbose => exact absurd rfl other
    | _ => rfl

theorem positional_withVerbose (argument : Bytes) :
    (reader.withVerbose verbose).positional argument
      = (reader.positional argument).map (·.withVerbose verbose) := by
  unfold positional
  rw [settle_withVerbose]
  change (if reader.fileGiven = true then _ else _) = _
  split
  · rfl
  · cases reader.settle <;> rfl

theorem plain_withVerbose (argument : Bytes) :
    (reader.withVerbose verbose).plain argument
      = (reader.plain argument).map (·.withVerbose verbose) := by
  have same : (reader.withVerbose verbose).pending = reader.pending := rfl
  unfold plain
  rw [same]
  cases reader.pending with
  | awaiting slot => rfl
  | _ => exact positional_withVerbose reader verbose argument

theorem short_withVerbose (body : Bytes) :
    (reader.withVerbose verbose).short body = (reader.short body).map (·.withVerbose verbose) := by
  have lettered {letter : Char} {switch : Switch}
      (names : Key.lettered? letter = some (.switch switch)) : switch ≠ .verbose := by
    unfold Key.lettered? at names
    split at names <;> cases names <;> decide
  unfold short
  split
  · split
    · rfl
    · exact turn_withVerbose reader verbose (lettered ‹_›)
    · split
      · exact await_withVerbose ..
      · exact attach_withVerbose ..
  · rfl

/-- The long option that stands alone and is `--verbose`. -/
theorem named?_verbose {name : Bytes} (names : Key.named? name = some (.switch .verbose)) :
    name = Bytes.ofText "verbose" := by
  have same := List.find?_some names
  exact (eq_of_beq same).symm

theorem long_withVerbose {body : Bytes} (other : body ≠ Bytes.ofText "verbose") :
    (reader.withVerbose verbose).long body = (reader.long body).map (·.withVerbose verbose) := by
  unfold long
  dsimp only
  split
  · rfl
  · exact await_withVerbose ..
  · exact attach_withVerbose ..
  · rename_i switch names none_
    refine turn_withVerbose reader verbose ?_
    rintro rfl
    have whole : (body.takeWhile (· != equals)).length = body.length := by
      by_contra shorter
      rw [if_neg shorter] at none_
      cases none_
    have same := (List.takeWhile_prefix (· != equals)).eq_of_length whole
    exact other (same ▸ named?_verbose names)
  · rfl

/-- **Every argument but the option itself is read in the same way** with the option and without it. -/
theorem step_withVerbose {argument : Bytes}
    (other : reader.literal = false → argument ≠ verboseArgument) :
    (reader.withVerbose verbose).step argument = (reader.step argument).map (·.withVerbose verbose) := by
  unfold step
  change (if reader.literal = true then _ else _) = _
  split
  · exact positional_withVerbose ..
  · rename_i open_
    split
    · rename_i first second body
      split
      · rename_i dashes
        split
        · rfl
        · refine long_withVerbose reader verbose ?_
          rintro rfl
          simp only [Bool.and_eq_true, decide_eq_true_eq] at dashes
          exact other (by simpa using open_) (by rw [dashes.1, dashes.2]; rfl)
      · split
        · exact short_withVerbose ..
        · exact plain_withVerbose ..
    · exact plain_withVerbose ..

/-! ### The option itself -/

/-- Every argument but the option leaves it as it is. -/
theorem verbose_step {argument : Bytes} {reader reader' : Reader}
    (other : reader.literal = false → argument ≠ verboseArgument)
    (steps : reader.step argument = .ok reader') : reader'.values.verbose = reader.values.verbose := by
  have same := step_withVerbose reader reader.values.verbose other
  rw [withVerbose_self, steps] at same
  have kept : reader' = reader'.withVerbose reader.values.verbose := Except.ok.inj same
  rw [kept]
  rfl

theorem step_verboseArgument {reader : Reader} (open_ : reader.literal = false) :
    reader.step verboseArgument = match reader.settle with
      | .error stop => .error stop
      | .ok settled => if settled.values.verbose then .error (.fault (.repeatedSwitch .verbose))
        else .ok (settled.withVerbose true) := by
  have turns : reader.step verboseArgument = reader.turn .verbose := by
    unfold step
    rw [open_]
    rfl
  rw [turns]
  unfold turn
  cases reader.settle <;> rfl

/-! ### What was given is checked now or later -/

section Complete

variable {reader reader' settled : Reader}

/-- What is left to check is no option that waits for its value. -/
def IsComplete (reader : Reader) : Prop := ∀ slot, reader.pending ≠ .awaiting slot

/-- What settling leaves. -/
structure Settles (reader settled : Reader) : Prop where
  settle : reader.settle = .ok settled
  again : settled.settle = .ok settled
  complete : settled.IsComplete
  literal : settled.literal = reader.literal
  fileGiven : settled.fileGiven = reader.fileGiven
  verbose : settled.values.verbose = reader.values.verbose

theorem settles_of_ok (settles : reader.settle = .ok settled) : reader.Settles settled := by
  have verbose : settled.values.verbose = reader.values.verbose := by
    have same := settle_withVerbose reader reader.values.verbose
    rw [withVerbose_self, settles] at same
    have kept : settled = settled.withVerbose reader.values.verbose := Except.ok.inj same
    rw [kept]
    rfl
  refine ⟨settles, ?_, ?_, ?_, ?_, verbose⟩
  all_goals
    unfold settle at settles
    cases pending : reader.pending with
    | nothing =>
      rw [pending] at settles
      cases settles
      simp [settle, IsComplete, pending]
    | awaiting slot =>
      rw [pending] at settles
      cases settles
    | given slot value =>
      rw [pending] at settles
      dsimp only at settles
      split at settles
      · cases settles
      · cases settles
        simp [settle, IsComplete]

theorem settle_literal (reader : Reader) : Reader.settle { reader with literal := true }
    = reader.settle.map fun settled => { settled with literal := true } := by
  obtain ⟨values, pending, literal, fileGiven⟩ := reader
  cases pending with
  | nothing => rfl
  | awaiting slot => rfl
  | given slot value =>
    unfold settle
    dsimp only
    cases values.store slot value <;> rfl

theorem plain_complete (complete : reader.IsComplete) (argument : Bytes) :
    reader.plain argument = reader.positional argument := by
  unfold plain
  split
  · exact absurd ‹_› (complete _)
  · rfl

/-- **Machines that settle in the same way** read an argument in the same way, unless it only says that
options have ended. -/
theorem step_congr (settles : reader.settle = reader'.settle) (literal : reader.literal = reader'.literal)
    (fileGiven : reader.fileGiven = reader'.fileGiven) (complete : reader.IsComplete)
    (complete' : reader'.IsComplete) (argument : Bytes) :
    reader.step argument = reader'.step argument ∨
      reader.step argument = .ok { reader with literal := true } ∧
        reader'.step argument = .ok { reader' with literal := true } := by
  have positional : reader.positional argument = reader'.positional argument := by
    unfold Reader.positional
    rw [fileGiven, settles]
  unfold step
  rw [← literal]
  split
  · exact .inl positional
  split
  · split
    · split
      · exact .inr ⟨rfl, rfl⟩
      · refine .inl ?_
        unfold long await attach turn
        rw [settles]
    · split
      · refine .inl ?_
        unfold short await attach turn
        rw [settles]
      · rw [plain_complete complete, plain_complete complete', positional]
        exact .inl rfl
  · rw [plain_complete complete, plain_complete complete', positional]
    exact .inl rfl

/-- Only a fault keeps a machine from settling. -/
theorem settle_fault {stop : Stop} (fails : reader.settle = .error stop) :
    ∃ fault, stop = .fault fault := by
  unfold settle at fails
  split at fails
  · cases fails
  · cases fails
    exact ⟨_, rfl⟩
  · split at fails
    · cases fails
      exact ⟨_, rfl⟩
    · cases fails

/-- **A machine that cannot settle** reads no argument, unless the argument says that options have ended
or is the value that the last option waits for. -/
theorem step_error {fault : UsageFault} (fails : reader.settle = .error (.fault fault))
    (argument : Bytes) :
    (∃ fault, reader.step argument = .error (.fault fault)) ∨
      reader.step argument = .ok { reader with literal := true } ∨
      ∃ slot, reader.pending = .awaiting slot ∧ reader.literal = false ∧
        reader.step argument = .ok { reader with pending := .given slot argument } := by
  have positional : ∃ fault, reader.positional argument = .error (.fault fault) := by
    unfold Reader.positional
    rw [fails]
    split <;> exact ⟨_, rfl⟩
  have plain (open_ : reader.literal = false) :
      (∃ fault, reader.plain argument = .error (.fault fault)) ∨
        ∃ slot, reader.pending = .awaiting slot ∧ reader.literal = false ∧
          reader.plain argument = .ok { reader with pending := .given slot argument } := by
    unfold Reader.plain
    split
    · exact .inr ⟨_, ‹_›, open_, rfl⟩
    · exact .inl positional
  unfold step
  split
  · exact .inl positional
  have open_ : reader.literal = false := by simpa using ‹¬ reader.literal = true›
  split
  · split
    · split
      · exact .inr (.inl rfl)
      · refine .inl ?_
        unfold long await attach turn
        rw [fails]
        dsimp only
        split <;> exact ⟨_, rfl⟩
    · split
      · refine .inl ?_
        unfold short await attach turn
        rw [fails]
        split
        · split
          · exact ⟨_, rfl⟩
          · exact ⟨_, rfl⟩
          · split <;> exact ⟨_, rfl⟩
        · exact ⟨_, rfl⟩
      · exact (plain open_).imp_right .inr
  · exact (plain open_).imp_right .inr

end Complete

/-! ### What is read in the end -/

section Outcome

variable {reader reader' : Reader}

/-- The invocation that the rest of the arguments leads to, if it leads to one. -/
def outcome? (reader : Reader) (arguments : List Bytes) : Option Invocation :=
  (arguments.foldlM step reader >>= finish).toOption

theorem outcome?_nil : reader.outcome? [] = reader.finish.toOption := rfl

theorem outcome?_cons (argument : Bytes) (arguments : List Bytes) :
    reader.outcome? (argument :: arguments) = match reader.step argument with
      | .ok next => next.outcome? arguments
      | .error _ => none := by
  unfold outcome?
  rw [List.foldlM_cons]
  cases reader.step argument <;> rfl

theorem outcome?_nil_eq_some_iff {invocation : Invocation} :
    reader.outcome? [] = some invocation ↔ reader.finish = .ok invocation := by
  rw [outcome?_nil]
  cases reader.finish <;> simp [Except.toOption]

theorem outcome?_cons_eq_some_iff {argument : Bytes} {arguments : List Bytes}
    {invocation : Invocation} :
    reader.outcome? (argument :: arguments) = some invocation ↔
      ∃ next, reader.step argument = .ok next ∧ next.outcome? arguments = some invocation := by
  rw [outcome?_cons]
  cases reader.step argument <;> simp

theorem outcome?_append {before : List Bytes} (reads : before.foldlM step reader = .ok reader')
    (arguments : List Bytes) : reader.outcome? (before ++ arguments) = reader'.outcome? arguments := by
  unfold outcome?
  rw [List.foldlM_append, reads]
  rfl

/-- Whether options have ended does not matter for what is left to check. -/
theorem settle_literal_congr (settles : reader.settle = reader'.settle) :
    Reader.settle { reader with literal := true } = Reader.settle { reader' with literal := true } := by
  rw [settle_literal, settle_literal, settles]

/-- **Machines that settle in the same way** come to the same. -/
theorem outcome?_congr (settles : reader.settle = reader'.settle)
    (literal : reader.literal = reader'.literal) (fileGiven : reader.fileGiven = reader'.fileGiven)
    (complete : reader.IsComplete) (complete' : reader'.IsComplete) (arguments : List Bytes) :
    reader.outcome? arguments = reader'.outcome? arguments := by
  induction arguments generalizing reader reader' with
  | nil =>
    rw [outcome?_nil, outcome?_nil]
    unfold finish
    rw [settles]
  | cons argument arguments ih =>
    rw [outcome?_cons, outcome?_cons]
    rcases step_congr settles literal fileGiven complete complete' argument with same | ⟨left, right⟩
    · rw [same]
    · rw [left, right]
      exact ih (settle_literal_congr settles) rfl fileGiven complete complete'

/-- **A machine that cannot settle comes to nothing**: every list of arguments ends in a fault. -/
theorem fails_of_settle {fault : UsageFault} (fails : reader.settle = .error (.fault fault))
    (complete : reader.literal = true ∨ reader.IsComplete) (arguments : List Bytes) :
    ∃ fault, arguments.foldlM step reader >>= finish = .error (.fault fault) := by
  induction arguments generalizing reader with
  | nil =>
    refine ⟨fault, ?_⟩
    show reader.finish = _
    unfold finish
    rw [fails]
    rfl
  | cons argument arguments ih =>
    rw [List.foldlM_cons]
    rcases step_error fails argument with ⟨fault, steps⟩ | steps | ⟨slot, awaits, open_, _⟩
    · rw [steps]
      exact ⟨fault, rfl⟩
    · rw [steps]
      refine ih ?_ (.inl rfl)
      rw [settle_literal, fails]
      rfl
    · rcases complete with literal | complete
      · cases literal.symm.trans open_
      · exact absurd awaits (complete slot)

/-- A value that cannot be kept leads to nothing. -/
theorem outcome?_error {stop : Stop} (fails : reader.settle = .error stop)
    (complete : reader.IsComplete) (arguments : List Bytes) : reader.outcome? arguments = none := by
  obtain ⟨fault, rfl⟩ := settle_fault fails
  obtain ⟨fault, fails⟩ := fails_of_settle fails (.inr complete) arguments
  unfold outcome?
  rw [fails]
  rfl

/-- Settling first changes nothing. -/
theorem Settles.outcome? {settled : Reader} (settles : reader.Settles settled)
    (complete : reader.IsComplete) (arguments : List Bytes) :
    reader.outcome? arguments = settled.outcome? arguments :=
  outcome?_congr (settles.settle.trans settles.again.symm) settles.literal.symm
    settles.fileGiven.symm complete settles.complete arguments

theorem finish_eq (reader : Reader) : reader.finish = match reader.settle with
    | .error stop => .error stop
    | .ok settled => match settled.values.invocation with
      | .error fault => .error (.fault fault)
      | .ok invocation => .ok invocation := by
  unfold finish
  cases reader.settle <;> rfl

theorem finish_withVerbose (reader : Reader) (verbose : Bool) :
    (reader.withVerbose verbose).finish = reader.finish.map fun invocation =>
      { invocation with verbose } := by
  rw [finish_eq, finish_eq, settle_withVerbose]
  cases reader.settle with
  | error stop => rfl
  | ok settled =>
    have values : (settled.withVerbose verbose).values.invocation = _ :=
      settled.values.invocation_withVerbose verbose
    dsimp only [Except.map]
    rw [values]
    cases settled.values.invocation <;> rfl

theorem finish_verbose {invocation : Invocation} (finishes : reader.finish = .ok invocation) :
    invocation.verbose = reader.values.verbose := by
  have same := finish_withVerbose reader reader.values.verbose
  rw [withVerbose_self, finishes] at same
  have kept : invocation = { invocation with verbose := reader.values.verbose } :=
    Except.ok.inj same
  rw [kept]

/-- Once the option is read it is in what is read in the end. -/
theorem outcome?_verbose {arguments : List Bytes} {invocation : Invocation}
    (reads : reader.outcome? arguments = some invocation) (verbose : reader.values.verbose = true) :
    invocation.verbose = true := by
  induction arguments generalizing reader with
  | nil =>
    rw [finish_verbose (outcome?_nil_eq_some_iff.mp reads), verbose]
  | cons argument arguments ih =>
    obtain ⟨next, steps, reads⟩ := outcome?_cons_eq_some_iff.mp reads
    refine ih reads ?_
    by_cases other : reader.literal = false → argument ≠ verboseArgument
    · rw [verbose_step other steps, verbose]
    · push Not at other
      obtain ⟨open_, rfl⟩ := other
      rw [step_verboseArgument open_] at steps
      split at steps
      · cases steps
      · split at steps
        · cases steps
        · cases steps
          rfl

/-- **The option changes nothing but itself** in what is read after it. -/
theorem outcome?_withVerbose (quiet : reader.values.verbose = false) (arguments : List Bytes)
    (loud : Invocation) :
    (reader.withVerbose true).outcome? arguments = some loud ↔ ∃ plain,
      reader.outcome? arguments = some plain ∧ plain.verbose = false ∧
        loud = { plain with verbose := true } := by
  induction arguments generalizing reader with
  | nil =>
    rw [outcome?_nil, outcome?_nil, finish_withVerbose]
    cases finishes : reader.finish with
    | error stop => simp [Except.map, Except.toOption]
    | ok plain =>
      constructor
      · rintro ⟨⟩
        exact ⟨plain, rfl, (finish_verbose finishes).trans quiet, rfl⟩
      · rintro ⟨_, ⟨⟩, -, rfl⟩
        rfl
  | cons argument arguments ih =>
    rw [outcome?_cons, outcome?_cons]
    by_cases other : reader.literal = false → argument ≠ verboseArgument
    · rw [step_withVerbose reader true other]
      cases steps : reader.step argument with
      | error stop => simp [Except.map]
      | ok next => exact ih ((verbose_step other steps).trans quiet)
    · push Not at other
      obtain ⟨open_, rfl⟩ := other
      have again : (reader.withVerbose true).step verboseArgument = _ := step_verboseArgument open_
      rw [again, step_verboseArgument open_, settle_withVerbose]
      cases settles : reader.settle with
      | error stop => simp [Except.map]
      | ok settled =>
        have unset : settled.values.verbose = false := (settles_of_ok settles).verbose.trans quiet
        -- the option is refused the second time, and without the first one it stays set
        refine iff_of_false nofun ?_
        rintro ⟨plain, reads, still, -⟩
        dsimp only at reads
        rw [unset] at reads
        cases still.symm.trans (outcome?_verbose reads rfl)

/-- The option in front of other arguments. -/
theorem outcome?_insert (open_ : reader.literal = false) (complete : reader.IsComplete)
    (arguments : List Bytes) (loud : Invocation) :
    reader.outcome? (verboseArgument :: arguments) = some loud ↔ ∃ plain,
      reader.outcome? arguments = some plain ∧ plain.verbose = false ∧
        loud = { plain with verbose := true } := by
  rw [outcome?_cons, step_verboseArgument open_]
  cases settle : reader.settle with
  | error stop => simp [outcome?_error settle complete]
  | ok settled =>
    have settles := settles_of_ok settle
    rw [settles.outcome? complete]
    dsimp only
    cases verbose : settled.values.verbose with
    | false => exact outcome?_withVerbose verbose arguments loud
    | true =>
      refine iff_of_false nofun ?_
      rintro ⟨plain, reads, still, -⟩
      cases still.symm.trans (outcome?_verbose reads verbose)

end Outcome

end Reader

/-! ### Command lines -/

/-- The option may stand after these arguments: they can be read, options have not ended, and none waits
for its value. -/
def MayStand (before : List Bytes) : Prop :=
  ∃ reader, before.foldlM Reader.step Reader.start = .ok reader ∧ reader.literal = false ∧
    reader.IsComplete

/-- Two command lines of which the second has the option in addition, where it may stand. -/
def Differ (quiet loud : List Bytes) : Prop :=
  ∃ before after, MayStand before ∧ quiet = before ++ after ∧ loud = before ++ verboseArgument :: after

theorem read_eq_ok_iff {arguments : List Bytes} {invocation : Invocation} :
    read arguments = .ok invocation ↔ Reader.start.outcome? arguments = some invocation := by
  unfold Reader.outcome? read
  cases arguments.foldlM Reader.step Reader.start >>= Reader.finish <;> simp [Except.toOption]

/-- **With the option a command line says the same** as without it, and the option. -/
theorem Differ.read {quiet loud : List Bytes} (differ : Differ quiet loud) (invocation : Invocation) :
    CommandLine.read loud = .ok invocation ↔ ∃ plain, CommandLine.read quiet = .ok plain ∧
      plain.verbose = false ∧ invocation = { plain with verbose := true } := by
  obtain ⟨before, after, ⟨reader, reads, open_, complete⟩, rfl, rfl⟩ := differ
  simp only [read_eq_ok_iff, Reader.outcome?_append reads]
  exact Reader.outcome?_insert open_ complete after invocation

end CalcBuild.CommandLine

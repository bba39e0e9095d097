/-
**What can be wrong with a stage.**

Six things can be wrong with a stage, and several of them at once. They are ranked in the order in which
they count. The first three can be told from the command, the files and the flag before any process is
started, the others from what the process does.

* `StageRun.Turned`, `System.act_turned`: what a choice does to a stage that is the only job;
* `Single`: one stage on its own, with any command;
* `Single.flagAtStart`, `Single.waited?`: what the stage finds on its way;
* `Single.Objection`, `Single.IsFirst`: what is wrong with the stage, and the first of it;
* `IsFirst.unique`: there is one first objection.
-/

import CalcBuild.Proofs.Build.History
import Mathlib

namespace CalcBuild

open Files

variable {State : Type}

/-! ### Choices -/

section Turns

variable (programs : Programs State) (setting : Setting) (builder : Builder)

/-- What a choice does to a stage that is the only job: nothing, or a step of the stage, or one of its
process. -/
inductive StageRun.Turned (command : Command) (system : System State) (phase : StagePhase State) :
    Choice → System State → StagePhase State → Prop where
  | rests {choice : Choice} {system' : System State}
      (files : system'.world.files = system.world.files) (trace : system'.trace = system.trace)
      (ended : system'.endedBy? = system.endedBy?)
      (refused : choice = .job 0 → system.endedBy? = none →
        StageRun.isAble builder.stageOptions system.world.clock ⟨command, phase⟩ = false) :
      Turned command system phase choice system' phase
  | steps {phase' : StagePhase State} {system' : System State} {events : List Event}
      (alive : system.endedBy? = none)
      (able : StageRun.isAble builder.stageOptions system.world.clock ⟨command, phase⟩ = true)
      (step : StageRun.Step programs setting builder.stageOptions system.world command phase phase'
        events)
      (files : system'.world.files = system.world.files)
      (trace : system'.trace = events.reverse ++ system.trace) (alive' : system'.endedBy? = none) :
      Turned command system phase (.job 0) system' phase'
  | process {child child' : Child State} {since due : Nat} {system' : System State}
      (phase_eq : phase = .waiting child since due) (trace : starts system'.trace = starts system.trace) :
      Turned command system phase (.child 0) system' (.waiting child' since due)

/-- A stage that can take a step is not done. -/
theorem StageRun.result?_of_isAble {options : StageOptions} {clock : Nat} {run : StageRun State}
    (able : run.isAble options clock = true) : run.result? = none := by
  obtain ⟨command, phase⟩ := run
  cases phase with
  | finished result => cases able
  | _ => rfl

/-- The process of a stage that is the only job takes a step when it is its turn and it is awake. -/
theorem System.actChild_stage {system : System State} {command : Command} {state : State}
    {wakes since due : Nat}
    (jobs : system.jobs = [.stage ⟨command, .waiting (.running state wakes) since due⟩])
    (awake : wakes ≤ system.world.clock) :
    ∃ child, (system.actChild programs setting 0).jobs = [.stage ⟨command, .waiting child since due⟩] ∧
      starts (system.actChild programs setting 0).trace = starts system.trace := by
  have waits : (Job.stage ⟨command, .waiting (.running state wakes) since due⟩).child?
      = some (.running state wakes) := rfl
  simp only [actChild, jobs, List.getElem?_cons_zero, waits, awake, if_true, List.set_cons_zero]
  cases moves : (programs.step system.world.files state).2 with
  | prints channel bytes next => exact ⟨_, rfl, by simp [starts, Event.start?]⟩
  | signals signal next =>
    have kept (system : System State) := (deliver_idle setting signal system).1
    exact ⟨_, (kept _).jobs, congrArg starts (kept _).trace⟩
  | _ => exact ⟨_, rfl, rfl⟩

/-- **What a choice does to a stage that is the only job.** -/
theorem System.act_turned {system : System State} {command : Command} {phase : StagePhase State}
    (jobs : system.jobs = [.stage ⟨command, phase⟩]) (choice : Choice) :
    ∃ phase', (system.act programs setting builder choice).jobs = [.stage ⟨command, phase'⟩] ∧
      StageRun.Turned programs setting builder command system phase choice
        (system.act programs setting builder choice) phase' := by
  have rests (same : system.act programs setting builder choice = system)
      (refused : choice = .job 0 → system.endedBy? = none →
        StageRun.isAble builder.stageOptions system.world.clock ⟨command, phase⟩ = false) :
      ∃ phase', (system.act programs setting builder choice).jobs = [.stage ⟨command, phase'⟩] ∧
        StageRun.Turned programs setting builder command system phase choice
          (system.act programs setting builder choice) phase' := by
    rw [same]
    exact ⟨phase, jobs, .rests rfl rfl rfl refused⟩
  cases choice with
  | pass time | raise signal =>
    exact ⟨phase, jobs, .rests rfl rfl rfl fun turn => Choice.noConfusion turn⟩
  | job index =>
    cases index with
    | succ more =>
      refine rests ?_ fun turn => ?_
      · simp only [act, actJob, jobs, List.getElem?_cons_succ, List.getElem?_nil]
      · cases turn
    | zero =>
      cases alive : system.endedBy? with
      | some signal =>
        refine rests ?_ fun _ none_ => by rw [alive] at none_; cases none_
        simp only [act, actJob, jobs, List.getElem?_cons_zero, alive]
      | none =>
        by_cases able :
            StageRun.isAble builder.stageOptions system.world.clock ⟨command, phase⟩ = true
        · obtain ⟨phase', events, acts, step⟩ := StageRun.act_step programs setting
            builder.stageOptions system.world ⟨command, phase⟩ (StageRun.result?_of_isAble able)
          have next : system.act programs setting builder (.job 0) =
              { system with
                jobs := [.stage ⟨command, phase'⟩], trace := events.reverse ++ system.trace } := by
            simp only [act, actJob, jobs, List.getElem?_cons_zero, alive, Job.isAble, able, if_true,
              Job.act, acts, List.set_cons_zero]
          rw [next]
          exact ⟨phase', rfl, .steps alive able step rfl rfl alive⟩
        · refine rests ?_ fun _ _ => Bool.eq_false_iff.mpr able
          simp only [act, actJob, jobs, List.getElem?_cons_zero, alive, Job.isAble]
          exact if_neg able
  | child index =>
    cases index with
    | succ more =>
      refine rests ?_ fun turn => ?_
      · simp only [act, actChild, jobs, List.getElem?_cons_succ, List.getElem?_nil]
      · cases turn
    | zero =>
      have still (asleep : ∀ state wakes since due,
          phase = .waiting (.running state wakes) since due → ¬ wakes ≤ system.world.clock) :
          system.act programs setting builder (.child 0) = system := by
        simp only [act, actChild, jobs, List.getElem?_cons_zero]
        split
        · rename_i state wakes waits
          cases phase with
          | waiting child since due =>
            cases waits
            exact if_neg (asleep state wakes since due rfl)
          | _ => cases waits
        · rfl
      by_cases awake : ∃ state wakes since due, phase = .waiting (.running state wakes) since due ∧
          wakes ≤ system.world.clock
      · obtain ⟨state, wakes, since, due, rfl, awake⟩ := awake
        obtain ⟨child, jobs', trace⟩ := actChild_stage programs setting jobs awake
        exact ⟨_, jobs', .process rfl trace⟩
      · exact rests (still fun state wakes since due phase_eq awake' =>
          awake ⟨state, wakes, since, due, phase_eq, awake'⟩) fun turn => Choice.noConfusion turn

end Turns

/-! ### One stage on its own -/

/-- One stage on its own: the machine, what the stage finds, and its command. -/
structure Single (State : Type) where
  programs : Programs State
  setting : Setting
  builder : Builder
  world : World
  command : Command

namespace Single

section Findings

variable (single : Single State)

/-- The stage and its world after a list of choices. -/
def after (choices : List Choice) : System State :=
  (System.start single.world [.stage (.start single.command)]).run single.programs single.setting
    single.builder choices

/-- What is given for the stage. -/
def options : StageOptions := single.builder.stageOptions

/-- Whether there is something at a path. -/
def Has (files : FileSystem) (path : Bytes) : Prop :=
  files.pathExists single.setting.cwd path = true

/-- The flag when the stage takes its first step. -/
def flagAtStart (choices : List Choice) : CancelFlag :=
  (single.after (choices.takeWhile (· ≠ .job 0))).world.flag

/-- What ends the wait when a choice lets the stage look at its process. -/
def endsWait? (system : System State) (choice : Choice) : Option Poll :=
  match choice, system.endedBy?, system.jobs with
  | .job 0, none, [.stage ⟨command, .waiting child since due⟩] =>
    if StageRun.isAble single.options system.world.clock ⟨command, .waiting child since due⟩ then
      match poll single.options child.status? system.world.flag (system.world.clock - since) with
      | .pending => none
      | found => some found
    else none
  | _, _, _ => none

/-- What ends the wait in the rest of a run. -/
def waitedFrom? (system : System State) : List Choice → Option Poll
  | [] => none
  | choice :: choices =>
    (single.endsWait? system choice).or
      (waitedFrom? (system.act single.programs single.setting single.builder choice) choices)

/-- What ended the wait for the process, if it is over: the process did, or the wait was cut short. -/
def waited? (choices : List Choice) : Option Poll :=
  single.waitedFrom? (single.after []) choices

/-- What is wrong with a stage, each with its place in the order in which it counts: the flag is raised
already, an input is missing, the program cannot be started, the wait is cut short, the process failed,
and what should have been made does not exist afterwards. -/
inductive Objection (choices : List Choice) : Nat → BuildFailure → Prop where
  | cancelled {signal : Int32}
      (raised : single.options.cancelledBy (single.flagAtStart choices) = some signal) :
      Objection choices 0 (.interrupted single.command.stage signal)
  | deprived {before after : List Bytes} {path : Bytes}
      (inputs : single.command.inputs = before ++ path :: after)
      (present : ∀ input ∈ before, single.Has single.world.files input)
      (missing : ¬ single.Has single.world.files path) :
      Objection choices 1 (.missingArtifact single.command.stage path)
  | unspawned {cause : Cause}
      (fails : single.programs.start single.world.files (single.command.launch single.setting)
        = .error cause) :
      Objection choices 2 (.spawn single.command.stage single.command.program cause)
  | interrupted {signal : Int32} (cut : single.waited? choices = some (.interrupted signal)) :
      Objection choices 3 (.interrupted single.command.stage signal)
  | timedOut {timeout : Nat} (cut : single.waited? choices = some (.timedOut timeout)) :
      Objection choices 3 (.stageTimedOut single.command.stage timeout)
  | failed {status : WaitStatus} (ended : single.waited? choices = some (.ended status))
      (unsuccessful : status.isSuccess = false) :
      Objection choices 4 (.stageFailed single.command.stage single.command.line status)
  | unmade (missing : ¬ single.Has (single.after choices).world.files single.command.output) :
      Objection choices 5 (.missingArtifact single.command.stage single.command.output)

/-- Nothing is wrong before a place in the order. -/
def Cleared (choices : List Choice) (bound : Nat) : Prop :=
  ∀ rank < bound, ∀ failure, ¬ single.Objection choices rank failure

/-- The first thing that is wrong. -/
structure IsFirst (choices : List Choice) (rank : Nat) (failure : BuildFailure) : Prop where
  applies : single.Objection choices rank failure
  cleared : single.Cleared choices rank

end Findings

variable {single : Single State} {choices : List Choice} {choice : Choice}

/-! ### What the stage finds, choice by choice -/

theorem after_concat (choices : List Choice) (choice : Choice) : single.after (choices ++ [choice])
    = (single.after choices).act single.programs single.setting single.builder choice :=
  List.foldl_append

theorem waitedFrom?_append (system : System State) (choices more : List Choice) :
    single.waitedFrom? system (choices ++ more) = (single.waitedFrom? system choices).or
      (single.waitedFrom? (system.run single.programs single.setting single.builder choices) more) := by
  induction choices generalizing system with
  | nil => rfl
  | cons choice choices ih =>
    rw [List.cons_append, waitedFrom?, waitedFrom?, ih, Option.or_assoc]
    rfl

theorem waited?_concat (choices : List Choice) (choice : Choice) : single.waited? (choices ++ [choice])
    = (single.waited? choices).or (single.endsWait? (single.after choices) choice) := by
  unfold waited?
  rw [waitedFrom?_append, waitedFrom?, waitedFrom?, Option.or_none]
  rfl

/-- The flag at the start is the one that the first step finds. -/
theorem flagAtStart_first (untaken : choices.count (.job 0) = 0) :
    single.flagAtStart (choices ++ [.job 0]) = (single.after choices).world.flag := by
  have all : ∀ choice ∈ choices, (decide (choice ≠ .job 0)) = true := fun choice member =>
    decide_eq_true fun same => List.count_eq_zero.mp untaken (same ▸ member)
  unfold flagAtStart
  rw [List.takeWhile_append_of_pos all]
  simp

/-- After the first step it stays what it is. -/
theorem flagAtStart_concat (single : Single State) (taken : 0 < choices.count (.job 0))
    (choice : Choice) : single.flagAtStart (choices ++ [choice]) = single.flagAtStart choices := by
  have member := List.count_pos_iff.mp taken
  unfold flagAtStart
  rw [List.takeWhile_append, if_neg]
  intro whole
  have all := List.takeWhile_eq_self_iff.mp ((List.takeWhile_prefix _).eq_of_length whole)
  simpa using all _ member

/-- What can be wrong before the process is started depends on the flag at the start only. -/
theorem Objection.early {choices' : List Choice} {rank : Nat} {failure : BuildFailure} (early : rank < 3)
    (flag : single.flagAtStart choices' = single.flagAtStart choices)
    (objection : single.Objection choices rank failure) : single.Objection choices' rank failure := by
  cases objection with
  | cancelled raised => exact .cancelled (flag ▸ raised)
  | deprived inputs present missing => exact .deprived inputs present missing
  | unspawned fails => exact .unspawned fails
  | _ => omega

theorem Cleared.early {choices' : List Choice} {bound : Nat} (early : bound ≤ 3)
    (flag : single.flagAtStart choices' = single.flagAtStart choices)
    (cleared : single.Cleared choices bound) : single.Cleared choices' bound :=
  fun rank lower failure objection =>
    cleared rank lower failure (objection.early (lower.trans_le early) flag.symm)

theorem IsFirst.early {choices' : List Choice} {rank : Nat} {failure : BuildFailure} (early : rank < 3)
    (flag : single.flagAtStart choices' = single.flagAtStart choices)
    (first : single.IsFirst choices rank failure) : single.IsFirst choices' rank failure :=
  ⟨first.applies.early early flag, first.cleared.early early.le flag⟩

/-- What is wrong stays so while the wait is over and the files are left alone. -/
theorem objection_congr {choices' : List Choice}
    (flag : single.flagAtStart choices' = single.flagAtStart choices)
    (waited : single.waited? choices' = single.waited? choices)
    (files : (single.after choices').world.files = (single.after choices).world.files) (rank : Nat)
    (failure : BuildFailure) :
    single.Objection choices' rank failure ↔ single.Objection choices rank failure := by
  constructor
  all_goals
    intro objection
    cases objection with
    | cancelled raised => exact .cancelled (by simpa only [flag] using raised)
    | deprived inputs present missing => exact .deprived inputs present missing
    | unspawned fails => exact .unspawned fails
    | interrupted cut => exact .interrupted (by simpa only [waited] using cut)
    | timedOut cut => exact .timedOut (by simpa only [waited] using cut)
    | failed ended unsuccessful => exact .failed (by simpa only [waited] using ended) unsuccessful
    | unmade missing => exact .unmade (by simpa only [files] using missing)

theorem Cleared.congr {choices' : List Choice} {bound : Nat}
    (same : ∀ rank failure, single.Objection choices' rank failure ↔ single.Objection choices rank failure)
    (cleared : single.Cleared choices bound) : single.Cleared choices' bound :=
  fun rank lower failure objection => cleared rank lower failure ((same rank failure).mp objection)

theorem IsFirst.congr {choices' : List Choice} {rank : Nat} {failure : BuildFailure}
    (same : ∀ rank failure, single.Objection choices' rank failure ↔ single.Objection choices rank failure)
    (first : single.IsFirst choices rank failure) : single.IsFirst choices' rank failure :=
  ⟨(same rank failure).mpr first.applies, first.cleared.congr same⟩

/-! ### One objection for a place -/

/-- The first input that is missing, as a place in the list. -/
theorem missingInput?_split {path : Bytes} :
    StageRun.missingInput? single.setting single.world.files single.command = some path ↔
      ∃ before after, single.command.inputs = before ++ path :: after ∧
        (∀ input ∈ before, single.Has single.world.files input) ∧
        ¬ single.Has single.world.files path := by
  simp only [StageRun.missingInput?, List.find?_eq_some_iff_append, Has, Bool.not_eq_true',
    Bool.not_eq_true, Bool.not_not]
  constructor
  · rintro ⟨missing, before, after, inputs, present⟩
    exact ⟨before, after, inputs, present, missing⟩
  · rintro ⟨before, after, inputs, present, missing⟩
    exact ⟨missing, before, after, inputs, present⟩

/-- At each place of the order at most one thing is wrong. -/
theorem Objection.unique {rank : Nat} {failure failure' : BuildFailure}
    (left : single.Objection choices rank failure) (right : single.Objection choices rank failure') :
    failure = failure' := by
  cases left with
  | cancelled raised =>
    obtain ⟨raised'⟩ := right
    rw [Option.some.inj (raised.symm.trans raised')]
  | deprived inputs present missing =>
    obtain _ | ⟨inputs', present', missing'⟩ := right
    have first := missingInput?_split.mpr ⟨_, _, inputs, present, missing⟩
    have first' := missingInput?_split.mpr ⟨_, _, inputs', present', missing'⟩
    rw [Option.some.inj (first.symm.trans first')]
  | unspawned fails =>
    obtain _ | _ | ⟨fails'⟩ := right
    rw [Except.error.inj (fails.symm.trans fails')]
  | interrupted cut =>
    cases right with
    | interrupted cut' =>
      cases cut.symm.trans cut'
      rfl
    | timedOut cut' => cases cut.symm.trans cut'
  | timedOut cut =>
    cases right with
    | interrupted cut' => cases cut.symm.trans cut'
    | timedOut cut' =>
      cases cut.symm.trans cut'
      rfl
  | failed ended =>
    cases right with
    | failed ended' =>
      cases ended.symm.trans ended'
      rfl
  | unmade => 
    cases right with
    | unmade => rfl

/-- What is wrong first is one thing. -/
theorem IsFirst.unique {rank rank' : Nat} {failure failure' : BuildFailure}
    (left : single.IsFirst choices rank failure) (right : single.IsFirst choices rank' failure') :
    rank = rank' ∧ failure = failure' := by
  have same : rank = rank' := by
    rcases Nat.lt_trichotomy rank rank' with lower | same | lower
    · exact absurd left.applies (right.cleared _ lower _)
    · exact same
    · exact absurd right.applies (left.cleared _ lower _)
  subst same
  exact ⟨rfl, left.applies.unique right.applies⟩

end Single

end CalcBuild

/-
**Runs without their times.**

A stage and a build keep some times: when a process was started and wakes up, when it is looked at next,
and how long it took. What happens to them otherwise does not depend on the time, nor, while nothing cuts
them short, on the flag and on how their processes are waited for. So what a job comes to is told by a
sketch of it, which leaves all this out and in which only one thing can happen next.

* `Job.untimed`: a job without its times;
* `Job.act_untimed`: what a step of a job leaves, its times apart, is the same at all times;
* `Sketch`, `Sketch.advance`: a job in its world without times, and what happens next to it;
* `Sketch.ends`: a job all of whose processes finish is done at some point.
-/

import CalcBuild.Proofs.Build.Fairness
import CalcBuild.Proofs.Build.Untimed
import Mathlib.Logic.Function.Iterate

namespace CalcBuild

open Files

variable {State : Type}

/-! ### Jobs without their times -/

/-- A result without the time that the stage took. -/
def StageResult.untimed (result : StageResult) : StageResult := { result with elapsed := 0 }

/-- A process without the time at which it wakes up. -/
def Child.untimed : Child State → Child State
  | .running state _ => .running state 0
  | .ended status => .ended status

/-- Where a stage stands, without times. -/
def StagePhase.untimed : StagePhase State → StagePhase State
  | .waiting child _ _ => .waiting child.untimed 0 0
  | .collected status _ => .collected status 0
  | .finished result => .finished (result.map StageResult.untimed)
  | phase => phase

def StageRun.untimed (run : StageRun State) : StageRun State :=
  { run with phase := run.phase.untimed }

def BuildOutcome.untimed (outcome : BuildOutcome) : BuildOutcome :=
  { outcome with stages := outcome.stages.map StageResult.untimed }

/-- Where a build stands, without times. -/
def BuildPhase.untimed : BuildPhase State → BuildPhase State
  | .running stage later => .running stage.untimed later
  | .finished result => .finished (result.map BuildOutcome.untimed)
  | phase => phase

def BuildRun.untimed (run : BuildRun State) : BuildRun State :=
  { run with phase := run.phase.untimed, results := run.results.map StageResult.untimed }

/-- A job without its times. -/
def Job.untimed : Job State → Job State
  | .stage run => .stage run.untimed
  | .build run => .build run.untimed

/-- Options with which a stage waits until its process has ended. -/
def StageOptions.blocking : StageOptions := ⟨none, false⟩

/-- The same builder with other options for its stages. -/
def Builder.under (builder : Builder) (options : StageOptions) : Builder :=
  { builder with stageOptions := options }

theorem BuildRun.following_untimed (later : List Command) :
    (BuildRun.following later : BuildPhase State).untimed = BuildRun.following later := by
  cases later with
  | nil => rfl
  | cons command later =>
    by_cases isLink : command.stage = .link
    · rw [Solo.following_link later isLink]
      rfl
    · rw [Solo.following_other later isLink]
      rfl

/-! ### Steps -/

/-- No process of a job runs. -/
def Job.IsSettled (job : Job State) : Prop :=
  ∀ state wakes, job.child? ≠ some (.running state wakes)

section Steps

variable {programs : Programs State} {setting : Setting} {builder : Builder} {options : StageOptions}
  {world : World}

/-- **A step of a stage that nothing cuts short** leaves the same at all times. -/
theorem StageRun.act_untimed {run : StageRun State} (settled : (Job.stage run).IsSettled)
    (uncancelled : options.cancelledBy world.flag = none) :
    (run.untimed.act programs setting .blocking world.untimed).1
      = (run.act programs setting options world).1.untimed := by
  obtain ⟨command, phase⟩ := run
  cases phase with
  | ready =>
    simp only [act, uncancelled]
    rfl
  | inspecting =>
    simp only [act, untimed, StagePhase.untimed, World.untimed_files]
    cases missingInput? setting world.files command <;> rfl
  | launching =>
    simp only [act, untimed, StagePhase.untimed, World.untimed_files]
    cases programs.start world.files (command.launch setting) <;> rfl
  | waiting child since due =>
    cases child with
    | running state wakes => exact absurd rfl (settled state wakes)
    | ended status => rfl
  | collected status elapsed =>
    simp only [act, untimed, StagePhase.untimed, World.untimed_files]
    cases rejection? setting world.files command status <;> rfl
  | finished result => rfl

theorem StageRun.result?_untimed (run : StageRun State) :
    run.untimed.result? = run.result?.map (Except.map StageResult.untimed) := by
  obtain ⟨command, phase⟩ := run
  cases phase <;> rfl

/-- **A step of a build that nothing cuts short** leaves the same at all times. -/
theorem BuildRun.act_untimed {run : BuildRun State} (settled : (Job.build run).IsSettled)
    (uncancelled : builder.stageOptions.cancelledBy world.flag = none) :
    (run.untimed.act programs setting (builder.under .blocking) world.untimed).1
        = (run.act programs setting builder world).1.untimed ∧
      (run.untimed.act programs setting (builder.under .blocking) world.untimed).2.1
        = (run.act programs setting builder world).2.1.untimed := by
  obtain ⟨request, phase, results, workspace?, staging?⟩ := run
  cases phase with
  | starting =>
    by_cases found : world.files.isFile setting.cwd builder.runtimeSource = true <;>
      simp [act, untimed, BuildPhase.untimed, Builder.under, found]
  | opening =>
    simp only [act, untimed, BuildPhase.untimed, Builder.under, Workspace.create_untimed]
    obtain ⟨world', made⟩ := Workspace.create setting builder.workspaceRoot? world
    cases made with
    | ok workspace => exact ⟨rfl, rfl⟩
    | error failure => exact ⟨rfl, rfl⟩
  | running stage later =>
    cases done : stage.result? with
    | none =>
      have steps := @StageRun.act_untimed _ programs setting builder.stageOptions world stage settled
        uncancelled
      simp only [act, untimed, BuildPhase.untimed, StageRun.result?_untimed, done, Option.map_none]
      exact ⟨trivial, by rw [← steps]; rfl⟩
    | some result =>
      cases result with
      | error failure =>
        simp only [act, untimed, BuildPhase.untimed, StageRun.result?_untimed, done]
        exact ⟨rfl, rfl⟩
      | ok result =>
        have acts : act programs setting builder world
            ⟨request, .running stage later, results, workspace?, staging?⟩
            = (world, ⟨request, following later, results ++ [result], workspace?, staging?⟩, []) := by
          simp only [act, done]
        have acts' : act programs setting (builder.under .blocking) world.untimed
            (untimed ⟨request, .running stage later, results, workspace?, staging?⟩)
            = (world.untimed, ⟨request, following later,
                results.map StageResult.untimed ++ [result.untimed], workspace?, staging?⟩, []) := by
          simp only [act, untimed, BuildPhase.untimed, StageRun.result?_untimed, done, Option.map_some,
            Except.map]
        rw [acts, acts']
        refine ⟨rfl, ?_⟩
        show _ = (⟨request, (following later).untimed, (results ++ [result]).map StageResult.untimed,
          workspace?, staging?⟩ : BuildRun State)
        rw [following_untimed, List.map_append]
        rfl
  | preparing link later =>
    simp only [act, untimed, BuildPhase.untimed, Staging.prepare_untimed]
    obtain ⟨world', made⟩ := Staging.prepare setting request.output world
    cases made <;> exact ⟨rfl, rfl⟩
  | reserving link later =>
    simp only [act, untimed, BuildPhase.untimed, Staging.reserve_untimed]
    obtain ⟨world', made⟩ := Staging.reserve setting request.output world
    cases made <;> exact ⟨rfl, rfl⟩
  | vacating link later =>
    simp only [act, untimed, BuildPhase.untimed, World.untimed_files]
    obtain ⟨files, made⟩ := Staging.vacate setting request.output link.output world.files
    cases made <;> exact ⟨rfl, rfl⟩
  | publishing =>
    cases staging? with
    | none => exact ⟨rfl, rfl⟩
    | some staging =>
      simp only [act, untimed, BuildPhase.untimed, World.untimed_files]
      obtain ⟨files, made⟩ := Staging.publish setting request.output staging world.files
      cases made <;> exact ⟨rfl, rfl⟩
  | closing => cases workspace? <;> exact ⟨rfl, rfl⟩
  | withdrawing failure => cases staging? <;> exact ⟨rfl, rfl⟩
  | abandoning failure => cases workspace? <;> exact ⟨rfl, rfl⟩
  | finished result => exact ⟨rfl, rfl⟩

/-- **A step of a job that nothing cuts short** leaves the same at all times. -/
theorem Job.act_untimed {job : Job State} (settled : job.IsSettled)
    (uncancelled : builder.stageOptions.cancelledBy world.flag = none) :
    (job.untimed.act programs setting (builder.under .blocking) world.untimed).1
        = (job.act programs setting builder world).1.untimed ∧
      (job.untimed.act programs setting (builder.under .blocking) world.untimed).2.1
        = (job.act programs setting builder world).2.1.untimed := by
  cases job with
  | stage run => exact ⟨rfl, congrArg Job.stage (StageRun.act_untimed settled uncancelled)⟩
  | build run =>
    obtain ⟨same, same'⟩ := @BuildRun.act_untimed _ programs setting _ _ _ settled uncancelled
    exact ⟨same, congrArg Job.build same'⟩

end Steps

/-! ### Processes of jobs -/

namespace Job

/-- A job that waits for a process is a stage, or a build that runs one. -/
theorem waiting_of_child {job : Job State} {child : Child State} (waits : job.child? = some child) :
    ∃ command since due, job = .stage ⟨command, .waiting child since due⟩ ∨
      ∃ run later, job = .build run ∧
        run.phase = .running ⟨command, .waiting child since due⟩ later := by
  cases job with
  | stage run =>
    obtain ⟨command, phase⟩ := run
    cases phase with
    | waiting child' since due =>
      cases waits
      exact ⟨command, since, due, .inl rfl⟩
    | _ => cases waits
  | build run =>
    obtain ⟨command, since, due, later, phase⟩ := BuildRun.phase_of_child waits
    exact ⟨command, since, due, .inr ⟨run, later, rfl, phase⟩⟩

theorem child?_untimed (job : Job State) : job.untimed.child? = job.child?.map Child.untimed := by
  have stages (run : StageRun State) : run.untimed.child? = run.child?.map Child.untimed := by
    obtain ⟨command, phase⟩ := run
    cases phase <;> rfl
  cases job with
  | stage run => exact stages run
  | build run =>
    obtain ⟨request, phase, results, workspace?, staging?⟩ := run
    cases phase with
    | running stage later => exact stages stage
    | _ => rfl

theorem isFinished_untimed (job : Job State) : job.untimed.isFinished = job.isFinished := by
  cases job with
  | stage run =>
    obtain ⟨command, phase⟩ := run
    cases phase <;> rfl
  | build run =>
    obtain ⟨request, phase, results, workspace?, staging?⟩ := run
    cases phase <;> rfl

theorem settled_untimed {job : Job State} (settled : job.IsSettled) : job.untimed.IsSettled := by
  intro state wakes waits
  rw [child?_untimed, Option.map_eq_some_iff] at waits
  obtain ⟨child, waits, same⟩ := waits
  cases child with
  | running state' wakes' => exact settled _ _ waits
  | ended status => cases same

section Waiting

variable {job : Job State} {child : Child State} (waits : job.child? = some child)
include waits

theorem child?_withChild (other : Child State) : (job.withChild other).child? = some other := by
  obtain ⟨command, since, due, rfl | ⟨run, later, rfl, phase⟩⟩ := waiting_of_child waits
  · rfl
  · simp only [withChild, BuildRun.withChild, phase]
    rfl

theorem withChild_untimed (other : Child State) :
    (job.withChild other).untimed = job.untimed.withChild other.untimed := by
  obtain ⟨command, since, due, rfl | ⟨run, later, rfl, phase⟩⟩ := waiting_of_child waits
  · rfl
  · obtain ⟨request, _, results, workspace?, staging?⟩ := run
    cases phase
    rfl

end Waiting

/-- How many steps a job still takes at most, looks at a running process apart. -/
def rank : Job State → Nat
  | .stage run => run.phase.rank
  | .build run => run.phase.rank

theorem rank_running {job : Job State} {state : State} {wakes : Nat}
    (waits : job.child? = some (.running state wakes)) (next : State) (wakes' : Nat) :
    (job.withChild (.running next wakes')).rank = job.rank := by
  obtain ⟨command, since, due, rfl | ⟨run, later, rfl, phase⟩⟩ := waiting_of_child waits
  · rfl
  · simp only [withChild, BuildRun.withChild, rank, phase]
    rfl

theorem rank_ended {job : Job State} {state : State} {wakes : Nat}
    (waits : job.child? = some (.running state wakes)) (status : WaitStatus) :
    (job.withChild (.ended status)).rank < job.rank := by
  obtain ⟨command, since, due, rfl | ⟨run, later, rfl, phase⟩⟩ := waiting_of_child waits
  · exact Nat.lt_succ_self _
  · simp only [withChild, BuildRun.withChild, rank, phase]
    exact Nat.lt_succ_self _

/-- **Every step lowers the rank**, if no process runs. -/
theorem rank_act {programs : Programs State} {setting : Setting} {builder : Builder} {world : World}
    {job : Job State} (settled : job.IsSettled) (unfinished : job.isFinished = false) :
    (job.act programs setting builder world).2.1.rank < job.rank := by
  cases job with
  | stage run =>
    obtain ⟨after, events, acts, steps⟩ := StageRun.act_step programs setting builder.stageOptions world
      run (Option.not_isSome_iff_eq_none.mp (Bool.eq_false_iff.mp unfinished))
    show (run.act programs setting builder.stageOptions world).1.phase.rank < run.phase.rank
    rw [acts]
    refine steps.rank.resolve_right ?_
    rintro ⟨state, wakes, since, due, _, phase, _⟩
    refine settled state wakes ?_
    simp only [child?, stage?, Option.bind_some, StageRun.child?, phase]
  | build run =>
    have steps := BuildRun.act_step programs setting builder world run
      (Option.not_isSome_iff_eq_none.mp (Bool.eq_false_iff.mp unfinished))
    refine steps.rank.resolve_right ?_
    rintro ⟨command, state, wakes, since, due, _, later, phase, _⟩
    refine settled state wakes ?_
    simp only [child?, stage?, BuildRun.stage?, phase, Option.bind_some, StageRun.child?]

/-- A job that is done takes no steps. -/
theorem act_finished {programs : Programs State} {setting : Setting} {builder : Builder} {world : World}
    {job : Job State} (finished : job.isFinished = true) :
    (job.act programs setting builder world).1 = world ∧
      (job.act programs setting builder world).2.1 = job := by
  cases job with
  | stage run =>
    obtain ⟨command, phase⟩ := run
    cases phase with
    | finished result => exact ⟨rfl, rfl⟩
    | _ => cases finished
  | build run =>
    obtain ⟨request, phase, results, workspace?, staging?⟩ := run
    cases phase with
    | finished result => exact ⟨rfl, rfl⟩
    | _ => cases finished

theorem isAble_finished {builder : Builder} {clock : Nat} {job : Job State}
    (finished : job.isFinished = true) : job.isAble builder clock = false := by
  cases job with
  | stage run =>
    obtain ⟨command, phase⟩ := run
    cases phase with
    | finished result => rfl
    | _ => cases finished
  | build run =>
    obtain ⟨request, phase, results, workspace?, staging?⟩ := run
    cases phase with
    | finished result => rfl
    | _ => cases finished

theorem settled_finished {job : Job State} (finished : job.isFinished = true) : job.IsSettled := by
  intro state wakes waits
  obtain ⟨command, since, due, rfl | ⟨run, later, rfl, phase⟩⟩ := waiting_of_child waits
  · cases finished
  · simp [isFinished, BuildRun.result?, phase] at finished

end Job

/-! ### Sketches -/

/-- A process as a move leaves it, without times. -/
def Move.child : Move State → Child State
  | .ends status => .ended status
  | .goesOn next | .sleeps _ next | .prints _ _ next | .signals _ next => .running next 0

/-- A job in its world, without times. -/
structure Sketch (State : Type) where
  world : World
  job : Job State

namespace Sketch

/-- The sketch of a job in its world. -/
def of (world : World) (job : Job State) : Sketch State := ⟨world.untimed, job.untimed⟩

section Advance

variable (programs : Programs State) (setting : Setting) (builder : Builder)

/-- What happens next: a step of the process of the job, if it runs, and of the job itself if not. -/
def advance (sketch : Sketch State) : Sketch State :=
  match sketch.job.child? with
  | some (.running state _) =>
    let stepped := programs.step sketch.world.files state
    ⟨{ sketch.world with files := stepped.1 }, sketch.job.withChild stepped.2.child⟩
  | _ =>
    let stepped := sketch.job.act programs setting (builder.under .blocking) sketch.world
    ⟨stepped.1, stepped.2.1⟩

variable {programs setting builder} {world : World} {job : Job State} {sketch : Sketch State}

theorem advance_running {state : State} {wakes : Nat}
    (waits : sketch.job.child? = some (.running state wakes)) :
    sketch.advance programs setting builder =
      ⟨{ sketch.world with files := (programs.step sketch.world.files state).1 },
        sketch.job.withChild (programs.step sketch.world.files state).2.child⟩ := by
  simp only [advance, waits]

theorem advance_settled (settled : sketch.job.IsSettled) :
    sketch.advance programs setting builder =
      ⟨(sketch.job.act programs setting (builder.under .blocking) sketch.world).1,
        (sketch.job.act programs setting (builder.under .blocking) sketch.world).2.1⟩ := by
  unfold advance
  split
  · rename_i waits
    exact absurd waits (settled _ _)
  · rfl

/-- **A step of the process of a job** is what happens next. -/
theorem advance_of_running {state : State} {wakes : Nat}
    (waits : job.child? = some (.running state wakes)) {child : Child State}
    (same : child.untimed = (programs.step world.files state).2.child) :
    (of world job).advance programs setting builder =
      of { world with files := (programs.step world.files state).1 } (job.withChild child) := by
  have waits' : (of world job).job.child? = some (.running state 0) := by
    show job.untimed.child? = _
    rw [Job.child?_untimed, waits]
    rfl
  rw [advance_running waits']
  unfold of
  rw [Job.withChild_untimed waits, same]
  rfl

/-- **A step of a job that nothing cuts short** is what happens next. -/
theorem advance_of_settled (settled : job.IsSettled)
    (uncancelled : builder.stageOptions.cancelledBy world.flag = none) :
    (of world job).advance programs setting builder =
      of (job.act programs setting builder world).1 (job.act programs setting builder world).2.1 := by
  obtain ⟨same, same'⟩ := @Job.act_untimed _ programs setting _ _ _ settled uncancelled
  rw [advance_settled (Job.settled_untimed settled)]
  unfold of
  rw [same, same']

/-- Nothing happens to a job that is done. -/
theorem advance_finished (finished : sketch.job.isFinished = true) :
    sketch.advance programs setting builder = sketch := by
  obtain ⟨same, same'⟩ :=
    @Job.act_finished _ programs setting (builder.under .blocking) sketch.world _ finished
  rw [advance_settled (Job.settled_finished finished), same, same']

end Advance

/-! ### The end -/

section End

variable {programs : Programs State} {setting : Setting} {builder : Builder}

/-- A process that finishes comes to its end. -/
theorem process_ends {harmless : Nat → Prop} {fs fs' : FileSystem} {state : State}
    {status : WaitStatus} (finishes : programs.Finishes harmless fs state fs' status)
    {sketch : Sketch State} {wakes : Nat} (waits : sketch.job.child? = some (.running state wakes))
    (files : sketch.world.files = fs) :
    ∃ count, ((advance programs setting builder)^[count] sketch).job.rank < sketch.job.rank := by
  have next := @advance_running _ programs setting builder sketch state wakes waits
  induction finishes generalizing sketch wakes with
  | @ends fs fs' state status ends =>
    refine ⟨1, ?_⟩
    rw [Function.iterate_one, next, files, ends]
    exact Job.rank_ended waits status
  | @goesOn fs mid fs' state after move status steps moves _ rest ih =>
    rw [files, steps] at next
    have child : move.child = .running after 0 := by
      cases move <;> cases moves <;> rfl
    have waits' : (advance programs setting builder sketch).job.child? = some (.running after 0) := by
      rw [next, ← child]
      exact Job.child?_withChild waits _
    obtain ⟨count, lower⟩ := ih waits' (by rw [next]) (advance_running waits')
    refine ⟨count + 1, ?_⟩
    rw [Function.iterate_succ_apply]
    refine Nat.lt_of_lt_of_le lower (Nat.le_of_eq ?_)
    rw [next, child]
    exact Job.rank_running waits after 0

/-- **A job all of whose processes finish is done at some point.** -/
theorem ends (sketch : Sketch State)
    (finishing : ∀ count state wakes,
      ((advance programs setting builder)^[count] sketch).job.child? = some (.running state wakes) →
      ∃ harmless fs' status, programs.Finishes harmless
        ((advance programs setting builder)^[count] sketch).world.files state fs' status) :
    ∃ count, ((advance programs setting builder)^[count] sketch).job.isFinished = true := by
  induction bound : sketch.job.rank using Nat.strongRecOn generalizing sketch with
  | _ rank ih =>
    -- It is enough to come to a lower rank.
    have further (count : Nat)
        (lower : ((advance programs setting builder)^[count] sketch).job.rank < rank) :
        ∃ more, ((advance programs setting builder)^[more] sketch).job.isFinished = true := by
      obtain ⟨more, done⟩ := ih _ lower ((advance programs setting builder)^[count] sketch)
        (fun later state wakes => by
          rw [← Function.iterate_add_apply]
          exact finishing (later + count) state wakes) rfl
      rw [← Function.iterate_add_apply] at done
      exact ⟨more + count, done⟩
    by_cases finished : sketch.job.isFinished = true
    · exact ⟨0, finished⟩
    · by_cases settled : sketch.job.IsSettled
      · refine further 1 ?_
        rw [Function.iterate_one, advance_settled settled, ← bound]
        exact Job.rank_act settled (Bool.eq_false_iff.mpr finished)
      · simp only [Job.IsSettled, not_forall, not_not] at settled
        obtain ⟨state, wakes, waits⟩ := settled
        obtain ⟨harmless, fs', status, finishes⟩ := finishing 0 state wakes waits
        obtain ⟨count, lower⟩ := process_ends finishes waits rfl
        exact further count (bound ▸ lower)

end End

end Sketch

end CalcBuild

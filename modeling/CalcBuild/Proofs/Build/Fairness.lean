/-
**Builds come to an end.**

In a schedule that goes on forever and is fair to the build, to its process and to time, a build is
done at some point, if every process that it starts would come to an end undisturbed.

* `Fair`, `Driven`: schedules that give everything a turn again and again, or all but the process;
* `BuildPhase.rank`, `Step.rank`: every step of a build lowers a rank, unless it looks at a process;
* `Driven.lowers_idle`, `done_of_lowers`: a build that waits for no process gets on, and one that always
  gets on is done at some point;
* `Fair.ends_from`, `Fair.ends`: the build is done at some point, and from then on.
-/

import CalcBuild.Proofs.Build.Order
import CalcBuild.Proofs.Process.Finishing

namespace CalcBuild

open Files

variable {State : Type}

/-! ### Time -/

theorem BuildRun.Turn.clock {programs : Programs State} {setting : Setting} {builder : Builder}
    {world world' : World} {run run' : BuildRun State} {events : List Event}
    (turn : BuildRun.Turn programs setting builder world run world' run' events) :
    world'.clock = world.clock := by
  cases turn with
  | own steps => exact steps.clock
  | process _ _ clock _ _ _ => exact clock

/-! ### Ranks -/

/-- How many steps of the build a stage still takes at most, looks at a running process apart. -/
def StagePhase.rank : StagePhase State → Nat
  | .ready => 7
  | .inspecting => 6
  | .launching => 5
  | .waiting (.running ..) .. => 4
  | .waiting (.ended _) .. => 3
  | .collected .. => 2
  | .finished _ => 1

/-- A number that every step of a build lowers, looks at a running process apart. -/
def BuildPhase.rank : BuildPhase State → Nat
  | .starting => 70
  | .opening => 69
  | .running stage later => 16 * later.length + 4 + stage.phase.rank
  | .preparing _ later => 16 * later.length + 14
  | .reserving _ later => 16 * later.length + 13
  | .vacating _ later => 16 * later.length + 12
  | .publishing => 4
  | .closing => 3
  | .withdrawing _ => 2
  | .abandoning _ => 1
  | .finished _ => 0

theorem following_rank (later : List Command) :
    (BuildRun.following later : BuildPhase State).rank ≤ 16 * later.length + 4 := by
  cases later with
  | nil => exact Nat.le_refl _
  | cons command later =>
    by_cases isLink : command.stage = .link
    · rw [Solo.following_link later isLink]
      simp only [BuildPhase.rank, List.length_cons]
      omega
    · rw [Solo.following_other later isLink]
      simp only [BuildPhase.rank, StageRun.start, StagePhase.rank, List.length_cons]
      omega

theorem StageRun.Step.rank {programs : Programs State} {setting : Setting} {options : StageOptions}
    {world : World} {command : Command} {before after : StagePhase State} {events : List Event}
    (steps : StageRun.Step programs setting options world command before after events) :
    after.rank < before.rank ∨ ∃ state wakes since due due',
      before = .waiting (.running state wakes) since due ∧
        after = .waiting (.running state wakes) since due' := by
  cases steps with
  | looked => exact .inr ⟨_, _, _, _, _, rfl, rfl⟩
  | _ =>
    refine .inl ?_
    simp only [StagePhase.rank]
    omega

/-- **A step of a build lowers its rank, or looks at a running process.** -/
theorem BuildRun.Step.rank {programs : Programs State} {setting : Setting} {builder : Builder}
    {world world' : World} {run run' : BuildRun State} {events : List Event}
    (steps : BuildRun.Step programs setting builder world run world' run' events) :
    run'.phase.rank < run.phase.rank ∨ ∃ command state wakes since due due' later,
      run.phase = .running ⟨command, .waiting (.running state wakes) since due⟩ later ∧
        run'.phase = .running ⟨command, .waiting (.running state wakes) since due'⟩ later ∧
        world' = world := by
  cases steps with
  | @opened _ workspace phase creates =>
    have lower := @following_rank State (BuildRun.commands builder workspace run.request)
    refine .inl (Nat.lt_of_le_of_lt lower ?_)
    simp [phase, BuildPhase.rank, BuildRun.commands, plan]
  | @succeeded _ _ later phase =>
    refine .inl (Nat.lt_of_le_of_lt (following_rank later) ?_)
    simp [phase, BuildPhase.rank, StagePhase.rank]
  | advanced phase steps =>
    rcases steps.rank with lower | ⟨state, wakes, since, due, due', rfl, rfl⟩
    · simp only [phase, BuildPhase.rank]
      exact .inl (by omega)
    · exact .inr ⟨_, _, _, _, _, _, _, phase, rfl, rfl⟩
  | _ =>
    rename_i phase
    refine .inl ?_
    simp only [*, BuildPhase.rank, StageRun.start, StagePhase.rank]
    omega

/-- A turn of a build lowers its rank, or the build waits for its process, which may have taken a
step. -/
theorem BuildRun.Turn.rank {programs : Programs State} {setting : Setting} {builder : Builder}
    {world world' : World} {run run' : BuildRun State} {events : List Event}
    (turn : BuildRun.Turn programs setting builder world run world' run' events) :
    run'.phase.rank < run.phase.rank ∨ ∃ command state wakes since due later,
      run.phase = .running ⟨command, .waiting (.running state wakes) since due⟩ later ∧
        ((∃ due', run'.phase = .running ⟨command, .waiting (.running state wakes) since due'⟩ later ∧
            world'.files = world.files) ∨
          ∃ child, child.Follows (programs.step world.files state).2 ∧
            run'.phase = .running ⟨command, .waiting child since due⟩ later ∧
            world'.files = (programs.step world.files state).1) := by
  cases turn with
  | own steps =>
    rcases steps.rank with lower | ⟨command, state, wakes, since, due, due', later, phase, next, same⟩
    · exact .inl lower
    · exact .inr ⟨command, state, wakes, since, due, later, phase, .inl ⟨due', next, by rw [same]⟩⟩
  | process phase files _ _ follows _ =>
    exact .inr ⟨_, _, _, _, _, _, phase, .inr ⟨_, follows, rfl, files⟩⟩

/-! ### Schedules -/

namespace Solo

/-- The first choices of a schedule. -/
def first (schedule : Nat → Choice) (count : Nat) : List Choice :=
  (List.range count).map schedule

theorem first_succ (schedule : Nat → Choice) (count : Nat) :
    first schedule (count + 1) = first schedule count ++ [schedule count] := by
  simp [first, List.range_succ]

/-- A schedule that gives the build, its process and time a turn again and again. -/
structure Fair (schedule : Nat → Choice) : Prop where
  build : ∀ count, ∃ later, count ≤ later ∧ schedule later = .job 0
  process : ∀ count, ∃ later, count ≤ later ∧ schedule later = .child 0
  time : ∀ count, ∃ later, count ≤ later ∧ ∃ time, 0 < time ∧ schedule later = .pass time

/-- A schedule that gives the build and time a turn again and again, and its process perhaps never. -/
structure Driven (schedule : Nat → Choice) : Prop where
  build : ∀ count, ∃ later, count ≤ later ∧ schedule later = .job 0
  time : ∀ count, ∃ later, count ≤ later ∧ ∃ time, 0 < time ∧ schedule later = .pass time

theorem Fair.driven {schedule : Nat → Choice} (fair : Fair schedule) : Driven schedule :=
  ⟨fair.build, fair.time⟩

variable (solo : Solo State) (schedule : Nat → Choice)

/-- The build and its world after the first choices of a schedule. -/
def at_ (count : Nat) : System State := solo.after (first schedule count)

/-- Where the build stands after the first choices of a schedule. -/
def runAt (count : Nat) : BuildRun State :=
  match (solo.at_ schedule count).jobs with
  | [.build run] => run
  | _ => .start solo.request

theorem comes_at (count : Nat) :
    solo.Comes (first schedule count) (solo.at_ schedule count).world (solo.runAt schedule count)
      (solo.at_ schedule count).trace := by
  obtain ⟨run, jobs⟩ := solo.after_jobs (first schedule count)
  refine ⟨rfl, ?_, rfl⟩
  unfold runAt at_
  rw [jobs]

variable {solo schedule}

theorem jobs_at (count : Nat) :
    (solo.at_ schedule count).jobs = [.build (solo.runAt schedule count)] :=
  (solo.comes_at schedule count).jobs_eq

theorem runAt_eq {count : Nat} {run : BuildRun State}
    (jobs : (solo.at_ schedule count).jobs = [.build run]) : solo.runAt schedule count = run := by
  unfold runAt
  rw [jobs]

theorem at_succ (count : Nat) : solo.at_ schedule (count + 1)
    = (solo.at_ schedule count).act solo.programs solo.setting solo.builder (schedule count) := by
  unfold at_ after
  rw [first_succ]
  exact List.foldl_append

variable (solo schedule) in
/-- From one moment to the next, the build takes a turn or nothing happens. -/
theorem at_next (count : Nat) :
    (solo.runAt schedule (count + 1) = solo.runAt schedule count ∧
      (solo.at_ schedule (count + 1)).world.files = (solo.at_ schedule count).world.files) ∨
      ∃ events, solo.Turn (solo.at_ schedule count).world (solo.runAt schedule count)
        (solo.at_ schedule (count + 1)).world (solo.runAt schedule (count + 1)) events := by
  have now := solo.comes_at schedule (count + 1)
  rw [first_succ] at now
  rcases (solo.comes_at schedule count).next now with ⟨same, _, files, _⟩ | ⟨events, turn, _⟩
  · exact .inl ⟨same, files⟩
  · exact .inr ⟨events, turn⟩

variable (solo schedule) in
/-- Time does not go back. -/
theorem clock_succ (count : Nat) :
    (solo.at_ schedule count).world.clock ≤ (solo.at_ schedule (count + 1)).world.clock := by
  have builds : ∀ job ∈ (solo.at_ schedule count).jobs, ∃ run : BuildRun State, job = .build run := by
    intro job member
    rw [jobs_at] at member
    exact ⟨_, List.mem_singleton.mp member⟩
  rw [at_succ]
  rcases System.act_cases solo.programs solo.setting solo.builder builds (schedule count) with
    idle | ⟨_, _, _, _, turned⟩
  · exact idle.clock
  · exact Nat.le_of_eq turned.turn.clock.symm

variable (solo schedule) in
theorem clock_mono {count later : Nat} (order : count ≤ later) :
    (solo.at_ schedule count).world.clock ≤ (solo.at_ schedule later).world.clock := by
  induction order with
  | refl => exact Nat.le_refl _
  | step _ ih => exact Nat.le_trans ih (solo.clock_succ schedule _)

variable (solo) in
/-- **Any time comes.** -/
theorem Driven.clock_reaches (driven : Driven schedule) (time count : Nat) :
    ∃ later, count ≤ later ∧ time ≤ (solo.at_ schedule later).world.clock := by
  induction time with
  | zero => exact ⟨count, Nat.le_refl _, Nat.zero_le _⟩
  | succ time ih =>
    obtain ⟨middle, order, reached⟩ := ih
    obtain ⟨later, order', pause, positive, passes⟩ := driven.time middle
    refine ⟨later + 1, by omega, ?_⟩
    have before := solo.clock_mono schedule order'
    rw [at_succ, passes]
    show time + 1 ≤ (solo.at_ schedule later).world.clock + pause
    omega

/-- The build takes its next step when it is its turn and it is able to. -/
theorem own_step {count : Nat} (turn : schedule count = .job 0)
    (alive : (solo.at_ schedule count).endedBy? = none)
    (able : (solo.runAt schedule count).isAble solo.builder (solo.at_ schedule count).world.clock
      = true) :
    ∃ events, BuildRun.Step solo.programs solo.setting solo.builder (solo.at_ schedule count).world
      (solo.runAt schedule count) (solo.at_ schedule (count + 1)).world
      (solo.runAt schedule (count + 1)) events := by
  have steps := BuildRun.act_step solo.programs solo.setting solo.builder
    (solo.at_ schedule count).world _ (BuildRun.result?_of_isAble able)
  have after : solo.at_ schedule (count + 1) = (solo.at_ schedule count).actJob solo.programs
      solo.setting solo.builder 0 := by
    rw [at_succ, turn]
    rfl
  simp only [System.actJob, jobs_at, List.getElem?_cons_zero, alive, Job.isAble, able, if_true,
    Job.act] at after
  have run' := runAt_eq (congrArg System.jobs after)
  rw [run', after]
  exact ⟨_, steps⟩

/-- The process of the build takes its next step when it is its turn and it is awake. -/
theorem process_step {count : Nat} (turn : schedule count = .child 0) {command : Command}
    {state : State} {wakes since due : Nat} {later : List Command}
    (phase : (solo.runAt schedule count).phase
      = .running ⟨command, .waiting (.running state wakes) since due⟩ later)
    (awake : wakes ≤ (solo.at_ schedule count).world.clock) :
    ∃ child, child.Follows (solo.programs.step (solo.at_ schedule count).world.files state).2 ∧
      (solo.runAt schedule (count + 1)).phase
        = .running ⟨command, .waiting child since due⟩ later ∧
      (solo.at_ schedule (count + 1)).world.files
        = (solo.programs.step (solo.at_ schedule count).world.files state).1 := by
  have listed : (solo.at_ schedule count).jobs[0]? = some (.build (solo.runAt schedule count)) := by
    rw [jobs_at]
    rfl
  obtain ⟨child, events, stepped⟩ :=
    System.actChild_awake solo.programs solo.setting listed phase awake
  have after : solo.at_ schedule (count + 1) = (solo.at_ schedule count).actChild solo.programs
      solo.setting 0 := by
    rw [at_succ, turn]
    rfl
  rw [← after] at stepped
  refine ⟨child, stepped.follows, ?_, stepped.files⟩
  have jobs := stepped.jobs
  rw [jobs_at count] at jobs
  rw [runAt_eq jobs]

/-! ### The end -/

variable (solo schedule) in
/-- The build waits for its process, which still runs, among some files. -/
def Awaits (count : Nat) (command : Command) (state : State) (wakes since : Nat)
    (later : List Command) (fs : FileSystem) : Prop :=
  (∃ due, (solo.runAt schedule count).phase
    = .running ⟨command, .waiting (.running state wakes) since due⟩ later) ∧
  (solo.at_ schedule count).world.files = fs

variable (solo schedule) in
/-- From one moment to the next, the process of the build takes a step. -/
def Proceeds (count : Nat) (command : Command) (state : State) (since : Nat)
    (later : List Command) (fs : FileSystem) : Prop :=
  ∃ child due, child.Follows (solo.programs.step fs state).2 ∧
    (solo.runAt schedule (count + 1)).phase = .running ⟨command, .waiting child since due⟩ later ∧
    (solo.at_ schedule (count + 1)).world.files = (solo.programs.step fs state).1

variable (solo schedule) in
/-- A moment after which the rank is lower, or the build is as it was, or waits for its process. -/
theorem rank_succ (count : Nat) :
    (solo.runAt schedule (count + 1)).phase.rank < (solo.runAt schedule count).phase.rank ∨
      (solo.runAt schedule (count + 1) = solo.runAt schedule count ∧
        (solo.at_ schedule (count + 1)).world.files = (solo.at_ schedule count).world.files) ∨
      ∃ command state wakes since later,
        solo.Awaits schedule count command state wakes since later
          (solo.at_ schedule count).world.files ∧
        (solo.Awaits schedule (count + 1) command state wakes since later
            (solo.at_ schedule count).world.files ∨
          solo.Proceeds schedule count command state since later
            (solo.at_ schedule count).world.files) := by
  rcases solo.at_next schedule count with same | ⟨events, turn⟩
  · exact .inr (.inl same)
  · rcases turn.rank with lower | ⟨command, state, wakes, since, due, later, phase, next⟩
    · exact .inl lower
    · refine .inr (.inr ⟨command, state, wakes, since, later, ⟨⟨due, phase⟩, rfl⟩, ?_⟩)
      rcases next with ⟨due', phase', files⟩ | ⟨child, follows, phase', files⟩
      · exact .inl ⟨⟨due', phase'⟩, files⟩
      · exact .inr ⟨child, due, follows, phase', files⟩

/-- A build that waits for its process goes on to do so until the process takes a step. -/
theorem awaits_until {count : Nat} {command : Command} {state : State} {wakes since : Nat}
    {later : List Command} {fs : FileSystem}
    (awaits : solo.Awaits schedule count command state wakes since later fs)
    (stuck : ∀ after, count ≤ after →
      (solo.runAt schedule count).phase.rank ≤ (solo.runAt schedule after).phase.rank)
    {after : Nat} (order : count ≤ after) :
    solo.Awaits schedule after command state wakes since later fs ∨
      ∃ between, count ≤ between ∧ solo.Proceeds schedule between command state since later fs := by
  induction order with
  | refl => exact .inl awaits
  | @step after order ih =>
    rcases ih with still | ⟨between, order', proceeds⟩
    · obtain ⟨⟨due, phase⟩, files⟩ := still
      obtain ⟨due₀, phase₀⟩ := awaits.1
      rcases solo.rank_succ schedule after with
        lower | ⟨same, files'⟩ | ⟨_, _, _, _, _, ⟨⟨_, phase'⟩, _⟩, next⟩
      · have kept := stuck (after + 1) (Nat.le_succ_of_le order)
        rw [phase₀] at kept
        rw [phase] at lower
        simp only [BuildPhase.rank, StagePhase.rank] at kept lower
        omega
      · refine .inl ⟨⟨due, ?_⟩, files'.trans files⟩
        rw [same, phase]
      · rw [phase] at phase'
        cases phase'
        rw [files] at next
        rcases next with still | proceeds
        · exact .inl still
        · exact .inr ⟨after, order, proceeds⟩
    · exact .inr ⟨between, order', proceeds⟩

/-- The process of a build takes a step at some point if the build waits for it until then. -/
theorem Fair.proceeds (fair : Fair schedule) {count : Nat} {command : Command} {state : State}
    {wakes since : Nat} {later : List Command} {fs : FileSystem}
    (awaits : solo.Awaits schedule count command state wakes since later fs)
    (stuck : ∀ after, count ≤ after →
      (solo.runAt schedule count).phase.rank ≤ (solo.runAt schedule after).phase.rank) :
    ∃ after, count ≤ after ∧ solo.Proceeds schedule after command state since later fs := by
  obtain ⟨awake, order, reached⟩ := fair.driven.clock_reaches solo wakes count
  obtain ⟨turn, order', isTurn⟩ := fair.process awake
  rcases awaits_until awaits stuck (Nat.le_trans order order') with ⟨⟨due, phase⟩, files⟩ | proceeds
  · have passed := solo.clock_mono schedule order'
    obtain ⟨child, follows, phase', files'⟩ := process_step isTurn phase (Nat.le_trans reached passed)
    rw [files] at follows files'
    exact ⟨turn, Nat.le_trans order order', child, due, follows, phase', files'⟩
  · exact proceeds

/-- **A process that finishes is not waited for forever.** -/
theorem Fair.not_awaits (fair : Fair schedule)
    {harmless : Nat → Prop} {fs fs' : FileSystem} {state : State} {status : WaitStatus}
    (finishes : solo.programs.Finishes harmless fs state fs' status) {count : Nat} {command : Command}
    {wakes since : Nat} {later : List Command}
    (awaits : solo.Awaits schedule count command state wakes since later fs) :
    ∃ after, count ≤ after ∧
      (solo.runAt schedule after).phase.rank < (solo.runAt schedule count).phase.rank := by
  induction finishes generalizing count wakes with
  | @ends fs fs' state status ends =>
    by_contra never
    simp only [not_exists, not_and, Nat.not_lt] at never
    obtain ⟨after, order, child, due, follows, phase, _⟩ := fair.proceeds awaits never
    obtain ⟨due₀, phase₀⟩ := awaits.1
    rw [ends] at follows
    cases child with
    | running next wakes' => cases follows
    | ended status' =>
      have kept := never (after + 1) (Nat.le_succ_of_le order)
      rw [phase, phase₀] at kept
      simp only [BuildPhase.rank, StagePhase.rank] at kept
      omega
  | @goesOn fs mid fs' state next move status steps moves _ rest ih =>
    by_contra never
    simp only [not_exists, not_and, Nat.not_lt] at never
    obtain ⟨after, order, child, due, follows, phase, files⟩ := fair.proceeds awaits never
    obtain ⟨due₀, phase₀⟩ := awaits.1
    rw [steps] at follows files
    cases child with
    | running next' wakes' =>
      obtain rfl := Option.some.inj (follows.symm.trans moves)
      obtain ⟨last, order', lower⟩ := ih ⟨⟨due, phase⟩, files⟩
      have kept := never last (Nat.le_trans (Nat.le_succ_of_le order) order')
      rw [phase] at lower
      rw [phase₀] at kept
      simp only [BuildPhase.rank, StagePhase.rank] at kept lower
      omega
    | ended status' =>
      cases follows
      cases moves

/-- A build that is not done and does not wait for a running process is able to go on, at the latest
at some time. -/
theorem able_from (builder : Builder) {run : BuildRun State}
    (unfinished : ∀ result, run.phase ≠ .finished result)
    (idle : ∀ command state wakes since due later,
      run.phase ≠ .running ⟨command, .waiting (.running state wakes) since due⟩ later) :
    ∃ due, ∀ clock, due ≤ clock → run.isAble builder clock = true := by
  cases phase : run.phase with
  | running stage later =>
    obtain ⟨command, stagePhase⟩ := stage
    cases stagePhase with
    | waiting child since due =>
      cases child with
      | running state wakes => exact absurd phase (idle _ _ _ _ _ _)
      | ended status =>
        refine ⟨due, fun clock reached => ?_⟩
        simp only [BuildRun.isAble, phase, StageRun.isAble, Child.isRunning]
        by_cases blocking : builder.stageOptions.isBlocking = true
        · simp [blocking]
        · simp [blocking, reached]
    | _ =>
      refine ⟨0, fun clock _ => ?_⟩
      simp [BuildRun.isAble, phase, StageRun.isAble, StageRun.result?]
  | finished result => exact absurd phase (unfinished result)
  | _ =>
    refine ⟨0, fun clock _ => ?_⟩
    simp [BuildRun.isAble, phase]

/-- **A build that is not done gets on**, if it does not wait for a running process. -/
theorem Driven.lowers_idle (driven : Driven schedule) {count : Nat}
    (alive : ∀ after, count ≤ after → (solo.at_ schedule after).endedBy? = none)
    (unfinished : ∀ result, (solo.runAt schedule count).phase ≠ .finished result)
    (idle : ∀ command state wakes since due later, (solo.runAt schedule count).phase
      ≠ .running ⟨command, .waiting (.running state wakes) since due⟩ later) :
    ∃ after, count ≤ after ∧
      (solo.runAt schedule after).phase.rank < (solo.runAt schedule count).phase.rank := by
  by_contra never
  simp only [not_exists, not_and, Nat.not_lt] at never
  have steady : ∀ after, count ≤ after →
      solo.runAt schedule after = solo.runAt schedule count := by
    intro after order
    induction order with
    | refl => rfl
    | @step after order ih =>
      rcases solo.rank_succ schedule after with
        lower | ⟨same, _⟩ | ⟨_, _, _, _, _, ⟨⟨_, phase⟩, _⟩, _⟩
      · have kept := never (after + 1) (Nat.le_succ_of_le order)
        rw [ih] at lower
        omega
      · rw [same, ih]
      · rw [ih] at phase
        exact absurd phase (idle _ _ _ _ _ _)
  obtain ⟨due, able⟩ := able_from solo.builder unfinished idle
  obtain ⟨ready, order, reached⟩ := driven.clock_reaches solo due count
  obtain ⟨turn, order', isTurn⟩ := driven.build ready
  have passed := solo.clock_mono schedule order'
  have same := steady turn (Nat.le_trans order order')
  obtain ⟨events, steps⟩ := own_step isTurn (alive turn (by omega)) (by
    rw [same]
    exact able _ (Nat.le_trans reached passed))
  rcases steps.rank with lower | ⟨_, _, _, _, _, _, _, phase, _⟩
  · have kept := never (turn + 1) (by omega)
    rw [same] at lower
    omega
  · rw [same] at phase
    exact absurd phase (idle _ _ _ _ _ _)

/-- **A build that always gets on until it is done** is done at some point, and stays so. -/
theorem done_of_lowers {begin_ : Nat}
    (lowers : ∀ count, begin_ ≤ count →
      (∀ result, (solo.runAt schedule count).phase ≠ .finished result) →
      ∃ after, count ≤ after ∧
        (solo.runAt schedule after).phase.rank < (solo.runAt schedule count).phase.rank) :
    ∃ count result, begin_ ≤ count ∧ ∀ after, count ≤ after →
      (solo.runAt schedule after).phase = .finished result := by
  have done : ∀ rank count, begin_ ≤ count → (solo.runAt schedule count).phase.rank ≤ rank →
      ∃ after result, begin_ ≤ after ∧ (solo.runAt schedule after).phase = .finished result := by
    intro rank
    induction rank with
    | zero =>
      intro count from_ low
      by_contra never
      simp only [not_exists, not_and] at never
      obtain ⟨after, _, lower⟩ := lowers count from_ fun result => never count result from_
      omega
    | succ rank ih =>
      intro count from_ low
      by_cases finished : ∃ result, (solo.runAt schedule count).phase = .finished result
      · obtain ⟨result, finished⟩ := finished
        exact ⟨count, result, from_, finished⟩
      · simp only [not_exists] at finished
        obtain ⟨after, order, lower⟩ := lowers count from_ finished
        exact ih after (Nat.le_trans from_ order) (by omega)
  obtain ⟨count, result, from_, finished⟩ := done _ begin_ (Nat.le_refl _) (Nat.le_refl _)
  refine ⟨count, result, from_, fun after order => ?_⟩
  induction order with
  | refl => exact finished
  | @step after order ih =>
    rcases solo.at_next schedule after with ⟨same, _⟩ | ⟨_, turn⟩
    · rw [same, ih]
    · exact absurd ih (unfinished_of_turn turn)

/-- **A build that goes on undisturbed from some moment is done at some point, and stays so.** -/
theorem Fair.ends_from (fair : Fair schedule) {begin_ : Nat}
    (alive : ∀ count, begin_ ≤ count → (solo.at_ schedule count).endedBy? = none)
    (finishing : ∀ count, begin_ ≤ count → ∀ command state wakes since due later,
      (solo.runAt schedule count).phase
        = .running ⟨command, .waiting (.running state wakes) since due⟩ later →
      ∃ harmless files status, solo.programs.Finishes harmless
        (solo.at_ schedule count).world.files state files status) :
    ∃ count result, begin_ ≤ count ∧ ∀ after, count ≤ after →
      (solo.runAt schedule after).phase = .finished result := by
  refine done_of_lowers fun count from_ unfinished => ?_
  by_cases waits : ∃ command state wakes since due later, (solo.runAt schedule count).phase
      = .running ⟨command, .waiting (.running state wakes) since due⟩ later
  · obtain ⟨command, state, wakes, since, due, later, phase⟩ := waits
    obtain ⟨harmless, files, status, finishes⟩ := finishing count from_ _ _ _ _ _ _ phase
    exact fair.not_awaits finishes ⟨⟨due, phase⟩, rfl⟩
  · simp only [not_exists] at waits
    exact fair.driven.lowers_idle (fun after order => alive after (Nat.le_trans from_ order))
      unfinished waits

/-- **A build is done at some point, and stays so.** -/
theorem Fair.ends (fair : Fair schedule)
    (alive : ∀ count, (solo.at_ schedule count).endedBy? = none)
    (finishing : ∀ count command state wakes since due later,
      (solo.runAt schedule count).phase
        = .running ⟨command, .waiting (.running state wakes) since due⟩ later →
      ∃ harmless files status, solo.programs.Finishes harmless
        (solo.at_ schedule count).world.files state files status) :
    ∃ count result, ∀ after, count ≤ after →
      (solo.runAt schedule after).phase = .finished result := by
  have done : ∃ count result, 0 ≤ count ∧ ∀ after, count ≤ after →
      (solo.runAt schedule after).phase = .finished result :=
    fair.ends_from (fun count _ => alive count) (fun count _ => finishing count)
  obtain ⟨count, result, _, done⟩ := done
  exact ⟨count, result, done⟩

/-- The build, its process and time take turns. -/
def inTurn (count : Nat) : Choice :=
  if count % 3 = 0 then .job 0 else if count % 3 = 1 then .child 0 else .pass 1

theorem inTurn_fair : Fair inTurn where
  build := fun count => ⟨3 * count, by omega, by simp [inTurn]⟩
  process := fun count => ⟨3 * count + 1, by omega, by simp [inTurn, Nat.add_mod]⟩
  time := fun count => ⟨3 * count + 2, by omega, 1, by omega, by simp [inTurn, Nat.add_mod]⟩

end Solo

end CalcBuild

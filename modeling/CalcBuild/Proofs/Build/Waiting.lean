/-
**Blocking and polling waits agree.**

A stage without timeout and flag waits for its process in one call, and otherwise looks at it in
intervals. Whatever the intervals are, and whenever the process ends, both come to the same: as long as
the flag is not raised and no process runs into the timeout, a run follows its sketch, and in a schedule
that gives everything a turn it does not stop before the end of the sketch.

* `System.Moves`: the choices with which a job goes on; with all others it rests;
* `System.act_moves`, `System.act_rests`: what both come to in the sketch;
* `Lone`, `Lone.Calm`: one job on its own, and schedules in which nothing cuts it short;
* `Calm.follows`, `Calm.reaches`: a run is in its sketch, and comes to all of it;
* `waits_agree`: the main theorem.
-/

import CalcBuild.Proofs.Build.Cancellation
import CalcBuild.Proofs.Build.Sketch

namespace CalcBuild

open Files

variable {State : Type}

/-! ### Choices -/

/-- No process of a job has run into the timeout. -/
def Job.IsOnTime (options : StageOptions) (clock : Nat) (job : Job State) : Prop :=
  ∀ command state wakes since due timeout,
    job.stage? = some ⟨command, .waiting (.running state wakes) since due⟩ →
    options.timeout? = some timeout → clock - since < timeout

/-- **A look at a process that still runs** leaves everything as it is, the time of the next look
apart. -/
theorem Job.act_looks {programs : Programs State} {setting : Setting} {builder : Builder}
    {world : World} {job : Job State} {state : State} {wakes : Nat}
    (waits : job.child? = some (.running state wakes))
    (uncancelled : builder.stageOptions.cancelledBy world.flag = none)
    (onTime : job.IsOnTime builder.stageOptions world.clock) :
    (job.act programs setting builder world).1 = world ∧
      (job.act programs setting builder world).2.1.untimed = job.untimed ∧
      (job.act programs setting builder world).2.1.child? = job.child? := by
  have looks (command : Command) (since due : Nat)
      (stage : job.stage? = some ⟨command, .waiting (.running state wakes) since due⟩) :
      StageRun.act programs setting builder.stageOptions world
          ⟨command, .waiting (.running state wakes) since due⟩
        = (⟨command, .waiting (.running state wakes) since
            (world.clock + StageOptions.pollInterval)⟩, []) := by
    have early (timeout : Nat) := onTime command state wakes since due timeout stage
    simp only [StageRun.act, Child.status?, poll_early uncancelled early]
  obtain ⟨command, since, due, rfl | ⟨run, later, rfl, phase⟩⟩ := waiting_of_child waits
  · simp only [act, looks command since due rfl]
    exact ⟨trivial, rfl, rfl⟩
  · obtain ⟨request, _, results, workspace?, staging?⟩ := run
    cases phase
    simp only [act, BuildRun.act, StageRun.result?, looks command since due rfl]
    exact ⟨trivial, rfl, rfl⟩

namespace System

/-- A choice with which a job goes on: it takes a step of its own and no process of it runs, or its
process takes a step. -/
def Moves (builder : Builder) (system : System State) (job : Job State) : Choice → Prop
  | .job 0 => system.endedBy? = none ∧ job.IsSettled ∧ job.isAble builder system.world.clock = true
  | .child 0 => ∃ state wakes, job.child? = some (.running state wakes) ∧ wakes ≤ system.world.clock
  | _ => False

/-- A job rests: its sketch and its process are as they were, and the job itself if no process of it
runs. -/
structure Rests (world : World) (job : Job State) (world' : World) (job' : Job State) : Prop where
  sketch : Sketch.of world' job' = Sketch.of world job
  child : job'.child? = job.child?
  settled : job.IsSettled → job' = job

theorem Rests.refl (world : World) (job : Job State) : Rests world job world job :=
  ⟨rfl, rfl, fun _ => rfl⟩

theorem Rests.trans {world world' world'' : World} {job job' job'' : Job State}
    (earlier : Rests world job world' job') (later : Rests world' job' world'' job'') :
    Rests world job world'' job'' where
  sketch := later.sketch.trans earlier.sketch
  child := later.child.trans earlier.child
  settled := by
    intro settled
    have same := earlier.settled settled
    rw [later.settled (same ▸ settled), same]

variable {programs : Programs State} {setting : Setting} {builder : Builder} {system : System State}
  {job : Job State} {choice : Choice}

/-- **When a job goes on, what comes next in the sketch happens.** -/
theorem act_moves (jobs : system.jobs = [job])
    (uncancelled : builder.stageOptions.cancelledBy system.world.flag = none)
    (moves : system.Moves builder job choice) :
    ∃ job', (system.act programs setting builder choice).jobs = [job'] ∧
      Sketch.of (system.act programs setting builder choice).world job'
        = (Sketch.of system.world job).advance programs setting builder := by
  cases choice with
  | pass time | raise signal => exact moves.elim
  | job index =>
    cases index with
    | succ more => exact moves.elim
    | zero =>
      obtain ⟨alive, settled, able⟩ := moves
      rw [Sketch.advance_of_settled settled uncancelled]
      simp only [act, actJob, jobs, List.getElem?_cons_zero, alive, able, if_true]
      exact ⟨_, rfl, rfl⟩
  | child index =>
    cases index with
    | succ more => exact moves.elim
    | zero =>
      obtain ⟨state, wakes, waits, awake⟩ := moves
      have advanced (child : Child State)
          (same : child.untimed = (programs.step system.world.files state).2.child) :
          Sketch.of { system.world with files := (programs.step system.world.files state).1 }
              (job.withChild child)
            = (Sketch.of system.world job).advance programs setting builder :=
        (Sketch.advance_of_running waits same).symm
      simp only [act, actChild, jobs, List.getElem?_cons_zero, waits, awake, if_true]
      cases move : (programs.step system.world.files state).2 with
      | goesOn next => exact ⟨_, rfl, advanced _ (by rw [move]; rfl)⟩
      | sleeps pause next => exact ⟨_, rfl, advanced _ (by rw [move]; rfl)⟩
      | prints channel bytes next => exact ⟨_, rfl, advanced _ (by rw [move]; rfl)⟩
      | ends status => exact ⟨_, rfl, advanced _ (by rw [move]; rfl)⟩
      | signals signal next =>
        have idle (before : System State) := (deliver_idle setting signal before).1
        refine ⟨_, (idle _).jobs, ?_⟩
        rw [← advanced (.running next wakes) (by rw [move]; rfl)]
        unfold Sketch.of
        rw [World.untimed_eq_iff.mpr ⟨(idle _).files, (idle _).drawn⟩]

/-- **Otherwise it rests**, if nothing cuts it short. -/
theorem act_rests (jobs : system.jobs = [job])
    (uncancelled : builder.stageOptions.cancelledBy system.world.flag = none)
    (onTime : job.IsOnTime builder.stageOptions system.world.clock)
    (still : ¬ system.Moves builder job choice) :
    ∃ job', (system.act programs setting builder choice).jobs = [job'] ∧
      Rests system.world job (system.act programs setting builder choice).world job' := by
  have rests : ∃ job', system.jobs = [job'] ∧ Rests system.world job system.world job' :=
    ⟨job, jobs, .refl _ _⟩
  cases choice with
  | pass time | raise signal => exact ⟨job, jobs, rfl, rfl, fun _ => rfl⟩
  | job index =>
    cases index with
    | succ more =>
      simpa only [act, actJob, jobs, List.getElem?_cons_succ, List.getElem?_nil] using rests
    | zero =>
      simp only [act, actJob, jobs, List.getElem?_cons_zero]
      cases ended : system.endedBy? with
      | some signal => exact rests
      | none =>
        dsimp only
        by_cases able : job.isAble builder system.world.clock = true
        · have unsettled : ¬ job.IsSettled := fun settled => still ⟨ended, settled, able⟩
          simp only [Job.IsSettled, not_forall, not_not] at unsettled
          obtain ⟨state, wakes, waits⟩ := unsettled
          obtain ⟨world, same, child⟩ := @Job.act_looks _ programs setting builder _ _ _ _ waits
            uncancelled onTime
          rw [if_pos able]
          refine ⟨_, rfl, ?_, child, fun settled => absurd waits (settled state wakes)⟩
          unfold Sketch.of
          rw [same, world]
        · rw [if_neg able]
          exact rests
  | child index =>
    cases index with
    | succ more =>
      simpa only [act, actChild, jobs, List.getElem?_cons_succ, List.getElem?_nil] using rests
    | zero =>
      simp only [act, actChild, jobs, List.getElem?_cons_zero]
      cases waits : job.child? with
      | none => exact rests
      | some child =>
        cases child with
        | ended status => exact rests
        | running state wakes =>
          dsimp only
          rw [if_neg fun awake => still ⟨state, wakes, waits, awake⟩]
          exact rests

/-- Time does not go back. -/
theorem clock_act (system : System State) (choice : Choice) :
    system.world.clock ≤ (system.act programs setting builder choice).world.clock := by
  cases choice with
  | pass time => exact Nat.le_add_right _ _
  | raise signal => exact Nat.le_refl _
  | job index =>
    show _ ≤ (system.actJob programs setting builder index).world.clock
    unfold actJob
    split
    · rename_i job _ _
      split
      · rename_i able
        cases job with
        | stage run => exact Nat.le_refl _
        | build run =>
          exact Nat.le_of_eq (BuildRun.act_step programs setting builder system.world run
            (BuildRun.result?_of_isAble able)).clock.symm
      · exact Nat.le_refl _
    · exact Nat.le_refl _
  | child index =>
    show _ ≤ (system.actChild programs setting index).world.clock
    unfold actChild
    split
    · exact Nat.le_refl _
    · split
      · split
        · dsimp only
          have delivered (signal : Nat) (before : System State) :
              (before.deliver setting signal).world.clock = before.world.clock :=
            (deliver_idle setting signal before).2
          split <;> first | exact Nat.le_refl _ | exact Nat.le_of_eq (by rw [delivered])
        · exact Nat.le_refl _
      · exact Nat.le_refl _

end System

/-- A job that is not done and whose process does not run is able to go on at the latest at some time. -/
theorem Job.able_from (builder : Builder) {job : Job State} (settled : job.IsSettled)
    (unfinished : job.isFinished = false) :
    ∃ due, ∀ clock, due ≤ clock → job.isAble builder clock = true := by
  have stages (run : StageRun State) (undone : run.result? = none)
      (idle : ∀ state wakes, run.child? ≠ some (.running state wakes)) :
      ∃ due, ∀ clock, due ≤ clock → run.isAble builder.stageOptions clock = true := by
    obtain ⟨command, phase⟩ := run
    cases phase with
    | waiting child since due =>
      cases child with
      | running state wakes => exact absurd rfl (idle state wakes)
      | ended status =>
        refine ⟨due, fun clock reached => ?_⟩
        simp [StageRun.isAble, Child.isRunning, reached]
    | finished result => cases undone
    | _ => exact ⟨0, fun _ _ => rfl⟩
  cases job with
  | stage run =>
    exact stages run (Option.not_isSome_iff_eq_none.mp (Bool.eq_false_iff.mp unfinished)) settled
  | build run =>
    obtain ⟨request, phase, results, workspace?, staging?⟩ := run
    cases phase with
    | running stage later =>
      cases undone : stage.result? with
      | some result => exact ⟨0, fun _ _ => by simp [isAble, BuildRun.isAble, undone]⟩
      | none =>
        obtain ⟨due, able⟩ := stages stage undone settled
        exact ⟨due, fun clock reached => by simp [isAble, BuildRun.isAble, able clock reached]⟩
    | finished result => cases unfinished
    | _ => exact ⟨0, fun _ _ => rfl⟩

/-! ### One job on its own -/

/-- One job on its own: the machine, what the job finds, and what is to be done. -/
structure Lone (State : Type) where
  programs : Programs State
  setting : Setting
  builder : Builder
  world : World
  job : Job State

namespace Lone

open Solo (Fair first)

variable (lone : Lone State) (schedule : Nat → Choice)

/-- The same with other options for the stages. -/
def under (options : StageOptions) : Lone State :=
  { lone with builder := lone.builder.under options }

/-- The job and its world after the first choices of a schedule. -/
def at_ (count : Nat) : System State :=
  (System.start lone.world [lone.job]).run lone.programs lone.setting lone.builder
    (first schedule count)

/-- What happens next in a sketch. -/
def advance : Sketch State → Sketch State :=
  Sketch.advance lone.programs lone.setting lone.builder

/-- Nothing cuts the job short: the flag is not raised, if it is looked at, and no process runs into the
timeout, if there is one. -/
structure Calm : Prop where
  uncancelled : ∀ count,
    lone.builder.stageOptions.cancelledBy (lone.at_ schedule count).world.flag = none
  onTime : ∀ count job, (lone.at_ schedule count).jobs = [job] →
    job.IsOnTime lone.builder.stageOptions (lone.at_ schedule count).world.clock

/-- The processes of the job end by themselves, and none of them ends the driver. -/
def Ending : Prop :=
  ∀ count job state wakes, (lone.at_ schedule count).jobs = [job] →
    job.child? = some (.running state wakes) →
    ∃ fs' status, lone.programs.Finishes lone.setting.IsHarmless
      (lone.at_ schedule count).world.files state fs' status

/-- At some moment a job stands as in a sketch. -/
def ShowsAt (count : Nat) (sketch : Sketch State) : Prop :=
  ∃ job, (lone.at_ schedule count).jobs = [job] ∧
    Sketch.of (lone.at_ schedule count).world job = sketch

variable {lone schedule}

theorem at_succ (count : Nat) : lone.at_ schedule (count + 1)
    = (lone.at_ schedule count).act lone.programs lone.setting lone.builder (schedule count) := by
  unfold at_
  rw [Solo.first_succ]
  exact List.foldl_append

/-- **From one moment to the next a job goes on or rests.** -/
theorem Calm.next (calm : lone.Calm schedule) {count : Nat} {job : Job State}
    (jobs : (lone.at_ schedule count).jobs = [job]) :
    ∃ job', (lone.at_ schedule (count + 1)).jobs = [job'] ∧
      ((lone.at_ schedule count).Moves lone.builder job (schedule count) ∧
          Sketch.of (lone.at_ schedule (count + 1)).world job'
            = lone.advance (Sketch.of (lone.at_ schedule count).world job) ∨
        ¬ (lone.at_ schedule count).Moves lone.builder job (schedule count) ∧
          System.Rests (lone.at_ schedule count).world job
            (lone.at_ schedule (count + 1)).world job') := by
  rw [at_succ]
  by_cases moves : (lone.at_ schedule count).Moves lone.builder job (schedule count)
  · obtain ⟨job', jobs', next⟩ := System.act_moves jobs (calm.uncancelled count) moves
    exact ⟨job', jobs', .inl ⟨moves, next⟩⟩
  · obtain ⟨job', jobs', rests⟩ :=
      System.act_rests jobs (calm.uncancelled count) (calm.onTime count job jobs) moves
    exact ⟨job', jobs', .inr ⟨moves, rests⟩⟩

/-- **A run is in its sketch at every moment.** -/
theorem Calm.follows (calm : lone.Calm schedule) (count : Nat) :
    ∃ steps, lone.ShowsAt schedule count (lone.advance^[steps] (Sketch.of lone.world lone.job)) := by
  induction count with
  | zero => exact ⟨0, lone.job, rfl, rfl⟩
  | succ count ih =>
    obtain ⟨steps, job, jobs, shows_⟩ := ih
    obtain ⟨job', jobs', ⟨_, next⟩ | ⟨_, rests⟩⟩ := calm.next jobs
    · refine ⟨steps + 1, job', jobs', ?_⟩
      rw [next, shows_, Function.iterate_succ_apply']
    · exact ⟨steps, job', jobs', rests.sketch.trans shows_⟩

theorem clock_mono {count later : Nat} (order : count ≤ later) :
    (lone.at_ schedule count).world.clock ≤ (lone.at_ schedule later).world.clock := by
  induction order with
  | refl => exact Nat.le_refl _
  | step _ ih =>
    rw [at_succ]
    exact Nat.le_trans ih (System.clock_act _ _)

theorem clock_reaches (fair : Fair schedule) (time count : Nat) :
    ∃ later, count ≤ later ∧ time ≤ (lone.at_ schedule later).world.clock := by
  induction time with
  | zero => exact ⟨count, Nat.le_refl _, Nat.zero_le _⟩
  | succ time ih =>
    obtain ⟨middle, order, reached⟩ := ih
    obtain ⟨later, order', pause, positive, passes⟩ := fair.time middle
    refine ⟨later + 1, by omega, ?_⟩
    have before := @clock_mono _ lone schedule _ _ order'
    rw [at_succ, passes]
    show time + 1 ≤ (lone.at_ schedule later).world.clock + pause
    omega

/-- **In a schedule that gives everything a turn a job does not stay where it is**, unless it is done. -/
theorem Calm.advances (calm : lone.Calm schedule) (fair : Fair schedule)
    (alive : ∀ count, (lone.at_ schedule count).endedBy? = none) {count : Nat}
    {sketch : Sketch State} (shows_ : lone.ShowsAt schedule count sketch) :
    ∃ later, lone.ShowsAt schedule later (lone.advance sketch) := by
  obtain ⟨job, jobs, rfl⟩ := shows_
  by_contra stuck
  -- Otherwise the job rests for ever.
  have rests : ∀ after, count ≤ after → ∃ job', (lone.at_ schedule after).jobs = [job'] ∧
      System.Rests (lone.at_ schedule count).world job (lone.at_ schedule after).world job' := by
    intro after order
    induction order with
    | refl => exact ⟨job, jobs, .refl _ _⟩
    | @step after _ ih =>
      obtain ⟨job', jobs', rests⟩ := ih
      obtain ⟨job'', jobs'', ⟨_, next⟩ | ⟨_, further⟩⟩ := calm.next jobs'
      · rw [rests.sketch] at next
        exact absurd ⟨after + 1, job'', jobs'', next⟩ stuck
      · exact ⟨job'', jobs'', rests.trans further⟩
  have never {after : Nat} (order : count ≤ after) {job' : Job State}
      (jobs' : (lone.at_ schedule after).jobs = [job'])
      (rests' : System.Rests (lone.at_ schedule count).world job (lone.at_ schedule after).world job') :
      ¬ (lone.at_ schedule after).Moves lone.builder job' (schedule after) := by
    intro moves
    obtain ⟨job'', jobs'', ⟨_, next⟩ | ⟨still, _⟩⟩ := calm.next jobs'
    · rw [rests'.sketch] at next
      exact stuck ⟨after + 1, job'', jobs'', next⟩
    · exact still moves
  by_cases settled : job.IsSettled
  · have unfinished : job.isFinished = false := by
      by_contra finished
      refine stuck ⟨count, job, jobs, (Sketch.advance_finished ?_).symm⟩
      exact (Job.isFinished_untimed job).trans (Bool.not_eq_false _ ▸ finished)
    obtain ⟨due, able⟩ := Job.able_from lone.builder settled unfinished
    obtain ⟨ready, order, reached⟩ := clock_reaches fair due count
    obtain ⟨turn, order', isTurn⟩ := fair.build ready
    obtain ⟨job', jobs', rests'⟩ := rests turn (Nat.le_trans order order')
    obtain rfl := rests'.settled settled
    refine never (Nat.le_trans order order') jobs' rests' ?_
    rw [isTurn]
    exact ⟨alive turn, settled, able _ (Nat.le_trans reached (clock_mono order'))⟩
  · simp only [Job.IsSettled, not_forall, not_not] at settled
    obtain ⟨state, wakes, waits⟩ := settled
    obtain ⟨ready, order, reached⟩ := clock_reaches fair wakes count
    obtain ⟨turn, order', isTurn⟩ := fair.process ready
    obtain ⟨job', jobs', rests'⟩ := rests turn (Nat.le_trans order order')
    refine never (Nat.le_trans order order') jobs' rests' ?_
    rw [isTurn]
    exact ⟨state, wakes, rests'.child.trans waits, Nat.le_trans reached (clock_mono order')⟩

/-- **A run comes to all of its sketch.** -/
theorem Calm.reaches (calm : lone.Calm schedule) (fair : Fair schedule)
    (alive : ∀ count, (lone.at_ schedule count).endedBy? = none) (steps : Nat) :
    ∃ count, lone.ShowsAt schedule count (lone.advance^[steps] (Sketch.of lone.world lone.job)) := by
  induction steps with
  | zero => exact ⟨0, lone.job, rfl, rfl⟩
  | succ steps ih =>
    obtain ⟨count, shows_⟩ := ih
    rw [Function.iterate_succ_apply']
    exact calm.advances fair alive shows_

/-- Nothing ends the driver. -/
theorem Calm.alive (calm : lone.Calm schedule) (ending : lone.Ending schedule) (count : Nat) :
    (lone.at_ schedule count).endedBy? = none := by
  induction count with
  | zero => rfl
  | succ count ih =>
    rw [at_succ]
    refine System.endedBy?_act _ ih fun job member state wakes signal next waits sends => ?_
    obtain ⟨_, only, jobs, _⟩ := calm.follows count
    rw [jobs] at member
    obtain rfl := List.mem_singleton.mp member
    obtain ⟨_, _, finishes⟩ := ending count job state wakes jobs waits
    exact finishes.signals sends

/-! ### What it comes to -/

/-- The processes that a sketch shows finish. -/
theorem ShowsAt.finishes {count : Nat} {sketch : Sketch State}
    (shows_ : lone.ShowsAt schedule count sketch) (ending : lone.Ending schedule) {state : State}
    {wakes : Nat} (waits : sketch.job.child? = some (.running state wakes)) :
    ∃ fs' status, lone.programs.Finishes lone.setting.IsHarmless sketch.world.files state fs' status := by
  obtain ⟨job, jobs, rfl⟩ := shows_
  have waits' : job.untimed.child? = some (.running state wakes) := waits
  rw [Job.child?_untimed, Option.map_eq_some_iff] at waits'
  obtain ⟨child, waits', same⟩ := waits'
  cases child with
  | running state' wakes' =>
    cases same
    exact ending count job state wakes' jobs waits'
  | ended status => cases same

/-- A job that is done stays as it is. -/
theorem Calm.stays (calm : lone.Calm schedule) {count : Nat} {sketch : Sketch State}
    (shows_ : lone.ShowsAt schedule count sketch) (finished : sketch.job.isFinished = true)
    {later : Nat} (order : count ≤ later) : lone.ShowsAt schedule later sketch := by
  induction order with
  | refl => exact shows_
  | step _ ih =>
    obtain ⟨job, jobs, rfl⟩ := ih
    obtain ⟨job', jobs', ⟨_, next⟩ | ⟨_, rests⟩⟩ := calm.next jobs
    · exact ⟨job', jobs', next.trans (Sketch.advance_finished finished)⟩
    · exact ⟨job', jobs', rests.sketch⟩

/-- Nothing cuts a job short that waits for its processes in one call. -/
theorem calm_blocking (lone : Lone State) (schedule : Nat → Choice) :
    (lone.under .blocking).Calm schedule :=
  ⟨fun _ => rfl, fun _ _ _ _ _ _ _ _ _ _ limit => nomatch limit⟩

end Lone

/-- The result of a job that is done. -/
def Job.result? : Job State → Option (Except BuildFailure (StageResult ⊕ BuildOutcome))
  | .stage run => run.result?.map (Except.map .inl)
  | .build run => run.result?.map (Except.map .inr)

/-- A result without the times that the stages took. -/
def untimedResult (result : Except BuildFailure (StageResult ⊕ BuildOutcome)) :
    Except BuildFailure (StageResult ⊕ BuildOutcome) :=
  result.map (Sum.map StageResult.untimed BuildOutcome.untimed)

theorem Job.result?_untimed (job : Job State) :
    job.untimed.result? = job.result?.map untimedResult := by
  cases job with
  | stage run =>
    obtain ⟨command, phase⟩ := run
    cases phase with
    | finished result => cases result <;> rfl
    | _ => rfl
  | build run =>
    obtain ⟨request, phase, results, workspace?, staging?⟩ := run
    cases phase with
    | finished result => cases result <;> rfl
    | _ => rfl

theorem Job.result?_of_isFinished {job : Job State} (finished : job.isFinished = true) :
    ∃ result, job.result? = some result := by
  cases job with
  | stage run =>
    obtain ⟨result, ends⟩ := Option.isSome_iff_exists.mp finished
    exact ⟨_, congrArg (Option.map _) ends⟩
  | build run =>
    obtain ⟨result, ends⟩ := Option.isSome_iff_exists.mp finished
    exact ⟨_, congrArg (Option.map _) ends⟩

/-- Some job is done, with a result, its times apart, and has left some files. -/
def System.DoneWith (system : System State)
    (result : Except BuildFailure (StageResult ⊕ BuildOutcome)) (files : FileSystem) : Prop :=
  ∃ job told, system.jobs = [job] ∧ job.result? = some told ∧ untimedResult told = result ∧
    system.world.files = files

namespace Lone

open Solo (Fair)

variable {lone : Lone State} {schedule : Nat → Choice}

theorem ShowsAt.doneWith {count : Nat} {sketch : Sketch State}
    (shows_ : lone.ShowsAt schedule count sketch)
    {result : Except BuildFailure (StageResult ⊕ BuildOutcome)}
    (done : sketch.job.result? = some result) :
    (lone.at_ schedule count).DoneWith result sketch.world.files := by
  obtain ⟨job, jobs, rfl⟩ := shows_
  have done' : job.untimed.result? = some result := done
  rw [Job.result?_untimed, Option.map_eq_some_iff] at done'
  obtain ⟨told, ends, same⟩ := done'
  exact ⟨job, told, jobs, ends, same, rfl⟩

/-- **Blocking and polling waits agree.** A stage or a build whose stages wait for their processes in one
call, and whose processes end by themselves, is done at some point. With any other options, under which
the flag is not raised and no process runs into the timeout, it comes to the same result, apart from the
times that stages took, and leaves the same files. -/
theorem waits_agree (lone : Lone State) (options : StageOptions) {blocking polling : Nat → Choice}
    (fair : Fair blocking) (ending : (lone.under .blocking).Ending blocking) (fair' : Fair polling)
    (calm : (lone.under options).Calm polling) :
    ∃ count result files, ∀ after, count ≤ after →
      ((lone.under .blocking).at_ blocking after).DoneWith result files ∧
      ((lone.under options).at_ polling after).DoneWith result files := by
  have calm₀ := calm_blocking lone blocking
  have reaches : ∀ steps, ∃ count, (lone.under .blocking).ShowsAt blocking count
      (lone.advance^[steps] (Sketch.of lone.world lone.job)) :=
    calm₀.reaches fair (calm₀.alive ending)
  have follows : ∀ count, ∃ steps, (lone.under options).ShowsAt polling count
      (lone.advance^[steps] (Sketch.of lone.world lone.job)) :=
    calm.follows
  have finishes (steps : Nat) {state : State} {wakes : Nat}
      (waits : (lone.advance^[steps] (Sketch.of lone.world lone.job)).job.child?
        = some (.running state wakes)) :
      ∃ fs' status, lone.programs.Finishes lone.setting.IsHarmless
        (lone.advance^[steps] (Sketch.of lone.world lone.job)).world.files state fs' status := by
    obtain ⟨_, shows_⟩ := reaches steps
    exact shows_.finishes ending waits
  -- The processes of the second run are those of the first one, among the same files.
  have ending' : (lone.under options).Ending polling := by
    intro count job state wakes jobs waits
    obtain ⟨steps, only, jobs', shows_⟩ := follows count
    obtain rfl : only = job := List.singleton_injective (jobs'.symm.trans jobs)
    have ends := @finishes steps state 0
    rw [← shows_] at ends
    refine ends ?_
    show only.untimed.child? = _
    rw [Job.child?_untimed, waits]
    rfl
  have reaches' : ∀ steps, ∃ count, (lone.under options).ShowsAt polling count
      (lone.advance^[steps] (Sketch.of lone.world lone.job)) :=
    calm.reaches fair' (calm.alive ending')
  obtain ⟨steps, finished⟩ := Sketch.ends (Sketch.of lone.world lone.job)
    fun steps state wakes waits => ⟨_, finishes steps waits⟩
  obtain ⟨result, done⟩ := Job.result?_of_isFinished finished
  obtain ⟨count, shows_⟩ := reaches steps
  obtain ⟨count', shows'⟩ := reaches' steps
  refine ⟨max count count', result, (lone.advance^[steps] (Sketch.of lone.world lone.job)).world.files,
    fun after order => ⟨?_, ?_⟩⟩
  · exact (calm₀.stays shows_ finished (Nat.le_trans (Nat.le_max_left _ _) order)).doneWith done
  · exact (calm.stays shows' finished (Nat.le_trans (Nat.le_max_right _ _) order)).doneWith done

/-! ### Calm runs -/

/-- The flag stays as it is if nothing raises it, from outside or by a signal. -/
theorem flag_at (unraised : ∀ count signal, schedule count ≠ .raise signal)
    (deaf : ∀ signal, lone.setting.signalEffect signal ≠ .raises) (count : Nat) :
    (lone.at_ schedule count).world.flag = lone.world.flag := by
  induction count with
  | zero => rfl
  | succ count ih =>
    have silent : (lone.at_ schedule count).calls lone.programs lone.setting (schedule count) = [] := by
      cases chosen : schedule count with
      | raise signal => exact absurd chosen (unraised count signal)
      | child index =>
        have calls (job : Job State) :
            (lone.at_ schedule count).childCalls lone.programs lone.setting job = [] := by
          unfold System.childCalls
          repeat' split
          all_goals first | rfl | exact absurd (by assumption) (deaf _)
        cases found : (lone.at_ schedule count).jobs[index]? with
        | none => simp [System.calls, found]
        | some job => simp [System.calls, found, calls job]
      | _ => rfl
    rw [at_succ, System.flag_act, silent]
    exact ih

/-- A run that is calm until the job is done is calm. -/
theorem calm_of_done (uncancelled : ∀ count,
      lone.builder.stageOptions.cancelledBy (lone.at_ schedule count).world.flag = none)
    {end_ : Nat} {job : Job State} (jobs : (lone.at_ schedule end_).jobs = [job])
    (finished : job.isFinished = true)
    (onTime : ∀ count, count < end_ → ∀ job, (lone.at_ schedule count).jobs = [job] →
      job.IsOnTime lone.builder.stageOptions (lone.at_ schedule count).world.clock) :
    lone.Calm schedule := by
  have settled := Job.settled_finished finished
  have idle : ∀ clock, job.IsOnTime lone.builder.stageOptions clock := by
    intro clock command state wakes since due timeout stage
    have waits : job.child? = some (.running state wakes) := by
      unfold Job.child?
      rw [stage]
      rfl
    exact absurd waits (settled state wakes)
  have still (count : Nat) :
      ¬ (lone.at_ schedule count).Moves lone.builder job (schedule count) := by
    intro moves
    unfold System.Moves at moves
    split at moves
    · rw [Job.isAble_finished finished] at moves
      cases moves.2.2
    · obtain ⟨state, wakes, waits, _⟩ := moves
      exact settled state wakes waits
    · exact moves
  have stays : ∀ count, end_ ≤ count → (lone.at_ schedule count).jobs = [job] := by
    intro count order
    induction order with
    | refl => exact jobs
    | @step count _ ih =>
      obtain ⟨job', jobs', rests⟩ := System.act_rests ih (uncancelled count) (idle _) (still count)
      rw [at_succ, jobs', rests.settled settled]
  refine ⟨uncancelled, fun count job' jobs' => ?_⟩
  by_cases before : count < end_
  · exact onTime count before job' jobs'
  · rw [stays count (Nat.le_of_not_lt before)] at jobs'
    cases jobs'
    exact idle _

/-! ### Two small jobs -/

/-- Processes that make an empty file and end with success. -/
def touchers : Programs Launch := stamp (fun _ _ => (Mode.ofFile, [])) fun _ => .exited 0

theorem touchers_ending (lone : Lone Launch) (touches : lone.programs = touchers)
    (schedule : Nat → Choice) : lone.Ending schedule := by
  intro count job state wakes jobs waits
  rw [touches]
  exact ⟨_, _, .ends rfl⟩

/-- The small build. -/
def smallBuild : Lone Launch :=
  let solo := Solo.small touchers (Bytes.ofText "/t/x")
  ⟨solo.programs, solo.setting, solo.builder, solo.world, .build (.start solo.request)⟩

/-- A single stage where the small build is. -/
def smallStage : Lone Launch :=
  { smallBuild with
    job := .stage (.start (.making smallBuild.builder.toolchain .lower [] [] (Bytes.ofText "/t/x"))) }

/-- Whether the process of a job, if one runs, has run for less than some time. -/
def hasRunLessThan (time clock : Nat) (job : Job State) : Bool :=
  match job.stage? with
  | some ⟨_, .waiting (.running ..) since _⟩ => clock - since < time
  | _ => true

theorem isOnTime_of_hasRunLessThan {options : StageOptions} {time clock : Nat} {job : Job State}
    (limit : options.timeout? = some time) (short : hasRunLessThan time clock job = true) :
    job.IsOnTime options clock := by
  intro command state wakes since due timeout stage limit'
  rw [limit] at limit'
  cases limit'
  simpa [hasRunLessThan, stage] using short

/-- Until its end the single stage keeps to a timeout of two. -/
theorem punctual_smallStage : ∀ count < 13,
    ((smallStage.under ⟨some 2, true⟩).at_ Solo.inTurn count).jobs.all
      (hasRunLessThan 2 ((smallStage.under ⟨some 2, true⟩).at_ Solo.inTurn count).world.clock)
      = true := by
  decide +kernel

/-- The small build comes to the same with a flag, and the single stage with a flag and a timeout. -/
theorem waits_agree_small :
    (∃ count result files, ∀ after, count ≤ after →
      ((smallBuild.under .blocking).at_ Solo.inTurn after).DoneWith result files ∧
      ((smallBuild.under ⟨none, true⟩).at_ Solo.inTurn after).DoneWith result files) ∧
    ∃ count result files, ∀ after, count ≤ after →
      ((smallStage.under .blocking).at_ Solo.inTurn after).DoneWith result files ∧
      ((smallStage.under ⟨some 2, true⟩).at_ Solo.inTurn after).DoneWith result files := by
  have unraised : ∀ count signal, Solo.inTurn count ≠ .raise signal := by
    intro count signal
    unfold Solo.inTurn
    split
    · nofun
    · split <;> nofun
  have deaf : ∀ signal, smallBuild.setting.signalEffect signal ≠ .raises := by
    intro signal raises
    have ignored : smallBuild.setting.signalEffect signal = .ignored := rfl
    rw [ignored] at raises
    cases raises
  constructor
  · refine waits_agree smallBuild ⟨none, true⟩ Solo.inTurn_fair (touchers_ending _ rfl _)
      Solo.inTurn_fair ⟨fun count => ?_, fun _ _ _ _ _ _ _ _ _ _ limit => nomatch limit⟩
    rw [@flag_at _ (smallBuild.under ⟨none, true⟩) _ unraised deaf]
    rfl
  · have uncancelled : ∀ count, StageOptions.cancelledBy ⟨some 2, true⟩
        ((smallStage.under ⟨some 2, true⟩).at_ Solo.inTurn count).world.flag = none := by
      intro count
      rw [@flag_at _ (smallStage.under ⟨some 2, true⟩) _ unraised deaf]
      rfl
    have ends : ((smallStage.under ⟨some 2, true⟩).at_ Solo.inTurn 13).jobs.map Job.isFinished
        = [true] := by
      cbv
    obtain ⟨job, jobs, finished⟩ := List.map_eq_singleton_iff.mp ends
    refine waits_agree smallStage ⟨some 2, true⟩ Solo.inTurn_fair (touchers_ending _ rfl _)
      Solo.inTurn_fair (calm_of_done uncancelled jobs finished fun count before job jobs => ?_)
    have punctual := punctual_smallStage count before
    rw [jobs, List.all_cons, List.all_nil, Bool.and_true] at punctual
    exact isOnTime_of_hasRunLessThan rfl punctual

end Lone

end CalcBuild

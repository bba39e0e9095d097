/-
**The steps of a stage and of a build.**

The next step of a stage or a build depends on where it stands and on what it finds. Here each of
the things that can happen is one named case, with what was found and what comes of it, so that what
every step preserves is proved case by case.

* `poll_raised`, `poll_late`, `poll_early`: what a stage finds that looks at its process;
* `StageRun.Step`, `StageRun.act_step`: the steps of a stage;
* `BuildRun.Step`, `BuildRun.act_step`: the steps of a build;
* `BuildRun.Step.frame`: what the steps of a build leave alone.
-/

import CalcBuild.Build.System

namespace CalcBuild

open Files

variable {State : Type}

/-! ### What a look at a running process finds -/

section Polls

variable {options : StageOptions} {flag : CancelFlag} {elapsed : Nat}

/-- A raised flag cuts the wait short. -/
theorem poll_raised {signal : Int32} (raised : options.cancelledBy flag = some signal) :
    poll options none flag elapsed = .interrupted signal := by
  simp only [poll, raised]

/-- If the flag is not raised, a timeout that is over does. -/
theorem poll_late {timeout : Nat} (lowered : options.cancelledBy flag = none)
    (limit : options.timeout? = some timeout) (late : timeout ≤ elapsed) :
    poll options none flag elapsed = .timedOut timeout := by
  simp only [poll, lowered, limit, if_pos late]

/-- Otherwise the wait goes on. -/
theorem poll_early (lowered : options.cancelledBy flag = none)
    (early : ∀ timeout, options.timeout? = some timeout → elapsed < timeout) :
    poll options none flag elapsed = .pending := by
  simp only [poll, lowered]
  cases limit : options.timeout? with
  | none => rfl
  | some timeout => exact if_neg (Nat.not_le.mpr (early timeout limit))

end Polls

/-! ### Stages -/

/-- What a step of the stage of a command does: where the stage stood, where it stands then, and what
is seen of it. -/
inductive StageRun.Step (programs : Programs State) (setting : Setting) (options : StageOptions)
    (world : World) (command : Command) : StagePhase State → StagePhase State → List Event → Prop where
  | cancelled {signal : Int32} (raised : options.cancelledBy world.flag = some signal) :
      Step programs setting options world command .ready
        (.finished (.error (.interrupted command.stage signal))) []
  | admitted (lowered : options.cancelledBy world.flag = none) :
      Step programs setting options world command .ready .inspecting []
  | deprived {path : Bytes}
      (missing : StageRun.missingInput? setting world.files command = some path) :
      Step programs setting options world command .inspecting
        (.finished (.error (.missingArtifact command.stage path))) []
  | inspected (complete : StageRun.missingInput? setting world.files command = none) :
      Step programs setting options world command .inspecting .launching
        [.recorded (StageRun.runningRecord command)]
  | unspawned {cause : Cause}
      (fails : programs.start world.files (command.launch setting) = .error cause) :
      Step programs setting options world command .launching
        (.finished (.error (.spawn command.stage command.program cause))) []
  | launched {state : State}
      (starts : programs.start world.files (command.launch setting) = .ok state) :
      Step programs setting options world command .launching
        (.waiting (.running state world.clock) world.clock world.clock)
        [.started command.stage (command.launch setting)]
  | reaped {status : WaitStatus} {since due : Nat} :
      Step programs setting options world command (.waiting (.ended status) since due)
        (.collected status (world.clock - since)) [.ended command.stage status]
  | interrupted {state : State} {wakes since due : Nat} {signal : Int32}
      (raised : options.cancelledBy world.flag = some signal) :
      Step programs setting options world command (.waiting (.running state wakes) since due)
        (.finished (.error (.interrupted command.stage signal))) [.killed command.stage]
  | timedOut {state : State} {wakes since due timeout : Nat}
      (lowered : options.cancelledBy world.flag = none) (limit : options.timeout? = some timeout)
      (late : timeout ≤ world.clock - since) :
      Step programs setting options world command (.waiting (.running state wakes) since due)
        (.finished (.error (.stageTimedOut command.stage timeout))) [.killed command.stage]
  | looked {state : State} {wakes since due : Nat}
      (lowered : options.cancelledBy world.flag = none)
      (early : ∀ timeout, options.timeout? = some timeout → world.clock - since < timeout) :
      Step programs setting options world command (.waiting (.running state wakes) since due)
        (.waiting (.running state wakes) since (world.clock + StageOptions.pollInterval)) []
  | rejected {status : WaitStatus} {elapsed : Nat} {failure : BuildFailure}
      (reason : StageRun.rejection? setting world.files command status = some failure) :
      Step programs setting options world command (.collected status elapsed)
        (.finished (.error failure)) []
  | accepted {status : WaitStatus} {elapsed : Nat}
      (fine : StageRun.rejection? setting world.files command status = none) :
      Step programs setting options world command (.collected status elapsed)
        (.finished (.ok ⟨command.stage, command.line, status, elapsed⟩))
        [.recorded (StageRun.finishedRecord command elapsed)]

/-- **The step of a stage that is not done is one of the steps**, and keeps its command. -/
theorem StageRun.act_step (programs : Programs State) (setting : Setting)
    (options : StageOptions) (world : World) (run : StageRun State) (going : run.result? = none) :
    ∃ after events, run.act programs setting options world = (⟨run.command, after⟩, events) ∧
      StageRun.Step programs setting options world run.command run.phase after events := by
  obtain ⟨command, phase⟩ := run
  cases phase with
  | ready =>
    cases flag : options.cancelledBy world.flag with
    | none => exact ⟨_, _, by simp only [StageRun.act, flag], .admitted flag⟩
    | some signal => exact ⟨_, _, by simp only [StageRun.act, flag], .cancelled flag⟩
  | inspecting =>
    cases inputs : StageRun.missingInput? setting world.files command with
    | none => exact ⟨_, _, by simp only [StageRun.act, inputs], .inspected inputs⟩
    | some path => exact ⟨_, _, by simp only [StageRun.act, inputs], .deprived inputs⟩
  | launching =>
    cases starts : programs.start world.files (command.launch setting) with
    | ok state => exact ⟨_, _, by simp only [StageRun.act, starts], .launched starts⟩
    | error cause => exact ⟨_, _, by simp only [StageRun.act, starts], .unspawned starts⟩
  | waiting child since due =>
    cases child with
    | ended status => exact ⟨_, _, rfl, .reaped⟩
    | running state wakes =>
      cases flag : options.cancelledBy world.flag with
      | some signal =>
        exact ⟨_, _, by simp only [StageRun.act, Child.status?, poll_raised flag], .interrupted flag⟩
      | none =>
        by_cases expired : ∃ timeout, options.timeout? = some timeout ∧ timeout ≤ world.clock - since
        · obtain ⟨timeout, limit, late⟩ := expired
          exact ⟨_, _, by simp only [StageRun.act, Child.status?, poll_late flag limit late],
            .timedOut flag limit late⟩
        · have early (timeout : Nat) (limit : options.timeout? = some timeout) :
              world.clock - since < timeout :=
            Nat.lt_of_not_le fun late => expired ⟨timeout, limit, late⟩
          exact ⟨_, _, by simp only [StageRun.act, Child.status?, poll_early flag early],
            .looked flag early⟩
  | collected status elapsed =>
    cases reason : StageRun.rejection? setting world.files command status with
    | some failure => exact ⟨_, _, by simp only [StageRun.act, reason], .rejected reason⟩
    | none => exact ⟨_, _, by simp only [StageRun.act, reason], .accepted reason⟩
  | finished result => cases going

/-! ### Builds -/

/-- What a step of a build does: the world and the build before it, both after it, and what is seen
of it. -/
inductive BuildRun.Step (programs : Programs State) (setting : Setting) (builder : Builder)
    (world : World) (run : BuildRun State) : World → BuildRun State → List Event → Prop where
  | found (phase : run.phase = .starting)
      (exists_ : world.files.isFile setting.cwd builder.runtimeSource = true) :
      Step programs setting builder world run world { run with phase := .opening } []
  | sourceless (phase : run.phase = .starting)
      (missing : world.files.isFile setting.cwd builder.runtimeSource = false) :
      Step programs setting builder world run world
        { run with phase := .withdrawing (.missingRuntime builder.runtimeSource) } []
  | opened {world' : World} {workspace : Workspace} (phase : run.phase = .opening)
      (creates : Workspace.create setting builder.workspaceRoot? world = (world', .ok workspace)) :
      Step programs setting builder world run world'
        { run with
          workspace? := some workspace
          phase := BuildRun.following (BuildRun.commands builder workspace run.request) }
        [.recorded workspace.createdRecord]
  | unopened {world' : World} {failure : BuildFailure} (phase : run.phase = .opening)
      (fails : Workspace.create setting builder.workspaceRoot? world = (world', .error failure)) :
      Step programs setting builder world run world' { run with phase := .withdrawing failure } []
  | advanced {command : Command} {before after : StagePhase State} {later : List Command}
      {events : List Event} (phase : run.phase = .running ⟨command, before⟩ later)
      (steps : StageRun.Step programs setting builder.stageOptions world command before after events) :
      Step programs setting builder world run world
        { run with phase := .running ⟨command, after⟩ later } events
  | succeeded {command : Command} {result : StageResult} {later : List Command}
      (phase : run.phase = .running ⟨command, .finished (.ok result)⟩ later) :
      Step programs setting builder world run world
        { run with results := run.results ++ [result], phase := BuildRun.following later } []
  | failed {command : Command} {failure : BuildFailure} {later : List Command}
      (phase : run.phase = .running ⟨command, .finished (.error failure)⟩ later) :
      Step programs setting builder world run world { run with phase := .withdrawing failure } []
  | prepared {world' : World} {link : Command} {later : List Command}
      (phase : run.phase = .preparing link later)
      (prepares : Staging.prepare setting run.request.output world = (world', .ok ())) :
      Step programs setting builder world run world' { run with phase := .reserving link later } []
  | unprepared {world' : World} {failure : BuildFailure} {link : Command} {later : List Command}
      (phase : run.phase = .preparing link later)
      (fails : Staging.prepare setting run.request.output world = (world', .error failure)) :
      Step programs setting builder world run world' { run with phase := .withdrawing failure } []
  | reserved {world' : World} {staging : Bytes} {link : Command} {later : List Command}
      (phase : run.phase = .reserving link later)
      (reserves : Staging.reserve setting run.request.output world = (world', .ok staging)) :
      Step programs setting builder world run world'
        { run with staging? := some staging, phase := .vacating (link.redirect staging) later } []
  | unreserved {world' : World} {failure : BuildFailure} {link : Command} {later : List Command}
      (phase : run.phase = .reserving link later)
      (fails : Staging.reserve setting run.request.output world = (world', .error failure)) :
      Step programs setting builder world run world' { run with phase := .withdrawing failure } []
  | vacated {files : FileSystem} {link : Command} {later : List Command}
      (phase : run.phase = .vacating link later)
      (vacates : Staging.vacate setting run.request.output link.output world.files = (files, .ok ())) :
      Step programs setting builder world run { world with files }
        { run with phase := .running (.start link) later } []
  | unvacated {files : FileSystem} {failure : BuildFailure} {link : Command} {later : List Command}
      (phase : run.phase = .vacating link later)
      (fails : Staging.vacate setting run.request.output link.output world.files
        = (files, .error failure)) :
      Step programs setting builder world run { world with files }
        { run with phase := .withdrawing failure } []
  | unstaged (phase : run.phase = .publishing) (nothing : run.staging? = none) :
      Step programs setting builder world run world
        { run with phase := .withdrawing (.missingArtifact .link run.request.output) } []
  | published {files : FileSystem} {staging : Bytes} (phase : run.phase = .publishing)
      (holds : run.staging? = some staging)
      (publishes : Staging.publish setting run.request.output staging world.files = (files, .ok ())) :
      Step programs setting builder world run { world with files }
        { run with staging? := none, phase := .closing } []
  | unpublished {files : FileSystem} {staging : Bytes} {failure : BuildFailure}
      (phase : run.phase = .publishing) (holds : run.staging? = some staging)
      (fails : Staging.publish setting run.request.output staging world.files
        = (files, .error failure)) :
      Step programs setting builder world run { world with files }
        { run with phase := .withdrawing failure } []
  | closed {files : FileSystem} {leftover : List Event} (phase : run.phase = .closing)
      (removes : files = match run.workspace? with
        | some workspace => workspace.discard setting world.files
        | none => world.files)
      (records : ∀ event ∈ leftover, ∃ record, event = .recorded record) :
      Step programs setting builder world run { world with files }
        { run with workspace? := none, phase := .finished (.ok run.outcome) } leftover
  | withdrawn {failure : BuildFailure} {files : FileSystem} (phase : run.phase = .withdrawing failure)
      (discards : files = match run.staging? with
        | some staging => Staging.discard setting staging world.files
        | none => world.files) :
      Step programs setting builder world run { world with files }
        { run with staging? := none, phase := .abandoning failure } []
  | abandoned {failure : BuildFailure} {files : FileSystem} (phase : run.phase = .abandoning failure)
      (removes : files = match run.workspace? with
        | some workspace => workspace.discard setting world.files
        | none => world.files) :
      Step programs setting builder world run { world with files }
        { run with workspace? := none, phase := .finished (.error failure) } []

/-- **The step of a build that is not done is one of the steps.** -/
theorem BuildRun.act_step (programs : Programs State) (setting : Setting) (builder : Builder)
    (world : World) (run : BuildRun State) (going : run.result? = none) :
    BuildRun.Step programs setting builder world run (run.act programs setting builder world).1
      (run.act programs setting builder world).2.1 (run.act programs setting builder world).2.2 := by
  cases phase : run.phase with
  | starting =>
    by_cases exists_ : world.files.isFile setting.cwd builder.runtimeSource = true
    · simp only [BuildRun.act, phase, exists_, if_true]
      exact .found phase exists_
    · simp only [BuildRun.act, phase, exists_]
      exact .sourceless phase (Bool.eq_false_iff.mpr exists_)
  | opening =>
    cases creates : Workspace.create setting builder.workspaceRoot? world with
    | mk world' made =>
      cases made with
      | ok workspace =>
        simp only [BuildRun.act, phase, creates]
        exact .opened phase creates
      | error failure =>
        simp only [BuildRun.act, phase, creates]
        exact .unopened phase creates
  | running stage later =>
    obtain ⟨command, before⟩ := stage
    have advances (unfinished : StageRun.result? ⟨command, before⟩ = none) :
        BuildRun.Step programs setting builder world run (run.act programs setting builder world).1
          (run.act programs setting builder world).2.1
          (run.act programs setting builder world).2.2 := by
      obtain ⟨after, events, acts, steps⟩ :=
        StageRun.act_step programs setting builder.stageOptions world _ unfinished
      simp only [BuildRun.act, phase, unfinished, acts]
      exact .advanced phase steps
    cases before with
    | finished result =>
      cases result with
      | ok result =>
        simp only [BuildRun.act, phase, StageRun.result?]
        exact .succeeded phase
      | error failure =>
        simp only [BuildRun.act, phase, StageRun.result?]
        exact .failed phase
    | _ => exact advances rfl
  | preparing link later =>
    cases prepares : Staging.prepare setting run.request.output world with
    | mk world' made =>
      cases made with
      | ok done =>
        simp only [BuildRun.act, phase, prepares]
        exact .prepared phase prepares
      | error failure =>
        simp only [BuildRun.act, phase, prepares]
        exact .unprepared phase prepares
  | reserving link later =>
    cases reserves : Staging.reserve setting run.request.output world with
    | mk world' made =>
      cases made with
      | ok staging =>
        simp only [BuildRun.act, phase, reserves]
        exact .reserved phase reserves
      | error failure =>
        simp only [BuildRun.act, phase, reserves]
        exact .unreserved phase reserves
  | vacating link later =>
    cases vacates : Staging.vacate setting run.request.output link.output world.files with
    | mk files made =>
      cases made with
      | ok done =>
        simp only [BuildRun.act, phase, vacates]
        exact .vacated phase vacates
      | error failure =>
        simp only [BuildRun.act, phase, vacates]
        exact .unvacated phase vacates
  | publishing =>
    simp only [BuildRun.act, phase]
    split
    · rename_i nothing
      exact .unstaged phase nothing
    · rename_i staging holds
      split
      · rename_i files failure fails
        exact .unpublished phase holds fails
      · rename_i files publishes
        exact .published phase holds publishes
  | closing =>
    simp only [BuildRun.act, phase]
    refine .closed phase ?_ ?_
    · cases run.workspace? <;> rfl
    · intro event member
      rcases List.mem_append.mp member with warned | done
      · split at warned
        · cases warned
        · exact ⟨_, List.mem_singleton.mp warned⟩
      · exact ⟨_, List.mem_singleton.mp done⟩
  | withdrawing failure =>
    simp only [BuildRun.act, phase]
    exact .withdrawn phase rfl
  | abandoning failure =>
    simp only [BuildRun.act, phase]
    exact .abandoned phase rfl
  | finished result =>
    unfold BuildRun.result? at going
    rw [phase] at going
    cases going

/-! ### What steps leave alone -/

/-- Reserving a name neither takes time nor raises the flag, and draws names. -/
structure World.Draws (world world' : World) : Prop where
  clock : world'.clock = world.clock
  flag : world'.flag = world.flag
  drawn : world.drawn ≤ world'.drawn

theorem World.reserveWithin_draws (setting : Setting)
    (make : FileSystem → Bytes → Except Fault FileSystem) (base stem : Bytes) (attempts : Nat)
    (world : World) : world.Draws (world.reserveWithin setting make base stem attempts).1 := by
  induction attempts generalizing world with
  | zero => exact ⟨rfl, rfl, Nat.le_refl _⟩
  | succ attempts ih =>
    unfold reserveWithin
    dsimp only
    split
    · exact ⟨rfl, rfl, Nat.le_succ _⟩
    · obtain ⟨clock, flag, drawn⟩ := ih { world with drawn := world.drawn + 1 }
      exact ⟨clock, flag, Nat.le_of_succ_le drawn⟩
    · exact ⟨rfl, rfl, Nat.le_succ _⟩

theorem World.reserve_draws (setting : Setting)
    (make : FileSystem → Bytes → Except Fault FileSystem) (dir stem : Bytes) (world : World) :
    world.Draws (world.reserve setting make dir stem).1 := by
  unfold reserve
  split
  · exact reserveWithin_draws ..
  · split
    · exact reserveWithin_draws ..
    · exact ⟨rfl, rfl, Nat.le_refl _⟩

namespace BuildRun.Step

variable {programs : Programs State} {setting : Setting} {builder : Builder} {world world' : World}
  {run run' : BuildRun State} {events : List Event}

/-- The steps of a build neither take time nor raise the flag, and names that are drawn stay drawn. -/
theorem frame (steps : BuildRun.Step programs setting builder world run world' run' events) :
    world.Draws world' := by
  cases steps with
  | opened _ makes | unopened _ makes | reserved _ makes | unreserved _ makes =>
    obtain rfl : _ = world' := congrArg Prod.fst makes
    exact World.reserve_draws ..
  | prepared _ makes | unprepared _ makes =>
    obtain rfl : _ = world' := congrArg Prod.fst makes
    exact ⟨rfl, rfl, Nat.le_refl _⟩
  | _ => exact ⟨rfl, rfl, Nat.le_refl _⟩

theorem clock (steps : BuildRun.Step programs setting builder world run world' run' events) :
    world'.clock = world.clock :=
  steps.frame.clock

theorem flag (steps : BuildRun.Step programs setting builder world run world' run' events) :
    world'.flag = world.flag :=
  steps.frame.flag

theorem drawn (steps : BuildRun.Step programs setting builder world run world' run' events) :
    world.drawn ≤ world'.drawn :=
  steps.frame.drawn

end BuildRun.Step

end CalcBuild

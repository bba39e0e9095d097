/-
**Looking at a process again and again.**

A stage that does not block looks at its process, at the flag and at the clock in intervals. The first
look that finds anything ends the wait: that the process has ended counts first, then the flag, then the
time, and the process is killed in the last two cases only. So a build never has two processes, and
none when it is done.

* `Look`, `Look.IsQuiet`, `Look.Ends`: what a look may find, and what it comes to;
* `StageRun.watch`: a stage after some looks, whatever the process and the world are at each of them;
* `watch_quiet`, `watch_ends`: quiet looks leave the stage waiting, the first other one decides;
* `processes`: the processes in a trace that have not been waited for;
* `Comes.processes`: these are the process of the stage that waits, at every moment of every run;
* `first_look_decides`: the main theorem.
-/

import CalcBuild.Proofs.Build.Cancellation

namespace CalcBuild

open Files

variable {State : Type}

/-! ### Looks -/

/-- What is there when a stage looks at its process. -/
structure Look (State : Type) where
  child : Child State
  world : World

namespace Look

variable (options : StageOptions) (since : Nat) (look : Look State)

/-- A look that finds nothing: the process runs, the flag is not raised, and the time is not up. -/
structure IsQuiet : Prop where
  runs : look.child.isRunning = true
  lowered : options.cancellable = true → look.world.flag.raised = none
  early : ∀ timeout, options.timeout? = some timeout → look.world.clock - since < timeout

/-- What a look comes to that ends the wait of a stage: where the stage stands then, and what is seen of
it. Something counts only if what stands before it here does not apply. -/
inductive Ends (command : Command) : StagePhase State → List Event → Prop where
  | ended {status : WaitStatus} (ended : look.child = .ended status) :
      Ends command (.collected status (look.world.clock - since)) [.ended command.stage status]
  | interrupted {signal : Int32} (runs : look.child.isRunning = true)
      (cancellable : options.cancellable = true) (raised : look.world.flag.raised = some signal) :
      Ends command (.finished (.error (.interrupted command.stage signal))) [.killed command.stage]
  | timedOut {timeout : Nat} (runs : look.child.isRunning = true)
      (lowered : options.cancellable = true → look.world.flag.raised = none)
      (limit : options.timeout? = some timeout) (late : timeout ≤ look.world.clock - since) :
      Ends command (.finished (.error (.stageTimedOut command.stage timeout))) [.killed command.stage]

end Look

theorem StageOptions.cancelledBy_eq_none {options : StageOptions} {flag : CancelFlag} :
    options.cancelledBy flag = none ↔ (options.cancellable = true → flag.raised = none) := by
  unfold cancelledBy
  split <;> simp_all

theorem StageOptions.cancelledBy_eq_some {options : StageOptions} {flag : CancelFlag}
    {signal : Int32} : options.cancelledBy flag = some signal ↔
      options.cancellable = true ∧ flag.raised = some signal := by
  unfold cancelledBy
  split <;> simp_all

namespace StageRun

section Watch

variable (programs : Programs State) (setting : Setting) (options : StageOptions)

/-- A stage looks at its process. -/
def look (run : StageRun State) (look : Look State) : StageRun State × List Event :=
  (run.withChild look.child).act programs setting options look.world

/-- A stage after some looks, and what is seen of it. A stage that waits no more takes no looks. -/
def watch (run : StageRun State) (looks : Nat → Look State) : Nat → StageRun State × List Event
  | 0 => (run, [])
  | count + 1 =>
    let before := watch run looks count
    match before.1.phase with
    | .waiting .. =>
      let after := before.1.look programs setting options (looks count)
      (after.1, before.2 ++ after.2)
    | _ => before

variable {programs setting options} {command : Command} {child : Child State} {since due : Nat}

/-- **A quiet look** leaves the stage waiting. -/
theorem look_quiet {look : Look State} (quiet : look.IsQuiet options since) :
    StageRun.look programs setting options ⟨command, .waiting child since due⟩ look
      = (⟨command, .waiting look.child since (look.world.clock + StageOptions.pollInterval)⟩, []) := by
  obtain ⟨child', world⟩ := look
  obtain ⟨runs, lowered, early⟩ := quiet
  cases child' with
  | ended status => cases runs
  | running state wakes =>
    have unraised := StageOptions.cancelledBy_eq_none.mpr lowered
    simp only [StageRun.look, withChild, act, Child.status?, poll_early unraised early]

/-- **A look that ends the wait** comes to what it finds. -/
theorem look_ends {look : Look State} {phase : StagePhase State} {events : List Event}
    (ends : look.Ends options since command phase events) :
    StageRun.look programs setting options ⟨command, .waiting child since due⟩ look
      = (⟨command, phase⟩, events) := by
  obtain ⟨child', world⟩ := look
  cases ends with
  | ended ended =>
    obtain rfl : child' = _ := ended
    rfl
  | interrupted runs cancellable raised =>
    cases child' with
    | ended status => cases runs
    | running state wakes =>
      have raised := StageOptions.cancelledBy_eq_some.mpr ⟨cancellable, raised⟩
      simp only [StageRun.look, withChild, act, Child.status?, poll_raised raised]
  | timedOut runs lowered limit late =>
    cases child' with
    | ended status => cases runs
    | running state wakes =>
      have unraised := StageOptions.cancelledBy_eq_none.mpr lowered
      simp only [StageRun.look, withChild, act, Child.status?, poll_late unraised limit late]

/-- Every look is one of both. -/
theorem look_cases (options : StageOptions) (since : Nat) (command : Command) (look : Look State) :
    look.IsQuiet options since ∨ ∃ phase events, look.Ends options since command phase events := by
  obtain ⟨child, world⟩ := look
  cases child with
  | ended status => exact .inr ⟨_, _, .ended rfl⟩
  | running state wakes =>
    cases flag : options.cancelledBy world.flag with
    | some signal =>
      obtain ⟨cancellable, raised⟩ := StageOptions.cancelledBy_eq_some.mp flag
      exact .inr ⟨_, _, .interrupted rfl cancellable raised⟩
    | none =>
      have lowered := StageOptions.cancelledBy_eq_none.mp flag
      by_cases late : ∃ timeout, options.timeout? = some timeout ∧ timeout ≤ world.clock - since
      · obtain ⟨timeout, limit, late⟩ := late
        exact .inr ⟨_, _, .timedOut rfl lowered limit late⟩
      · refine .inl ⟨rfl, lowered, fun timeout limit => Nat.lt_of_not_le fun reached => ?_⟩
        exact late ⟨timeout, limit, reached⟩

variable (programs setting) {looks : Nat → Look State} {count : Nat}

/-- **While all looks are quiet** the stage waits, and nothing is seen of it. -/
theorem watch_quiet (quiet : ∀ earlier < count, (looks earlier).IsQuiet options since) :
    ∃ child' due', watch programs setting options ⟨command, .waiting child since due⟩ looks count
      = (⟨command, .waiting child' since due'⟩, []) := by
  induction count with
  | zero => exact ⟨child, due, rfl⟩
  | succ count ih =>
    obtain ⟨child', due', before⟩ := ih fun earlier lower => quiet earlier (Nat.lt_succ_of_lt lower)
    exact ⟨(looks count).child, (looks count).world.clock + StageOptions.pollInterval, by
      simp only [watch, before, look_quiet (quiet count (Nat.lt_succ_self count)), List.append_nil]⟩

/-- **The first look that is not quiet** decides what the stage comes to. -/
theorem watch_ends (quiet : ∀ earlier < count, (looks earlier).IsQuiet options since)
    {phase : StagePhase State} {events : List Event}
    (ends : (looks count).Ends options since command phase events) {later : Nat}
    (after : count < later) :
    watch programs setting options ⟨command, .waiting child since due⟩ looks later
      = (⟨command, phase⟩, events) := by
  induction after with
  | refl =>
    obtain ⟨child', due', before⟩ : ∃ child' due',
        watch programs setting options ⟨command, .waiting child since due⟩ looks count
          = (⟨command, .waiting child' since due'⟩, []) := watch_quiet programs setting quiet
    simp only [watch, before, look_ends ends, List.nil_append]
  | step _ ih =>
    simp only [watch, ih]
    cases ends <;> rfl

end Watch

end StageRun

/-! ### Processes -/

/-- What an event does to the processes that have been started and not been waited for, each told by its
stage. One that is killed is waited for. Only a process that is there can be killed or waited for. -/
def Event.enact (there : List Stage) : Event → Option (List Stage)
  | .started stage _ => some (stage :: there)
  | .ended stage _ | .killed stage => if stage ∈ there then some (there.erase stage) else none
  | .recorded _ | .printed .. => some there

/-- The processes in a trace that have been started and not been waited for; none if one was killed or
waited for that was not there. -/
def processes (trace : List Event) : Option (List Stage) :=
  trace.reverse.foldlM Event.enact []

theorem processes_append (events trace : List Event) :
    processes (events.reverse ++ trace)
      = (processes trace).bind fun there => events.foldlM Event.enact there := by
  simp [processes, List.foldlM_append]

/-- The process that a build waits for, told by its stage. -/
def BuildRun.attended (run : BuildRun State) : List Stage :=
  match run.phase with
  | .running ⟨command, .waiting ..⟩ _ => [command.stage]
  | _ => []

/-- A build that goes on to the commands that are left waits for none. -/
theorem BuildRun.attended_following {run : BuildRun State} (later : List Command)
    (phase : run.phase = following later) : run.attended = [] := by
  unfold attended
  split
  · rename_i waits
    exact absurd (phase.symm.trans waits) (following_childless later)
  · rfl

/-- A step of a stage starts a process when it begins to wait, and ends or kills it when it ceases to. -/
theorem StageRun.Step.enact {programs : Programs State} {setting : Setting} {options : StageOptions}
    {world : World} {command : Command} {before after : StagePhase State} {events : List Event}
    (steps : StageRun.Step programs setting options world command before after events)
    (run : BuildRun State) (later : List Command) :
    events.foldlM Event.enact (BuildRun.attended { run with phase := .running ⟨command, before⟩ later })
      = some (BuildRun.attended { run with phase := .running ⟨command, after⟩ later }) := by
  cases steps <;> simp [BuildRun.attended, Event.enact]

/-- An event that starts, ends and kills nothing. -/
def Event.IsSilent (event : Event) : Prop := ∀ there, event.enact there = some there

theorem Event.enact_silent {events : List Event} (silent : ∀ event ∈ events, event.IsSilent)
    (there : List Stage) : events.foldlM Event.enact there = some there := by
  induction events with
  | nil => rfl
  | cons event events ih =>
    obtain ⟨first, rest⟩ := List.forall_mem_cons.mp silent
    rw [List.foldlM_cons, first there, Option.bind_eq_bind, Option.bind_some, ih rest]

/-- What is printed is silent. -/
theorem Event.isSilent_prints {events : List Event}
    (prints : ∀ event ∈ events, ∃ channel bytes, event = .printed channel bytes) :
    ∀ event ∈ events, event.IsSilent := by
  intro event member
  obtain ⟨_, _, rfl⟩ := prints event member
  exact fun _ => rfl

/-- **Every turn of a build** starts, ends and kills no process but the one that it waits for. -/
theorem BuildRun.Turn.enact {programs : Programs State} {setting : Setting} {builder : Builder}
    {world world' : World} {run run' : BuildRun State} {events : List Event}
    (turn : BuildRun.Turn programs setting builder world run world' run' events) :
    events.foldlM Event.enact run.attended = some run'.attended := by
  cases turn with
  | process phase _ _ _ _ prints =>
    rw [Event.enact_silent (Event.isSilent_prints prints)]
    simp only [attended, phase]
  | own steps =>
    cases steps with
    | advanced phase steps =>
      have turned := steps.enact run ‹_›
      rwa [← phase] at turned
    | @opened _ workspace phase =>
      have childless : run.attended = [] := by simp only [attended, phase]
      rw [childless]
      exact congrArg some (attended_following (commands builder workspace run.request) rfl).symm
    | @succeeded _ _ later phase =>
      have childless : run.attended = [] := by simp only [attended, phase]
      rw [childless]
      exact congrArg some (attended_following later rfl).symm
    | closed phase _ records =>
      rw [Event.enact_silent fun event member => by
        obtain ⟨_, rfl⟩ := records event member
        exact fun _ => rfl]
      simp only [attended, phase]
    | _ => simp_all [attended, StageRun.start]

theorem BuildRun.attended_eq_nil {run : BuildRun State} :
    run.attended = [] ↔ (Job.build run).child? = none := by
  obtain ⟨request, phase, results, workspace?, staging?⟩ := run
  cases phase with
  | running stage later =>
    obtain ⟨command, stagePhase⟩ := stage
    cases stagePhase <;> simp [attended, Job.child?, Job.stage?, stage?, StageRun.child?]
  | _ => simp [attended, Job.child?, Job.stage?, stage?]

theorem BuildRun.attended_eq {run : BuildRun State} {stage : Stage} (attends : run.attended = [stage]) :
    ∃ command child since due later,
      run.phase = .running ⟨command, .waiting child since due⟩ later ∧ command.stage = stage := by
  unfold attended at attends
  split at attends
  · rename_i phase
    exact ⟨_, _, _, _, _, phase, List.singleton_inj.mp attends⟩
  · cases attends

theorem BuildRun.attended_length (run : BuildRun State) : run.attended.length ≤ 1 := by
  unfold attended
  split <;> simp

/-- A build that is done waits for no process. -/
theorem BuildRun.attended_of_result? {run : BuildRun State} (done : run.result?.isSome) :
    run.attended = [] := by
  obtain ⟨result, ends⟩ := Option.isSome_iff_exists.mp done
  unfold attended
  rw [phase_of_result? ends]

namespace Solo

variable {solo : Solo State} {choices : List Choice} {world : World} {run : BuildRun State}
  {trace : List Event}

/-- **The processes at every moment of every run** are the one that the build waits for. -/
theorem Comes.processes (comes : solo.Comes choices world run trace) :
    processes trace = some run.attended := by
  refine comes.induction (motive := fun _ _ run trace => CalcBuild.processes trace = some run.attended)
    rfl (fun _ _ _ _ ih => ih) fun _ _ turn ih => ?_
  rw [processes_append, ih, Option.bind_some, turn.enact]

/-! ### Looks in a run -/

variable {command : Command} {child : Child State} {since due : Nat} {later : List Command}

/-- **A build that waits takes a look** when it is its turn and it is able to go on. -/
theorem Comes.looks (comes : solo.Comes choices world run trace)
    (phase : run.phase = .running ⟨command, .waiting child since due⟩ later)
    (alive : (solo.after choices).endedBy? = none)
    (able : run.isAble solo.builder world.clock = true) {after : StageRun State} {events : List Event}
    (look : StageRun.look solo.programs solo.setting solo.builder.stageOptions
      ⟨command, .waiting child since due⟩ ⟨child, world⟩ = (after, events)) :
    solo.Comes (choices ++ [.job 0]) world { run with phase := .running after later }
      (events.reverse ++ trace) := by
  have acts : solo.after (choices ++ [.job 0])
      = (solo.after choices).actJob solo.programs solo.setting solo.builder 0 :=
    after_append ..
  have steps : run.act solo.programs solo.setting solo.builder world
      = (world, { run with phase := .running after later }, events) := by
    simp only [StageRun.look, StageRun.withChild] at look
    simp only [BuildRun.act, phase, StageRun.result?, look]
  simp only [System.actJob, comes.jobs_eq, List.getElem?_cons_zero, alive, comes.world_eq,
    Job.isAble, able, if_true, Job.act, steps] at acts
  exact ⟨by rw [acts], by rw [acts]; rfl, by rw [acts, comes.trace_eq]⟩

variable (solo) in
/-- After some choices a build waits for the process that it waited for before, and nothing has been
started, ended or killed. -/
def WaitsOn (choices : List Choice) (run : BuildRun State) (trace : List Event) (command : Command)
    (since due : Nat) (later : List Command) : Prop :=
  ∃ world child, ∃ events : List Event,
    solo.Comes choices world { run with phase := .running ⟨command, .waiting child since due⟩ later }
      (events.reverse ++ trace) ∧
    ∀ event ∈ events, event.IsSilent

/-- **Otherwise it waits on**, whatever is chosen. -/
theorem Comes.waits_on (comes : solo.Comes choices world run trace)
    (phase : run.phase = .running ⟨command, .waiting child since due⟩ later) {choice : Choice}
    (still : ¬ (choice = .job 0 ∧ (solo.after choices).endedBy? = none ∧
      run.isAble solo.builder world.clock = true)) :
    solo.WaitsOn (choices ++ [choice]) run trace command since due later := by
  have acts : solo.after (choices ++ [choice])
      = (solo.after choices).act solo.programs solo.setting solo.builder choice :=
    after_append ..
  have same : { run with phase := .running ⟨command, .waiting child since due⟩ later } = run := by
    rw [← phase]
  have rests (jobs : (solo.after (choices ++ [choice])).jobs = [.build run])
      (seen : (solo.after (choices ++ [choice])).trace = trace) :
      solo.WaitsOn (choices ++ [choice]) run trace command since due later :=
    ⟨_, child, [], by rw [same]; exact ⟨rfl, jobs, seen⟩, nofun⟩
  have unmoved (nothing : solo.after (choices ++ [choice]) = solo.after choices) :=
    rests (by rw [nothing, comes.jobs_eq]) (by rw [nothing, comes.trace_eq])
  cases choice with
  | pass time | raise signal =>
    exact rests (by rw [acts]; exact comes.jobs_eq) (by rw [acts]; exact comes.trace_eq)
  | job index =>
    refine unmoved (acts.trans ?_)
    cases index with
    | succ more =>
      simp only [System.act, System.actJob, comes.jobs_eq, List.getElem?_cons_succ, List.getElem?_nil]
    | zero =>
      cases ended : (solo.after choices).endedBy? with
      | some signal =>
        simp only [System.act, System.actJob, comes.jobs_eq, List.getElem?_cons_zero, ended]
      | none =>
        simp only [System.act, System.actJob, comes.jobs_eq, List.getElem?_cons_zero, ended,
          Job.isAble, comes.world_eq]
        rw [if_neg fun able => still ⟨rfl, ended, able⟩]
  | child index =>
    have listed : (solo.after choices).jobs[0]? = some (.build run) := by
      rw [comes.jobs_eq]
      rfl
    have waits := BuildRun.child_of_phase phase
    cases index with
    | succ more =>
      refine unmoved (acts.trans ?_)
      simp only [System.act, System.actChild, comes.jobs_eq, List.getElem?_cons_succ,
        List.getElem?_nil]
    | zero =>
      cases child with
      | ended status =>
        refine unmoved (acts.trans ?_)
        simp only [System.act, System.actChild, listed, waits]
      | running state wakes =>
        by_cases awake : wakes ≤ (solo.after choices).world.clock
        · obtain ⟨child', events, stepped⟩ :=
            System.actChild_awake solo.programs solo.setting listed phase awake
          have jobs := stepped.jobs
          have seen := stepped.trace
          rw [comes.jobs_eq] at jobs
          rw [comes.trace_eq] at seen
          refine ⟨_, child', events, ⟨rfl, ?_, ?_⟩, Event.isSilent_prints stepped.prints⟩
          · rw [acts]
            exact jobs
          · rw [acts]
            exact seen
        · refine unmoved (acts.trans ?_)
          simp only [System.act, System.actChild, listed, waits, if_neg awake]

/-! ### The main theorem -/

/-- What the wait of a stage is, whatever its process and the world are at each look: it goes on while
the looks are quiet, and every look that is not decides, if it is the first. -/
def Decides (solo : Solo State) (run : StageRun State) (since : Nat) (looks : Nat → Look State) :
    Prop :=
  let options := solo.builder.stageOptions
  let watch := run.watch solo.programs solo.setting options looks
  ∀ count, (∀ earlier < count, (looks earlier).IsQuiet options since) →
    (∃ child due, watch count = (⟨run.command, .waiting child since due⟩, [])) ∧
    ((looks count).IsQuiet options since ∨
      ∃ phase events, (looks count).Ends options since run.command phase events ∧
        ∀ later, count < later → watch later = (⟨run.command, phase⟩, events))

/-- What a build does that waits for a process: it looks when it is its turn and it is able to go on,
and waits on otherwise. -/
structure Attends (solo : Solo State) (choices : List Choice) (world : World) (run : BuildRun State)
    (trace : List Event) (command : Command) (child : Child State) (since due : Nat)
    (later : List Command) : Prop where
  decides : ∀ looks, solo.Decides ⟨command, .waiting child since due⟩ since looks
  looks : (solo.after choices).endedBy? = none → run.isAble solo.builder world.clock = true →
    ∀ after events, StageRun.look solo.programs solo.setting solo.builder.stageOptions
      ⟨command, .waiting child since due⟩ ⟨child, world⟩ = (after, events) →
    solo.Comes (choices ++ [.job 0]) world { run with phase := .running after later }
      (events.reverse ++ trace)
  waits : ∀ choice, ¬ (choice = .job 0 ∧ (solo.after choices).endedBy? = none ∧
      run.isAble solo.builder world.clock = true) →
    solo.WaitsOn (choices ++ [choice]) run trace command since due later

variable (solo) in
/-- **The first look that is not quiet decides**, whatever all the looks find. -/
theorem decides (command : Command) (child : Child State) (since due : Nat)
    (looks : Nat → Look State) :
    solo.Decides ⟨command, .waiting child since due⟩ since looks := by
  intro count quiet
  refine ⟨StageRun.watch_quiet _ _ quiet, ?_⟩
  rcases StageRun.look_cases solo.builder.stageOptions since command (looks count) with
    silent | ⟨phase, events, ends⟩
  · exact .inl silent
  · exact .inr ⟨phase, events, ends, fun later => StageRun.watch_ends _ _ quiet ends⟩

/-- **The first look that finds anything decides.** Whatever is chosen: a build that waits for a process
looks at it, and the first look that is not quiet ends the wait with what it finds; there is never more
than one process, that of the stage which waits; and when the build is done there is none. -/
theorem first_look_decides (solo : Solo State) (choices : List Choice) :
    ∃ world run trace, solo.Comes choices world run trace ∧
      (∀ command child since due later,
        run.phase = .running ⟨command, .waiting child since due⟩ later →
        solo.Attends choices world run trace command child since due later) ∧
      CalcBuild.processes trace = some run.attended ∧ run.attended.length ≤ 1 ∧
      (run.attended = [] ↔ (Job.build run).child? = none) ∧
      (run.result?.isSome → CalcBuild.processes trace = some [] ∧ (Job.build run).child? = none) := by
  obtain ⟨world, run, trace, comes⟩ := solo.exists_comes choices
  refine ⟨world, run, trace, comes, fun command child since due later phase => ?_, comes.processes,
    run.attended_length, BuildRun.attended_eq_nil, fun done => ?_⟩
  · exact ⟨solo.decides command child since due, fun alive able _ _ => comes.looks phase alive able,
      fun _ => comes.waits_on phase⟩
  · have nothing := BuildRun.attended_of_result? done
    exact ⟨by rw [comes.processes, nothing], BuildRun.attended_eq_nil.mp nothing⟩

end Solo

end CalcBuild

/-
**Builds taking turns.**

Whatever is chosen to happen next, it changes files and builds in one of two ways only: a build takes
its own next step, or the process of its stage does. Everything else is time passing and signals.

* `BuildRun.Turn`: the two ways;
* `BuildRun.Started`, `Started.turn`: the process of a build was started by its command;
* `System.act_cases`: a choice is idle or a turn of one build;
* `System.endedBy?_act`: the driver goes on unless a process sends it a signal that ends it;
* `Solo`, `Solo.Comes`: one build on its own, and what it has come to at each moment;
* `Solo.Comes.next`: what one more choice does;
* `Solo.Comes.induction`, `Solo.Comes.induction_from`: induction over a run, or the rest of one;
* `Solo.small`: a small build.
-/

import CalcBuild.Proofs.Build.Steps
import CalcBuild.Proofs.Process.Confined
import Mathlib.Data.List.Induction

namespace CalcBuild

open Files

variable {State : Type}

/-! ### Turns -/

/-- A turn of a build: its own next step, or one of the process of its stage. -/
inductive BuildRun.Turn (programs : Programs State) (setting : Setting) (builder : Builder)
    (world : World) (run : BuildRun State) : World → BuildRun State → List Event → Prop where
  | own {world' : World} {run' : BuildRun State} {events : List Event}
      (steps : BuildRun.Step programs setting builder world run world' run' events) :
      Turn programs setting builder world run world' run' events
  | process {command : Command} {state : State} {wakes since due : Nat} {later : List Command}
      {world' : World} {child : Child State} {events : List Event}
      (phase : run.phase = .running ⟨command, .waiting (.running state wakes) since due⟩ later)
      (files : world'.files = (programs.step world.files state).1)
      (clock : world'.clock = world.clock) (drawn : world'.drawn = world.drawn)
      (follows : child.Follows (programs.step world.files state).2)
      (prints : ∀ event ∈ events, ∃ channel bytes, event = .printed channel bytes) :
      Turn programs setting builder world run world'
        { run with phase := .running ⟨command, .waiting child since due⟩ later } events

/-- A build that can take a step is not done. -/
theorem BuildRun.result?_of_isAble {builder : Builder} {clock : Nat} {run : BuildRun State}
    (able : run.isAble builder clock = true) : run.result? = none := by
  unfold BuildRun.isAble at able
  unfold BuildRun.result?
  split
  · rename_i result phase
    rw [phase] at able
    cases able
  · rfl

theorem BuildRun.phase_of_result? {run : BuildRun State}
    {result : Except BuildFailure BuildOutcome} (ends : run.result? = some result) :
    run.phase = .finished result := by
  unfold BuildRun.result? at ends
  split at ends
  · cases ends
    assumption
  · cases ends

theorem BuildRun.phase_of_stage? {run : BuildRun State} {stage : StageRun State}
    (stands : run.stage? = some stage) : ∃ later, run.phase = .running stage later := by
  unfold BuildRun.stage? at stands
  split at stands
  · cases stands
    exact ⟨_, by assumption⟩
  · cases stands

/-- The stage that waits for the process of a build. -/
theorem BuildRun.phase_of_child {run : BuildRun State} {child : Child State}
    (waits : (Job.build run).child? = some child) :
    ∃ command since due later, run.phase = .running ⟨command, .waiting child since due⟩ later := by
  obtain ⟨request, phase, results, workspace?, staging?⟩ := run
  cases phase with
  | running stage later =>
    obtain ⟨command, stagePhase⟩ := stage
    cases stagePhase with
    | waiting child' since due =>
      cases waits
      exact ⟨command, since, due, later, rfl⟩
    | _ => cases waits
  | _ => cases waits

theorem BuildRun.child_of_phase {run : BuildRun State} {command : Command} {child : Child State}
    {since due : Nat} {later : List Command}
    (phase : run.phase = .running ⟨command, .waiting child since due⟩ later) :
    (Job.build run).child? = some child := by
  simp only [Job.child?, Job.stage?, BuildRun.stage?, phase, Option.bind_some, StageRun.child?]

/-- A build whose process takes a step waits for it as before. -/
theorem BuildRun.withChild_of_phase {run : BuildRun State} {command : Command} {child : Child State}
    {since due : Nat} {later : List Command}
    (phase : run.phase = .running ⟨command, .waiting child since due⟩ later) (other : Child State) :
    (Job.build run).withChild other
      = .build { run with phase := .running ⟨command, .waiting other since due⟩ later } := by
  simp only [Job.withChild, BuildRun.withChild, phase, StageRun.withChild]

/-! ### Processes that were started -/

/-- The process that a build waits for was started by the launch of its command. -/
def BuildRun.Started (programs : Programs State) (setting : Setting) (run : BuildRun State) : Prop :=
  ∀ command state wakes since due later,
    run.phase = .running ⟨command, .waiting (.running state wakes) since due⟩ later →
      programs.Reaches (command.launch setting) state

/-- A build that goes on to the commands that are left does not wait for a process. -/
theorem BuildRun.following_childless (later : List Command) {command : Command}
    {child : Child State} {since due : Nat} {later' : List Command} :
    (BuildRun.following later : BuildPhase State)
      ≠ .running ⟨command, .waiting child since due⟩ later' := by
  intro waits
  cases later with
  | nil => cases waits
  | cons first later =>
    unfold BuildRun.following BuildRun.before at waits
    dsimp only at waits
    split at waits <;> cases waits

/-- **Every turn of a build** leaves it with a process that its command started, if with any. -/
theorem BuildRun.Started.turn {programs : Programs State} {setting : Setting} {builder : Builder}
    {before after : World} {run run' : BuildRun State} {events : List Event}
    (started : run.Started programs setting)
    (turn : BuildRun.Turn programs setting builder before run after run' events) :
    run'.Started programs setting := by
  intro command state wakes since due later waits
  cases turn with
  | process phase _ _ _ follows _ =>
    cases waits
    exact .steps (started _ _ _ _ _ _ phase) follows
  | own steps =>
    cases steps with
    | advanced phase steps =>
      cases waits
      cases steps with
      | launched starts => exact .starts starts
      | looked _ _ => exact started _ _ _ _ _ _ phase
    | @opened _ workspace _ _ =>
      exact absurd waits (following_childless (BuildRun.commands builder workspace run.request))
    | @succeeded _ _ later _ => exact absurd waits (following_childless later)
    | _ => cases waits

namespace System

variable (programs : Programs State) (setting : Setting) (builder : Builder)

/-- What happens when nothing that changes files or builds does: time passes, the flag is raised, or
the choice is not possible. -/
structure Idle (system after : System State) : Prop where
  jobs : after.jobs = system.jobs
  trace : after.trace = system.trace
  files : after.world.files = system.world.files
  drawn : after.world.drawn = system.world.drawn
  clock : system.world.clock ≤ after.world.clock

/-- What happens when a build takes a turn. -/
structure Turned (index : Nat) (run run' : BuildRun State) (events : List Event)
    (system after : System State) : Prop where
  listed : system.jobs[index]? = some (.build run)
  turn : BuildRun.Turn programs setting builder system.world run after.world run' events
  jobs : after.jobs = system.jobs.set index (.build run')
  trace : after.trace = events.reverse ++ system.trace

/-- A signal that a process sends changes neither files nor jobs. -/
theorem deliver_idle (signal : Nat) (system : System State) :
    Idle system (system.deliver setting signal) ∧
      (system.deliver setting signal).world.clock = system.world.clock := by
  unfold deliver
  split <;> exact ⟨⟨rfl, rfl, rfl, rfl, Nat.le_refl _⟩, rfl⟩

variable {system : System State}

theorem actJob_cases (builds : ∀ job ∈ system.jobs, ∃ run, job = .build run) (index : Nat) :
    Idle system (system.actJob programs setting builder index) ∨
      ∃ run run' events, Turned programs setting builder index run run' events system
        (system.actJob programs setting builder index) := by
  unfold actJob
  split
  · rename_i job listed _
    obtain ⟨run, rfl⟩ := builds job (List.mem_of_getElem? listed)
    by_cases able : run.isAble builder system.world.clock = true
    · have steps := BuildRun.act_step programs setting builder system.world run
        (BuildRun.result?_of_isAble able)
      simp only [Job.isAble, able, if_true]
      exact .inr ⟨run, _, _, listed, .own steps, rfl, rfl⟩
    · simp only [Job.isAble, able]
      exact .inl ⟨rfl, rfl, rfl, rfl, Nat.le_refl _⟩
  · exact .inl ⟨rfl, rfl, rfl, rfl, Nat.le_refl _⟩

/-- What happens when the process of a build takes a step: the process as it is then, and what it
prints. -/
structure Stepped (index : Nat) (run : BuildRun State) (command : Command) (state : State)
    (since due : Nat) (later : List Command) (child : Child State) (events : List Event)
    (system after : System State) : Prop where
  follows : child.Follows (programs.step system.world.files state).2
  prints : ∀ event ∈ events, ∃ channel bytes, event = .printed channel bytes
  jobs : after.jobs = system.jobs.set index
    (.build { run with phase := .running ⟨command, .waiting child since due⟩ later })
  trace : after.trace = events.reverse ++ system.trace
  files : after.world.files = (programs.step system.world.files state).1
  clock : after.world.clock = system.world.clock
  drawn : after.world.drawn = system.world.drawn

/-- The process of a build takes a step when it is its turn and it is awake. -/
theorem actChild_awake {index : Nat} {run : BuildRun State} {command : Command} {state : State}
    {wakes since due : Nat} {later : List Command} (listed : system.jobs[index]? = some (.build run))
    (phase : run.phase = .running ⟨command, .waiting (.running state wakes) since due⟩ later)
    (awake : wakes ≤ system.world.clock) :
    ∃ child events, Stepped programs index run command state since due later child events system
      (system.actChild programs setting index) := by
  simp only [actChild, listed, BuildRun.child_of_phase phase, awake, if_true,
    BuildRun.withChild_of_phase phase]
  cases moves : (programs.step system.world.files state).2 with
  | goesOn next => exact ⟨.running next wakes, [], by rw [moves]; rfl, by simp, rfl, rfl, rfl, rfl, rfl⟩
  | sleeps pause next =>
    exact ⟨.running next (system.world.clock + pause), [], by rw [moves]; rfl, by simp, rfl, rfl, rfl,
      rfl, rfl⟩
  | prints channel bytes next =>
    exact ⟨.running next wakes, [.printed channel bytes], by rw [moves]; rfl, by simp, rfl, rfl, rfl,
      rfl, rfl⟩
  | signals signal next =>
    have kept (system : System State) := deliver_idle setting signal system
    exact ⟨.running next wakes, [], by rw [moves]; rfl, by simp, (kept _).1.jobs, (kept _).1.trace,
      (kept _).1.files, (kept _).2, (kept _).1.drawn⟩
  | ends status => exact ⟨.ended status, [], by rw [moves]; rfl, by simp, rfl, rfl, rfl, rfl, rfl⟩

/-- A step of the process of a build is a turn of the build. -/
theorem Stepped.turned {index : Nat} {run : BuildRun State} {command : Command} {state : State}
    {wakes since due : Nat} {later : List Command} {child : Child State} {events : List Event}
    {after : System State} (listed : system.jobs[index]? = some (.build run))
    (phase : run.phase = .running ⟨command, .waiting (.running state wakes) since due⟩ later)
    (stepped : Stepped programs index run command state since due later child events system after) :
    ∃ run' events, Turned programs setting builder index run run' events system after :=
  ⟨_, events, listed, .process phase stepped.files stepped.clock stepped.drawn stepped.follows
    stepped.prints, stepped.jobs, stepped.trace⟩

theorem actChild_cases (builds : ∀ job ∈ system.jobs, ∃ run, job = .build run) (index : Nat) :
    Idle system (system.actChild programs setting index) ∨
      ∃ run run' events, Turned programs setting builder index run run' events system
        (system.actChild programs setting index) := by
  cases listed : system.jobs[index]? with
  | none =>
    simp only [actChild, listed]
    exact .inl ⟨rfl, rfl, rfl, rfl, Nat.le_refl _⟩
  | some job =>
    obtain ⟨run, rfl⟩ := builds job (List.mem_of_getElem? listed)
    cases waits : (Job.build run).child? with
    | none =>
      simp only [actChild, listed, waits]
      exact .inl ⟨rfl, rfl, rfl, rfl, Nat.le_refl _⟩
    | some child =>
      cases child with
      | ended status =>
        simp only [actChild, listed, waits]
        exact .inl ⟨rfl, rfl, rfl, rfl, Nat.le_refl _⟩
      | running state wakes =>
        by_cases awake : wakes ≤ system.world.clock
        · obtain ⟨command, since, due, later, phase⟩ := BuildRun.phase_of_child waits
          obtain ⟨child, events, stepped⟩ := actChild_awake programs setting listed phase awake
          exact .inr ⟨run, stepped.turned programs setting builder listed phase⟩
        · simp only [actChild, listed, waits, awake, if_false]
          exact .inl ⟨rfl, rfl, rfl, rfl, Nat.le_refl _⟩

/-- **What is chosen is idle or a turn of one build**, if all jobs are builds. -/
theorem act_cases (builds : ∀ job ∈ system.jobs, ∃ run, job = .build run) (choice : Choice) :
    Idle system (system.act programs setting builder choice) ∨
      ∃ index run run' events, Turned programs setting builder index run run' events system
        (system.act programs setting builder choice) := by
  cases choice with
  | pass time => exact .inl ⟨rfl, rfl, rfl, rfl, Nat.le_add_right _ _⟩
  | raise signal => exact .inl ⟨rfl, rfl, rfl, rfl, Nat.le_refl _⟩
  | job index => exact (actJob_cases programs setting builder builds index).imp_right (⟨index, ·⟩)
  | child index => exact (actChild_cases programs setting builder builds index).imp_right (⟨index, ·⟩)

end System

/-- A signal that does not end the driver. -/
def Setting.IsHarmless (setting : Setting) (signal : Nat) : Prop :=
  setting.signalEffect signal ≠ .fatal

/-- Nothing ends the driver if no process sends it a signal that does. -/
theorem System.endedBy?_act {programs : Programs State} {setting : Setting} {builder : Builder}
    {system : System State} (choice : Choice) (alive : system.endedBy? = none)
    (harmless : ∀ job ∈ system.jobs, ∀ state wakes signal next,
      job.child? = some (.running state wakes) →
      (programs.step system.world.files state).2 = .signals signal next → setting.IsHarmless signal) :
    (system.act programs setting builder choice).endedBy? = none := by
  cases choice with
  | pass time | raise signal => exact alive
  | job index =>
    show (system.actJob programs setting builder index).endedBy? = none
    unfold actJob
    split
    · split <;> exact alive
    · exact alive
  | child index =>
    show (system.actChild programs setting index).endedBy? = none
    unfold actChild
    split
    · exact alive
    · rename_i job listed
      split
      · rename_i state wakes waits
        split
        · dsimp only
          split
          · exact alive
          · exact alive
          · exact alive
          · rename_i signal next sends
            have spared := harmless job (List.mem_of_getElem? listed) _ _ _ _ waits sends
            unfold deliver
            unfold Setting.IsHarmless at spared
            split
            · exact alive
            · exact alive
            · contradiction
          · exact alive
        · exact alive
      · exact alive

/-! ### One build on its own -/

/-- Where the only job of a system stands, if it is a build. -/
def System.build? (system : System State) : Option (BuildRun State) :=
  match system.jobs with
  | [.build run] => some run
  | _ => none

/-- One build on its own: the machine, what the build finds, and what is asked of it. -/
structure Solo (State : Type) where
  programs : Programs State
  setting : Setting
  builder : Builder
  world : World
  request : BuildRequest

namespace Solo

/-- The build and its world after a list of choices. -/
def after (solo : Solo State) (choices : List Choice) : System State :=
  (System.start solo.world [.build (.start solo.request)]).run solo.programs solo.setting
    solo.builder choices

/-- What a build on its own has come to after a list of choices: the world, where the build stands,
and what has been seen of it, the latest first. -/
structure Comes (solo : Solo State) (choices : List Choice) (world : World) (run : BuildRun State)
    (trace : List Event) : Prop where
  world_eq : (solo.after choices).world = world
  jobs_eq : (solo.after choices).jobs = [.build run]
  trace_eq : (solo.after choices).trace = trace

/-- A turn of the build. -/
def Turn (solo : Solo State) : World → BuildRun State → World → BuildRun State → List Event → Prop :=
  BuildRun.Turn solo.programs solo.setting solo.builder

/-- A build that is done takes no turns. -/
theorem unfinished_of_turn {solo : Solo State} {before after : World} {run run' : BuildRun State} {events : List Event}
    (turn : solo.Turn before run after run' events) {result : Except BuildFailure BuildOutcome} :
    run.phase ≠ .finished result := by
  intro ended
  cases turn with
  | process phase _ _ _ _ _ =>
    rw [phase] at ended
    cases ended
  | own steps => cases steps <;> simp_all

/-- One more choice is idle or a turn of the build. -/
theorem after_cases (solo : Solo State) (choices : List Choice) (choice : Choice)
    {run : BuildRun State} (jobs : (solo.after choices).jobs = [.build run]) :
    System.Idle (solo.after choices) (solo.after (choices ++ [choice])) ∨
      ∃ run' events, System.Turned solo.programs solo.setting solo.builder 0 run run' events
        (solo.after choices) (solo.after (choices ++ [choice])) := by
  have acts : solo.after (choices ++ [choice])
      = (solo.after choices).act solo.programs solo.setting solo.builder choice :=
    List.foldl_append
  have builds : ∀ job ∈ (solo.after choices).jobs, ∃ run : BuildRun State, job = .build run := by
    rw [jobs]
    intro job member
    exact ⟨run, List.mem_singleton.mp member⟩
  rw [acts]
  rcases System.act_cases solo.programs solo.setting solo.builder builds choice with idle | turned
  · exact .inl idle
  · obtain ⟨index, run₀, run', events, turned⟩ := turned
    have listed := turned.listed
    rw [jobs] at listed
    cases index with
    | zero =>
      cases listed
      exact .inr ⟨run', events, turned⟩
    | succ more => cases listed

/-- The build stays the only job. -/
theorem after_jobs (solo : Solo State) (choices : List Choice) :
    ∃ run, (solo.after choices).jobs = [.build run] := by
  induction choices using List.reverseRecOn with
  | nil => exact ⟨_, rfl⟩
  | append_singleton choices choice ih =>
    obtain ⟨run, jobs⟩ := ih
    rcases solo.after_cases choices choice jobs with idle | turned
    · exact ⟨run, by rw [idle.jobs, jobs]⟩
    · obtain ⟨run', events, turned⟩ := turned
      exact ⟨run', by rw [turned.jobs, jobs]; rfl⟩

/-- The build comes to something whatever is chosen. -/
theorem exists_comes (solo : Solo State) (choices : List Choice) :
    ∃ world run trace, solo.Comes choices world run trace := by
  obtain ⟨run, jobs⟩ := solo.after_jobs choices
  exact ⟨_, run, _, rfl, jobs, rfl⟩

namespace Comes

variable {solo : Solo State}

/-- A build comes to one thing only. -/
theorem unique {choices : List Choice} {world world' : World} {run run' : BuildRun State}
    {trace trace' : List Event} (comes : solo.Comes choices world run trace)
    (comes' : solo.Comes choices world' run' trace') :
    world = world' ∧ run = run' ∧ trace = trace' := by
  have jobs := comes.jobs_eq
  rw [comes'.jobs_eq] at jobs
  cases jobs
  exact ⟨comes.world_eq.symm.trans comes'.world_eq, rfl, comes.trace_eq.symm.trans comes'.trace_eq⟩

theorem build?_eq {choices : List Choice} {world : World} {run : BuildRun State} {trace : List Event}
    (comes : solo.Comes choices world run trace) : (solo.after choices).build? = some run := by
  unfold System.build?
  rw [comes.jobs_eq]

/-- The stage that a build is running, from what is seen of it in the system. -/
theorem running {choices : List Choice} {world : World} {run : BuildRun State} {trace : List Event}
    (comes : solo.Comes choices world run trace) {α : Type} (about : Command → α) {seen : α}
    {phase : StagePhase State}
    (stands : ((solo.after choices).build?.bind BuildRun.stage?).map
      (fun stage => (about stage.command, stage.phase)) = some (seen, phase)) :
    ∃ command later, run.phase = .running ⟨command, phase⟩ later ∧ about command = seen := by
  obtain ⟨⟨command, phase'⟩, staged, shape⟩ := Option.map_eq_some_iff.mp stands
  rw [comes.build?_eq, Option.bind_some] at staged
  obtain ⟨later, runs⟩ := BuildRun.phase_of_stage? staged
  obtain ⟨same, rfl⟩ := Prod.mk.inj shape
  exact ⟨command, later, runs, same⟩

/-- **One more choice is idle or a turn of the build.** -/
theorem next {choices : List Choice} {choice : Choice} {before after : World}
    {run run' : BuildRun State} {trace trace' : List Event}
    (comes : solo.Comes choices before run trace)
    (comes' : solo.Comes (choices ++ [choice]) after run' trace') :
    (run' = run ∧ trace' = trace ∧ after.files = before.files ∧ after.drawn = before.drawn) ∨
      ∃ events, solo.Turn before run after run' events ∧ trace' = events.reverse ++ trace := by
  have jobs' := comes'.jobs_eq
  rcases solo.after_cases choices choice comes.jobs_eq with idle | ⟨run₀, events, turned⟩
  · rw [idle.jobs, comes.jobs_eq] at jobs'
    cases jobs'
    refine .inl ⟨rfl, ?_, ?_, ?_⟩
    · rw [← comes'.trace_eq, idle.trace, comes.trace_eq]
    · rw [← comes'.world_eq, idle.files, comes.world_eq]
    · rw [← comes'.world_eq, idle.drawn, comes.world_eq]
  · rw [turned.jobs, comes.jobs_eq] at jobs'
    cases jobs'
    have turn := turned.turn
    rw [comes.world_eq, comes'.world_eq] at turn
    refine .inr ⟨events, turn, ?_⟩
    rw [← comes'.trace_eq, turned.trace, comes.trace_eq]

/-- **Induction over the run of a build on its own**: what holds before its first step, and is
preserved when time passes and by every turn, holds whatever is chosen. -/
theorem induction {motive : List Choice → World → BuildRun State → List Event → Prop}
    (begins : motive [] solo.world (.start solo.request) [])
    (idles : ∀ {choices : List Choice} {choice : Choice} {before after : World}
      {run : BuildRun State} {trace : List Event},
      solo.Comes choices before run trace → solo.Comes (choices ++ [choice]) after run trace →
      after.files = before.files → after.drawn = before.drawn →
      motive choices before run trace → motive (choices ++ [choice]) after run trace)
    (turns : ∀ {choices : List Choice} {choice : Choice} {before after : World}
      {run run' : BuildRun State} {trace events : List Event},
      solo.Comes choices before run trace →
      solo.Comes (choices ++ [choice]) after run' (events.reverse ++ trace) →
      solo.Turn before run after run' events → motive choices before run trace →
      motive (choices ++ [choice]) after run' (events.reverse ++ trace))
    {choices : List Choice} {world : World} {run : BuildRun State} {trace : List Event}
    (comes : solo.Comes choices world run trace) : motive choices world run trace := by
  induction choices using List.reverseRecOn generalizing world run trace with
  | nil =>
    obtain ⟨rfl, rfl, rfl⟩ := comes.unique (⟨rfl, rfl, rfl⟩ : solo.Comes [] _ _ _)
    exact begins
  | append_singleton choices choice ih =>
    obtain ⟨before, run₀, trace₀, earlier⟩ := solo.exists_comes choices
    rcases earlier.next comes with ⟨rfl, rfl, files, drawn⟩ | ⟨events, turn, rfl⟩
    · exact idles earlier comes files drawn (ih earlier)
    · exact turns earlier comes turn (ih earlier)

/-- **Induction over a run from some moment on.** -/
theorem induction_from {motive : List Choice → World → BuildRun State → List Event → Prop}
    {earlier : List Choice} {past : World} {went : BuildRun State} {seen : List Event}
    (comesEarlier : solo.Comes earlier past went seen) (begins : motive earlier past went seen)
    (idles : ∀ {choices : List Choice} {choice : Choice} {before after : World}
      {run : BuildRun State} {trace : List Event},
      solo.Comes choices before run trace → solo.Comes (choices ++ [choice]) after run trace →
      after.files = before.files → motive choices before run trace →
      motive (choices ++ [choice]) after run trace)
    (turns : ∀ {choices : List Choice} {choice : Choice} {before after : World}
      {run run' : BuildRun State} {trace events : List Event},
      solo.Comes choices before run trace →
      solo.Comes (choices ++ [choice]) after run' (events.reverse ++ trace) →
      solo.Turn before run after run' events → motive choices before run trace →
      motive (choices ++ [choice]) after run' (events.reverse ++ trace))
    {choices : List Choice} {world : World} {run : BuildRun State} {trace : List Event}
    (comes : solo.Comes choices world run trace) (shorter : earlier <+: choices) :
    motive choices world run trace := by
  refine comes.induction (motive := fun choices world run trace =>
    earlier <+: choices → motive choices world run trace) ?_ ?_ ?_ shorter
  · intro shorter
    obtain rfl := List.prefix_nil.mp shorter
    obtain ⟨rfl, rfl, rfl⟩ := comesEarlier.unique ⟨rfl, rfl, rfl⟩
    exact begins
  · intro choices choice before after run trace comes now files _ ih shorter
    rcases List.prefix_concat_iff.mp shorter with rfl | shorter
    · obtain ⟨rfl, rfl, rfl⟩ := comesEarlier.unique now
      exact begins
    · exact idles comes now files (ih shorter)
  · intro choices choice before after run run' trace events comes now turn ih shorter
    rcases List.prefix_concat_iff.mp shorter with rfl | shorter
    · obtain ⟨rfl, rfl, rfl⟩ := comesEarlier.unique now
      exact begins
    · exact turns comes now turn (ih shorter)

end Comes

/-! ### A small build -/

/-- The build of the text `1` in the directory `/t`, where the source of the run-time support is. -/
def small (programs : Programs State) (output : Bytes) : Solo State where
  programs := programs
  setting := ⟨[], ⟨[]⟩, fun _ => [0x61], fun _ => .ignored⟩
  builder :=
    ⟨⟨[0x66], [0x63], [0x62]⟩, Bytes.ofText "/t/r", some (Bytes.ofText "/t"), ⟨none, false⟩⟩
  world :=
    ⟨(FileSystem.empty.put [[0x74]] (.directory Mode.ofDirectory)).put [[0x72], [0x74]]
      (.file Mode.ofFile [0x72]), .lowered, 0, 0⟩
  request := ⟨Bytes.ofText "s", "1", some output⟩

theorem small_sound (programs : Programs State) (output : Bytes) :
    (small programs output).world.files.Sound :=
  (FileSystem.sound_empty.put (by decide) (by decide) (by decide)).put (by decide) (by decide)
    (by decide)

end Solo

end CalcBuild

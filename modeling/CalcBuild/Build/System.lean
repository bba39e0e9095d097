/-
**Builds, processes and the clock together.**

Several jobs run at the same time in one world. Each job may have started a process. What happens
next is a choice: one of the jobs takes its next step, or one of the processes does, or time passes,
or the flag is raised from outside. A run is a list of such choices, and what holds for every list
holds however the jobs and processes take turns.

* `Job`: a single stage or a build;
* `System.act`: what a choice does; a choice that is not possible does nothing;
* `System.run`: what a list of choices does.
-/

import CalcBuild.Build.BuildRun

namespace CalcBuild

open Files

/-- Something that the driver does from beginning to end: one stage, or a whole build. -/
inductive Job (State : Type) where
  | stage (run : StageRun State)
  | build (run : BuildRun State)

namespace Job

variable {State : Type}

/-- The stage that a job is running. -/
def stage? : Job State → Option (StageRun State)
  | .stage run => some run
  | .build run => run.stage?

/-- The process of a job that has not been waited for. -/
def child? (job : Job State) : Option (Child State) :=
  job.stage?.bind StageRun.child?

/-- Puts another process in place of the one of a job. -/
def withChild (job : Job State) (child : Child State) : Job State :=
  match job with
  | .stage run => .stage (run.withChild child)
  | .build run => .build (run.withChild child)

/-- Whether a job can take its next step. -/
def isAble (builder : Builder) (clock : Nat) : Job State → Bool
  | .stage run => run.isAble builder.stageOptions clock
  | .build run => run.isAble builder clock

/-- The next step of a job. -/
def act (programs : Programs State) (setting : Setting) (builder : Builder) (world : World) :
    Job State → World × Job State × List Event
  | .stage run =>
    let stepped := run.act programs setting builder.stageOptions world
    (world, .stage stepped.1, stepped.2)
  | .build run =>
    let stepped := run.act programs setting builder world
    (stepped.1, .build stepped.2.1, stepped.2.2)

/-- Whether a job is done. -/
def isFinished : Job State → Bool
  | .stage run => run.result?.isSome
  | .build run => run.result?.isSome

end Job

/-- Jobs in a world, what has been seen of them, the latest first, and the signal that ended the
driver, if one did. A driver that was ended takes no steps, but its processes go on. -/
structure System (State : Type) where
  world : World
  jobs : List (Job State)
  trace : List Event
  endedBy? : Option Nat

/-- What happens next. -/
inductive Choice where
  | job (index : Nat)
  | child (index : Nat)
  | pass (time : Nat)
  | raise (signal : Int32)
  deriving DecidableEq, Repr

namespace System

variable {State : Type}

/-- Jobs before their first steps. -/
def start (world : World) (jobs : List (Job State)) : System State :=
  ⟨world, jobs, [], none⟩

/-- What a signal that a process sends to the driver does. -/
def deliver (setting : Setting) (signal : Nat) (system : System State) : System State :=
  match setting.signalEffect signal with
  | .ignored => system
  | .raises =>
    { system with
      world := { system.world with flag := system.world.flag.raise (Int32.ofNat signal) } }
  | .fatal => { system with endedBy? := some (system.endedBy?.getD signal) }

/-- The next step of a job. -/
def actJob (programs : Programs State) (setting : Setting) (builder : Builder) (index : Nat)
    (system : System State) : System State :=
  match system.jobs[index]?, system.endedBy? with
  | some job, none =>
    if job.isAble builder system.world.clock then
      let stepped := job.act programs setting builder system.world
      { system with
        world := stepped.1
        jobs := system.jobs.set index stepped.2.1
        trace := stepped.2.2.reverse ++ system.trace }
    else system
  | _, _ => system

/-- The next step of the process of a job, if it runs and is awake. -/
def actChild (programs : Programs State) (setting : Setting) (index : Nat)
    (system : System State) : System State :=
  match system.jobs[index]? with
  | none => system
  | some job =>
    match job.child? with
    | some (.running state wakes) =>
      if wakes ≤ system.world.clock then
        let stepped := programs.step system.world.files state
        let become (child : Child State) : System State :=
          { system with
            world := { system.world with files := stepped.1 }
            jobs := system.jobs.set index (job.withChild child) }
        match stepped.2 with
        | .goesOn next => become (.running next wakes)
        | .sleeps pause next => become (.running next (system.world.clock + pause))
        | .prints channel bytes next =>
          { become (.running next wakes) with trace := .printed channel bytes :: system.trace }
        | .signals signal next => (become (.running next wakes)).deliver setting signal
        | .ends status => become (.ended status)
      else system
    | _ => system

/-- What a choice does. -/
def act (programs : Programs State) (setting : Setting) (builder : Builder)
    (system : System State) : Choice → System State
  | .job index => system.actJob programs setting builder index
  | .child index => system.actChild programs setting index
  | .pass time =>
    { system with world := { system.world with clock := system.world.clock + time } }
  | .raise signal =>
    { system with world := { system.world with flag := system.world.flag.raise signal } }

/-- What a list of choices does. -/
def run (programs : Programs State) (setting : Setting) (builder : Builder)
    (system : System State) (choices : List Choice) : System State :=
  choices.foldl (fun system choice => system.act programs setting builder choice) system

/-- Whether nothing is left to do: the jobs are done, or the driver was ended. Processes that the
driver has not waited for may still run if it was ended. -/
def isFinished (system : System State) : Bool :=
  if system.endedBy?.isSome then
    system.jobs.all fun job =>
      match job.child? with
      | some child => !child.isRunning
      | none => true
  else system.jobs.all Job.isFinished

end System

end CalcBuild

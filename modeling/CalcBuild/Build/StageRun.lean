/-
**Running one stage.**

A stage runs in steps. Each step looks at the world once and may change it once, so the steps of
several builds, of the processes they start and of the clock can be interleaved.

A stage first looks at the flag, then at its inputs, then starts its program and waits for it, and
in the end looks at the status and at the file that should have been made. Without timeout and flag
it waits until the process has ended. Otherwise it looks in intervals: first whether the process has
ended, then whether the flag is raised, then whether the time is up.

* `StagePhase`: where a stage stands;
* `StageRun.act`: its next step;
* `StageRun.isAble`: whether it can take that step now.
-/

import CalcBuild.Build.World

namespace CalcBuild

open Files

/-- What is given for all stages of a build: how long one may take, in nanoseconds, and whether the
flag cancels it. -/
structure StageOptions where
  timeout? : Option Nat
  cancellable : Bool
  deriving DecidableEq, Repr

/-- A stage that ran to completion. -/
structure StageResult where
  stage : Stage
  command : String
  status : WaitStatus
  /-- The time that the process took, in nanoseconds. -/
  elapsed : Nat
  deriving DecidableEq, Repr

/-- Where a stage stands. -/
inductive StagePhase (State : Type) where
  | ready
  | inspecting
  | launching
  /-- The process was started at the time `since`, and is looked at when `due` has come. -/
  | waiting (child : Child State) (since due : Nat)
  | collected (status : WaitStatus) (elapsed : Nat)
  | finished (result : Except BuildFailure StageResult)

/-- A command and where its stage stands. -/
structure StageRun (State : Type) where
  command : Command
  phase : StagePhase State

namespace StageOptions

/-- The time between two looks at a process, in nanoseconds. -/
def pollInterval : Nat := 10000000

/-- The signal of the flag, if it is raised and cancels builds. -/
def cancelledBy (options : StageOptions) (flag : CancelFlag) : Option Int32 :=
  if options.cancellable then flag.raised else none

/-- Whether a stage waits until its process has ended, without looking at anything else. -/
def isBlocking (options : StageOptions) : Bool :=
  options.timeout?.isNone && !options.cancellable

end StageOptions

/-- What a look at a process finds: it has ended, the wait is cut short, or it has to go on. -/
inductive Poll where
  | ended (status : WaitStatus)
  | interrupted (signal : Int32)
  | timedOut (timeout : Nat)
  | pending
  deriving DecidableEq, Repr

/-- A look at a process: its end comes first, then the flag, then the time. -/
def poll (options : StageOptions) (status? : Option WaitStatus) (flag : CancelFlag)
    (elapsed : Nat) : Poll :=
  match status? with
  | some status => .ended status
  | none =>
    match options.cancelledBy flag with
    | some signal => .interrupted signal
    | none =>
      match options.timeout? with
      | some timeout => if timeout ≤ elapsed then .timedOut timeout else .pending
      | none => .pending

/-- The launch of a command. Its process finds nothing on its standard input. -/
def Command.launch (command : Command) (setting : Setting) : Launch where
  program := command.program
  arguments := command.arguments
  cwd := setting.cwd
  environment := setting.environment
  input := []

namespace StageRun

/-- A stage before its first step. -/
def start {State : Type} (command : Command) : StageRun State := ⟨command, .ready⟩

/-- The record that a stage begins. -/
def runningRecord (command : Command) : Log.Record where
  level := .debug
  target := .pipeline
  stage := some command.stage.name
  message := "running stage"
  fields := [("command", command.line)]

/-- The record that a stage is done. -/
def finishedRecord (command : Command) (elapsed : Nat) : Log.Record where
  level := .debug
  target := .pipeline
  stage := some command.stage.name
  message := "stage finished"
  fields := [("elapsed_ms", Number.numeral (elapsed / 1000000))]

/-- The first of the inputs that does not exist. -/
def missingInput? (setting : Setting) (files : FileSystem) (command : Command) : Option Bytes :=
  command.inputs.find? fun input => !files.pathExists setting.cwd input

/-- Why a stage fails whose process has ended. -/
def rejection? (setting : Setting) (files : FileSystem) (command : Command) (status : WaitStatus) :
    Option BuildFailure :=
  if !status.isSuccess then some (.stageFailed command.stage command.line status)
  else if !files.pathExists setting.cwd command.output then
    some (.missingArtifact command.stage command.output)
  else none

/-- The next step of a stage: the world after it, where the stage stands then, and what is seen of
it. A stage changes no files itself. -/
def act {State : Type} (programs : Programs State) (setting : Setting) (options : StageOptions)
    (world : World) (run : StageRun State) : StageRun State × List Event :=
  let command := run.command
  let goTo (phase : StagePhase State) (events : List Event) : StageRun State × List Event :=
    ({ run with phase }, events)
  let fail (failure : BuildFailure) (events : List Event) : StageRun State × List Event :=
    goTo (.finished (.error failure)) events
  match run.phase with
  | .ready =>
    match options.cancelledBy world.flag with
    | some signal => fail (.interrupted command.stage signal) []
    | none => goTo .inspecting []
  | .inspecting =>
    match missingInput? setting world.files command with
    | some path => fail (.missingArtifact command.stage path) []
    | none => goTo .launching [.recorded (runningRecord command)]
  | .launching =>
    match programs.start world.files (command.launch setting) with
    | .error cause => fail (.spawn command.stage command.program cause) []
    | .ok state =>
      goTo (.waiting (.running state world.clock) world.clock world.clock)
        [.started command.stage (command.launch setting)]
  | .waiting child since _ =>
    let elapsed := world.clock - since
    match poll options child.status? world.flag elapsed with
    | .ended status => goTo (.collected status elapsed) [.ended command.stage status]
    | .interrupted signal => fail (.interrupted command.stage signal) [.killed command.stage]
    | .timedOut timeout => fail (.stageTimedOut command.stage timeout) [.killed command.stage]
    | .pending => goTo (.waiting child since (world.clock + StageOptions.pollInterval)) []
  | .collected status elapsed =>
    match rejection? setting world.files command status with
    | some failure => fail failure []
    | none =>
      goTo (.finished (.ok ⟨command.stage, command.line, status, elapsed⟩))
        [.recorded (finishedRecord command elapsed)]
  | .finished _ => (run, [])

/-- Whether a stage can take its next step: a wait that blocks goes on when the process has ended,
one that looks in intervals when the time of the next look has come. -/
def isAble {State : Type} (options : StageOptions) (clock : Nat) (run : StageRun State) : Bool :=
  match run.phase with
  | .waiting child _ due => if options.isBlocking then !child.isRunning else due ≤ clock
  | .finished _ => false
  | _ => true

/-- The time of the next look at the process, if the stage waits for one. -/
def due? {State : Type} (options : StageOptions) (run : StageRun State) : Option Nat :=
  match run.phase with
  | .waiting _ _ due => if options.isBlocking then none else some due
  | _ => none

/-- The process of a stage that has not been waited for. -/
def child? {State : Type} (run : StageRun State) : Option (Child State) :=
  match run.phase with
  | .waiting child _ _ => some child
  | _ => none

/-- Puts another process in place of the one of a stage. -/
def withChild {State : Type} (run : StageRun State) (child : Child State) : StageRun State :=
  match run.phase with
  | .waiting _ since due => { run with phase := .waiting child since due }
  | _ => run

/-- The result of a stage that is done. -/
def result? {State : Type} (run : StageRun State) : Option (Except BuildFailure StageResult) :=
  match run.phase with
  | .finished result => some result
  | _ => none

end StageRun

end CalcBuild

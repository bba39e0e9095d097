/-
**Running a build.**

A build opens a workspace, runs the four stages in it, and moves the linked executable to the output
path. It holds on to what has to be removed again, the workspace and the name that the linker writes
to, and lets go of both however it ends.

* `Builder`: what several builds share;
* `BuildPhase`: where a build stands;
* `BuildRun.act`: its next step;
* `BuildOutcome`: what a build that succeeds gives.
-/

import CalcBuild.Build.Request
import CalcBuild.Build.StageRun
import CalcBuild.Build.Staging
import CalcBuild.Build.Workspace

namespace CalcBuild

open Files

/-- What several builds share: the tools, the source of the run-time support, the directory for
workspaces, and what is given for all stages. -/
structure Builder where
  toolchain : Toolchain
  runtimeSource : Bytes
  workspaceRoot? : Option Bytes
  stageOptions : StageOptions
  deriving DecidableEq, Repr

/-- What a build that succeeds gives. -/
structure BuildOutcome where
  output : Bytes
  stages : List StageResult
  deriving DecidableEq, Repr

/-- Where a build stands. The commands after the current one come with the phases in which they are
still to run. -/
inductive BuildPhase (State : Type) where
  | starting
  | opening
  | running (stage : StageRun State) (later : List Command)
  | preparing (link : Command) (later : List Command)
  | reserving (link : Command) (later : List Command)
  | vacating (link : Command) (later : List Command)
  | publishing
  | closing
  /-- Something went wrong: the name that the linker writes to is given up, then the workspace. -/
  | withdrawing (failure : BuildFailure)
  | abandoning (failure : BuildFailure)
  | finished (result : Except BuildFailure BuildOutcome)

/-- A build: its request, where it stands, the results of its stages so far, and what it has to
remove again. -/
structure BuildRun (State : Type) where
  request : BuildRequest
  phase : BuildPhase State
  results : List StageResult
  workspace? : Option Workspace
  staging? : Option Bytes

namespace BuildRun

variable {State : Type}

/-- A build before its first step. -/
def start (request : BuildRequest) : BuildRun State :=
  ⟨request, .starting, [], none, none⟩

/-- The record that a workspace could not be removed. -/
def leftoverRecord (cause : Cause) : Log.Record where
  level := .warn
  target := .pipeline
  stage := none
  message := "failed to remove workspace"
  fields := [("error", cause.text)]

/-- The record that a build is done. -/
def finishedRecord (output : Bytes) : Log.Record where
  level := .info
  target := .pipeline
  stage := none
  message := "build finished"
  fields := [("output", Text.Utf8.lossy output)]

/-- The phase in which a command is about to run. Nothing is made next to the output before the
linker is about to run. -/
def before (command : Command) (later : List Command) : BuildPhase State :=
  if command.stage = .link then .preparing command later else .running (.start command) later

/-- The phase after a stage that succeeded. -/
def following : List Command → BuildPhase State
  | [] => .publishing
  | command :: later => before command later

/-- The commands of a build. -/
def commands (builder : Builder) (workspace : Workspace) (request : BuildRequest) : List Command :=
  plan builder.toolchain workspace builder.runtimeSource (Bytes.ofText request.sourceText)
    request.output

/-- The outcome of a build whose executable is in place. -/
def outcome (run : BuildRun State) : BuildOutcome := ⟨run.request.output, run.results⟩

/-- The next step of a build: the world after it, where the build stands then, and what is seen of
it. -/
def act (programs : Programs State) (setting : Setting) (builder : Builder) (world : World)
    (run : BuildRun State) : World × BuildRun State × List Event :=
  let output := run.request.output
  let goTo (world : World) (phase : BuildPhase State) : World × BuildRun State × List Event :=
    (world, { run with phase }, [])
  match run.phase with
  | .starting =>
    if world.files.isFile setting.cwd builder.runtimeSource then goTo world .opening
    else goTo world (.withdrawing (.missingRuntime builder.runtimeSource))
  | .opening =>
    match Workspace.create setting builder.workspaceRoot? world with
    | (world, .error failure) => goTo world (.withdrawing failure)
    | (world, .ok workspace) =>
      (world,
        { run with
          workspace? := some workspace
          phase := following (commands builder workspace run.request) },
        [.recorded workspace.createdRecord])
  | .running stage later =>
    match stage.result? with
    | some (.ok result) =>
      (world, { run with results := run.results ++ [result], phase := following later }, [])
    | some (.error failure) => goTo world (.withdrawing failure)
    | none =>
      let stepped := stage.act programs setting builder.stageOptions world
      (world, { run with phase := .running stepped.1 later }, stepped.2)
  | .preparing link later =>
    match Staging.prepare setting output world with
    | (world, .error failure) => goTo world (.withdrawing failure)
    | (world, .ok ()) => goTo world (.reserving link later)
  | .reserving link later =>
    match Staging.reserve setting output world with
    | (world, .error failure) => goTo world (.withdrawing failure)
    | (world, .ok staging) =>
      (world,
        { run with staging? := some staging, phase := .vacating (link.redirect staging) later }, [])
  | .vacating link later =>
    match Staging.vacate setting output link.output world.files with
    | (files, .error failure) => goTo { world with files } (.withdrawing failure)
    | (files, .ok ()) => goTo { world with files } (.running (.start link) later)
  | .publishing =>
    match run.staging? with
    | none => goTo world (.withdrawing (.missingArtifact .link output))
    | some staging =>
      match Staging.publish setting output staging world.files with
      | (files, .error failure) => goTo { world with files } (.withdrawing failure)
      | (files, .ok ()) =>
        ({ world with files }, { run with staging? := none, phase := .closing }, [])
  | .closing =>
    let removed := match run.workspace? with
      | some workspace => workspace.remove setting world.files
      | none => (world.files, .ok ())
    let leftover := match removed.2 with
      | .ok () => []
      | .error cause => [.recorded (leftoverRecord cause)]
    ({ world with files := removed.1 },
      { run with workspace? := none, phase := .finished (.ok run.outcome) },
      leftover ++ [.recorded (finishedRecord output)])
  | .withdrawing failure =>
    let files := match run.staging? with
      | some staging => Staging.discard setting staging world.files
      | none => world.files
    ({ world with files }, { run with staging? := none, phase := .abandoning failure }, [])
  | .abandoning failure =>
    let files := match run.workspace? with
      | some workspace => workspace.discard setting world.files
      | none => world.files
    ({ world with files },
      { run with workspace? := none, phase := .finished (.error failure) }, [])
  | .finished _ => (world, run, [])

/-- The stage that a build is running. -/
def stage? (run : BuildRun State) : Option (StageRun State) :=
  match run.phase with
  | .running stage _ => some stage
  | _ => none

/-- Puts another process in place of the one of the stage that a build is running. -/
def withChild (run : BuildRun State) (child : Child State) : BuildRun State :=
  match run.phase with
  | .running stage later => { run with phase := .running (stage.withChild child) later }
  | _ => run

/-- Whether a build can take its next step. -/
def isAble (builder : Builder) (clock : Nat) (run : BuildRun State) : Bool :=
  match run.phase with
  | .running stage _ => stage.result?.isSome || stage.isAble builder.stageOptions clock
  | .finished _ => false
  | _ => true

/-- The result of a build that is done. -/
def result? (run : BuildRun State) : Option (Except BuildFailure BuildOutcome) :=
  match run.phase with
  | .finished result => some result
  | _ => none

end BuildRun

end CalcBuild

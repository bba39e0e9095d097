/-
**Why a build fails.**

* `BuildFailure`: the causes, each with what its message needs;
* `BuildFailure.message`: the wording of each;
* `BuildFailure.exitCode`: the exit status that a failure stands for;
* `BuildFailure.causes`: the texts of the causes below it, the nearest first.
-/

import CalcBuild.Build.Stage
import CalcBuild.Fault.Cause
import CalcBuild.Number.Binary64
import CalcBuild.Process.WaitStatus

namespace CalcBuild

/-- The ways in which a build fails. -/
inductive BuildFailure where
  | toolNotFound (tool : Tool)
  | missingRuntime (path : Bytes)
  | workspaceCreate (cause : Cause)
  | inputRead (path : Bytes) (cause : Cause)
  | spawn (stage : Stage) (program : Bytes) (cause : Cause)
  | wait (stage : Stage) (program : Bytes) (cause : Cause)
  | stageFailed (stage : Stage) (command : String) (status : WaitStatus)
  /-- The timeout is counted in nanoseconds. -/
  | stageTimedOut (stage : Stage) (timeout : Nat)
  | interrupted (stage : Stage) (signal : Int32)
  | missingArtifact (stage : Stage) (path : Bytes)
  | output (path : Bytes) (cause : Cause)
  | signalSetup (errno : Int)
  deriving DecidableEq, Repr

/-- A duration in seconds: whole seconds and nanoseconds are rounded to doubles each, then their
sum, and the shortest decimal that reads back is shown. -/
def secondsText (nanoseconds : Nat) : String :=
  let whole := Number.Magnitude.nearest (nanoseconds / 1000000000) 1
  let fraction := Number.Magnitude.nearest (nanoseconds % 1000000000) 1000000000
  String.ofList (whole.add fraction).shortest.positional

namespace BuildFailure

/-- The wording of a failure. -/
def message : BuildFailure → String
  | .toolNotFound tool =>
    "could not find `" ++ tool.program ++ "` (" ++ tool.description ++ ") on the search path"
  | .missingRuntime path => "runtime source was not found at " ++ Text.Utf8.lossy path
  | .workspaceCreate cause => "failed to create temporary workspace: " ++ cause.text
  | .inputRead path _ => "failed to read source file " ++ Text.Utf8.lossy path
  | .spawn stage program _ =>
    stage.name ++ " stage: failed to start " ++ Text.Utf8.lossy program
  | .wait stage program _ =>
    stage.name ++ " stage: failed while waiting for " ++ Text.Utf8.lossy program
  | .stageFailed stage command status =>
    stage.name ++ " stage failed (" ++ status.text ++ "): " ++ command
  | .stageTimedOut stage timeout =>
    stage.name ++ " stage timed out after " ++ secondsText timeout ++ "s"
  | .interrupted stage signal =>
    stage.name ++ " stage interrupted by signal " ++ Number.signed signal.toInt
  | .missingArtifact stage path =>
    stage.name ++ " stage: expected artifact " ++ Text.Utf8.lossy path ++ " is missing"
  | .output path _ => "failed to write output " ++ Text.Utf8.lossy path
  | .signalSetup errno => "failed to install signal handlers: " ++ errnoTitle errno

/-- The exit status that a failure stands for: that of the tool that failed, 128 and the signal that
interrupted the build, or the general one. -/
def exitCode : BuildFailure → Int
  | .stageFailed _ _ status => status.reported
  | .interrupted _ signal => 128 + signal.toInt
  | _ => WaitStatus.generalFailure

/-- The texts of the causes below a failure. -/
def causes : BuildFailure → List String
  | .workspaceCreate cause => [cause.text]
  | .inputRead _ cause => [cause.text]
  | .spawn _ _ cause => [cause.text]
  | .wait _ _ cause => [cause.text]
  | .output _ cause => [cause.text]
  | .signalSetup errno => [errnoTitle errno]
  | _ => []

end BuildFailure

end CalcBuild

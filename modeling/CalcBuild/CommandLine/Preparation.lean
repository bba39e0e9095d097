/-
**Before the first stage.**

The driver resolves the tools, reads the source file and settles where the run-time support and the
workspace are. None of this changes a file, and the first thing that goes wrong ends the run.

* `Site`: what the driver finds when it starts;
* `Complaint`: what went wrong and what the driver was doing, the line that tells it, and the exit
  status;
* `prepare`: the builder and the request of an invocation, and what is reported on the way.
-/

import CalcBuild.Build.BuildRun
import CalcBuild.CommandLine.Invocation
import CalcBuild.Log.Filter
import CalcBuild.Toolchain.Resolve
import CalcBuild.Toolchain.RuntimeSource

namespace CalcBuild.CommandLine

open Files

/-- What a signal does to the driver: hang-up, interrupt and termination raise the flag; those that
tell of children, windows, urgent data, closed pipes and continuation do nothing; any other ends it.
-/
def signalEffect (signal : Nat) : SignalEffect :=
  if [1, 2, 15].contains signal then .raises
  else if [0, 13, 17, 18, 23, 28].contains signal then .ignored
  else .fatal

/-- What the driver finds when it starts: the current directory, the environment, the random names
it will draw, its own directory if it is known, and the directory of the library in the source tree.
-/
structure Site where
  cwd : Place
  environment : Environment
  names : Nat → Bytes
  driverDir? : Option Bytes
  sourceTree : Bytes

namespace Site

/-- The setting of the builds that the driver runs. -/
def setting (site : Site) : Setting where
  cwd := site.cwd
  environment := site.environment
  names := site.names
  signalEffect := CommandLine.signalEffect

/-- The directories in which tools are searched: those of the invocation, the default ones, and
those that the environment lists. -/
def searchPath (site : Site) (invocation : Invocation) : SearchPath :=
  SearchPath.new (invocation.toolDirs ++ defaultToolDirs site.driverDir?)
    (site.environment.value? (Bytes.ofText "PATH"))

/-- The filter for log records. -/
def filter (site : Site) (invocation : Invocation) : Log.Filter :=
  Log.Filter.chosen (site.environment.value? (Bytes.ofText Log.Filter.variableName))
    invocation.verbose

end Site

/-- What the driver complains about: the failure of a build, some other thing that went wrong, or
either of them while the driver was doing something. -/
inductive Complaint where
  | failed (failure : BuildFailure)
  | other (message : String)
  | during (doing : String) (inner : Complaint)
  deriving DecidableEq, Repr

namespace Complaint

/-- What a complaint says, from the outside to the innermost cause. -/
def parts : Complaint → List String
  | .failed failure => failure.message :: failure.causes
  | .other message => [message]
  | .during doing inner => doing :: inner.parts

/-- The line that tells a complaint. -/
def line (complaint : Complaint) : String :=
  "error: " ++ ": ".intercalate complaint.parts ++ "\n"

/-- The failure that a complaint is about, whatever the driver was doing. -/
def failure? : Complaint → Option BuildFailure
  | .failed failure => some failure
  | .other _ => none
  | .during _ inner => inner.failure?

/-- The exit status: that of the failure if it is one that can be told apart from success, else the
general one. -/
def code (complaint : Complaint) : Nat :=
  let told := (complaint.failure?.map BuildFailure.exitCode).getD WaitStatus.generalFailure
  if 1 ≤ told && told ≤ 255 then told.toNat else WaitStatus.generalFailure.toNat

end Complaint

/-- What the driver reports, in order: the tools it uses, what is seen of the run, and a complaint.
-/
inductive Report where
  | tool (tool : Tool) (path : Bytes)
  | seen (event : Event)
  | complaint (complaint : Complaint)
  deriving DecidableEq, Repr

/-- The builder of an invocation. -/
def builder (site : Site) (files : FileSystem) (toolchain : Toolchain) (invocation : Invocation) :
    Builder where
  toolchain := toolchain
  runtimeSource := invocation.runtime?.getD
    (defaultRuntimeSource files site.cwd site.driverDir? site.sourceTree)
  workspaceRoot? := invocation.tempDir?
  stageOptions :=
    { timeout? := invocation.timeout?.map fun seconds => seconds * 1000000000, cancellable := true }

/-- The reports of the resolved tools, if they are asked for. -/
def toolReports (toolchain : Toolchain) (verbose : Bool) : List Report :=
  if verbose then Tool.all.map fun tool => .tool tool (toolchain.path tool) else []

/-- What the driver has found out before the first stage. -/
structure Preparation where
  reports : List Report
  result : Except Complaint (Builder × BuildRequest)

/-- Resolves the tools, then reads the source file. -/
def prepare (site : Site) (files : FileSystem) (invocation : Invocation) : Preparation :=
  let search := site.searchPath invocation
  let found := (Toolchain.foundRecords search files site.cwd Tool.all).map fun record =>
    Report.seen (.recorded record)
  match Toolchain.resolve search files site.cwd with
  | .error failure => ⟨found, .error (.during "failed to resolve toolchain" (.failed failure))⟩
  | .ok toolchain =>
    let reports := found ++ toolReports toolchain invocation.verbose
    match BuildRequest.read files site.cwd invocation.file invocation.output? with
    | .error failure => ⟨reports, .error (.failed failure)⟩
    | .ok request => ⟨reports, .ok (builder site files toolchain invocation, request)⟩

end CalcBuild.CommandLine

/-
**One run of the driver.**

After the preparation the driver runs one build, whatever turns the build and its processes take,
and tells how it ended.

* `Ending`: how a run ends, and its exit status;
* `conclude`: the reports and the ending of a system in which the build has been run;
* `run`: a run in which things happen as a list of choices says;
* `drive`: the run in which the build and its processes take turns;
* `Report.written?`: what a report writes, and where.
-/

import CalcBuild.Build.Schedule
import CalcBuild.CommandLine.Preparation

namespace CalcBuild.CommandLine

open Files

/-- How a run of the driver ends. -/
inductive Ending where
  | success
  | failure (complaint : Complaint)
  | killed (signal : Nat)
  | unfinished
  deriving DecidableEq, Repr

/-- The exit status of a run; one that was killed has none. -/
def Ending.code? : Ending → Option Nat
  | .success => some 0
  | .failure complaint => some complaint.code
  | .killed _ => none
  | .unfinished => none

/-- The record that the executable has been written. -/
def writtenRecord (output : Bytes) : Log.Record where
  level := .info
  target := .commandLine
  stage := none
  message := "wrote executable"
  fields := [("output", Text.Utf8.lossy output)]

/-- A run of the driver: the world after it, what it reported, and how it ended. -/
structure Run where
  world : World
  reports : List Report
  ending : Ending

variable {State : Type}

/-- The result of the build in a system that was started with one. -/
def buildResult? (system : System State) : Option (Except BuildFailure BuildOutcome) :=
  match system.jobs with
  | .build build :: _ => build.result?
  | _ => none

/-- How a run ends whose system has come to a stand. -/
def ending (file : Bytes) (system : System State) : Ending :=
  match system.endedBy?, buildResult? system with
  | some signal, _ => .killed signal
  | none, some (.ok _) => .success
  | none, some (.error failure) =>
    .failure (.during ("failed to build " ++ Text.Utf8.lossy file) (.failed failure))
  | none, none => .unfinished

/-- What the driver reports after the build. -/
def lastReports (system : System State) : Ending → List Report
  | .success =>
    match buildResult? system with
    | some (.ok outcome) => [.seen (.recorded (writtenRecord outcome.output))]
    | _ => []
  | .failure complaint => [.complaint complaint]
  | _ => []

/-- The run whose system has come to a stand. -/
def conclude (file : Bytes) (reports : List Report) (system : System State) : Run :=
  let ending := ending file system
  { world := system.world
    reports := reports ++ system.trace.reverse.map Report.seen ++ lastReports system ending
    ending }

/-- A run of the driver in which the build is advanced by `advance`. -/
def runWith (advance : Builder → System State → System State) (site : Site)
    (invocation : Invocation) (world : World) : Run :=
  let preparation := prepare site world.files invocation
  match preparation.result with
  | .error complaint =>
    { world
      reports := preparation.reports ++ [.complaint complaint]
      ending := .failure complaint }
  | .ok (builder, request) =>
    conclude invocation.file preparation.reports
      (advance builder (.start world [.build (.start request)]))

/-- A run of the driver in which things happen as a list of choices says. -/
def run (programs : Programs State) (choices : List Choice) (site : Site)
    (invocation : Invocation) (world : World) : Run :=
  runWith (fun builder system => system.run programs site.setting builder choices)
    site invocation world

/-- The run of the driver in which the build and its processes take turns, at most `steps` of them.
-/
def drive (programs : Programs State) (steps : Nat) (site : Site) (invocation : Invocation)
    (world : World) : Run :=
  runWith (fun builder system =>
    Schedule.drive programs site.setting builder none steps system) site invocation world

/-- The line of a log record: when it was written, how severe it is, flush right, and its text. -/
def logLine (filter : Log.Filter) (stamp : String) (record : Log.Record) : String :=
  let indent := String.ofList (List.replicate (6 - record.level.text.length) ' ')
  stamp ++ indent ++ record.text filter.showsStage ++ "\n"

/-- What a report writes, and where; most of what is seen of a run writes nothing. -/
def Report.written? (filter : Log.Filter) (stamp : String) : Report → Option (Channel × Bytes)
  | .tool used path =>
    some (.diagnostics,
      Bytes.ofText ("using " ++ used.program ++ ": " ++ Text.Utf8.lossy path ++ "\n"))
  | .seen (.printed channel bytes) => some (channel, bytes)
  | .seen (.recorded record) =>
    if filter.shows record then
      some (.diagnostics, Bytes.ofText (logLine filter stamp record))
    else none
  | .seen _ => none
  | .complaint told => some (.diagnostics, Bytes.ofText told.line)

/-- What a run writes to one channel. -/
def Run.written (filter : Log.Filter) (stamp : String) (channel : Channel) (run : Run) : Bytes :=
  run.reports.flatMap fun report =>
    match report.written? filter stamp with
    | some (other, bytes) => if other = channel then bytes else []
    | none => []

end CalcBuild.CommandLine

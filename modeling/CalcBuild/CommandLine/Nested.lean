/-
**The driver among the programs that it starts.**

The executable of the driver may lie, under the name of a tool, in a directory that is searched:
its own directory is one. A stage then starts the driver once more, which reads the arguments that
were meant for the tool.

* `executable`: the file that the driver is;
* `programName`: the name that the driver goes by, after the path it was started by;
* `behaviour`: what the driver does as a process;
* `programs`: a machine on which scripts and the driver can be started.

A driver that was started by another one does all that it does to the files at once; what it writes
comes after that, in order. Its files are those that a run by itself leaves behind.
-/

import CalcBuild.CommandLine.Arguments
import CalcBuild.CommandLine.Execution
import CalcBuild.Script.Machine

namespace CalcBuild.CommandLine

open Files
open Script (Behaviour)

/-- The built-in program that the executable of the driver stands for. -/
def builtInName : Bytes := Bytes.ofText driverName

/-- The file that the driver is. -/
def executable : Entry := .file Mode.ofMachine (Image.mark ++ builtInName)

/-- The name that the driver goes by, after the path it was started by. -/
def programName (path : Bytes) : String :=
  match (Path.names path).getLast?.bind Text.Utf8.decode? with
  | some name => String.ofList name
  | none => driverName

/-- Writes texts in order and goes on. -/
def printed (texts : List (Channel × Bytes)) (next : Behaviour) : Behaviour :=
  texts.foldr (fun row next => .prints row.1 row.2 fun _ => next) next

/-- How a process ends that runs the driver. -/
def Ending.behaviour : Ending → Behaviour
  | .killed signal => .ends (.killedBy signal)
  | .unfinished => .hangs
  | other => .ends (.exited (UInt8.ofNat (other.code?.getD 0)))

/-- What the driver does as a process: it acts on the files as a run by itself does, in at most
`steps` turns, and then writes what that run reports. -/
def behaviour (programs : Programs Behaviour) (steps : Nat) (stamp : String) (site : Site)
    (calledAs : Bytes) (arguments : List Bytes) : Behaviour :=
  match read arguments with
  | .error stop =>
    printed [(stop.channel, Bytes.ofText (stop.text (programName calledAs)))]
      (.ends (.exited (UInt8.ofNat stop.code)))
  | .ok invocation =>
    .perform (fun files =>
      let world : World := { files, flag := .lowered, clock := 0, drawn := 0 }
      let run := drive programs steps site invocation world
      (run.world.files, run)) fun run =>
        printed (run.reports.filterMap (Report.written? (site.filter invocation) stamp))
          run.ending.behaviour

/-- A machine on which scripts and the driver can be started; a driver that is started in this way
can start another one, to the given depth. -/
def programs (steps : Nat) (stamp : String) (site : Site) : Nat → Programs Behaviour
  | 0 => Script.programs
  | depth + 1 =>
    { Script.programs with
      start := fun files launch =>
        (launch.image files).map fun image =>
          if image.program = builtInName then
            behaviour (programs steps stamp site depth) steps stamp
              { site with cwd := launch.cwd, environment := launch.environment }
              image.calledAs image.arguments
          else Script.behaviourOf image launch }

end CalcBuild.CommandLine

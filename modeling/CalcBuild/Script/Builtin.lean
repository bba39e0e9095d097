/-
**Commands of the script itself.**

These act on the shell that runs them: they leave loops and functions, mark variables, set options,
read a line and change the directory.

* `specialNames`, `plainNames`: their names; a failure of the first kind ends the script;
* `leaveWith`, `loopFlow`, `exportAll`, `ownAll`, `setOptions`, `readLine`, `changeDirectory`: what
  they do.
-/

import CalcBuild.Script.Field
import CalcBuild.Script.Flow

namespace CalcBuild.Script

open Files

/-- The commands whose failure ends a script. -/
def specialNames : List Bytes :=
  [":", ".", "break", "continue", "eval", "exec", "exit", "export", "readonly", "return", "set",
    "shift", "trap", "unset"].map bytesOf

/-- The other commands that a script runs itself. -/
def plainNames : List Bytes :=
  ["cd", "pwd", "echo", "printf", "test", "[", "kill", "read", "true", "false", "command", "local",
    "type", "umask", "wait", "hash", "alias", "unalias", "ulimit"].map bytesOf

/-- The status that an argument gives: the last eight bits of a number. -/
def statusOf? (argument : Bytes) : Option Nat :=
  (natural? argument).map (· % 256)

/-- Leaves a script or a function with the status that is given, or the last one. -/
def leaveWith (flow : Flow) (shell : Shell) (arguments : List Bytes) (name : String)
    (after : After) : Behaviour :=
  match arguments with
  | [] => after flow shell
  | argument :: _ =>
    match statusOf? argument with
    | some status => after flow (shell.withStatus status)
    | none =>
      shell.report (bytesOf name ++ bytesOf ": Illegal number: " ++ argument) fun shell =>
        after .exits (shell.withStatus 2)

/-- Leaves or repeats as many loops as the argument says. -/
def loopFlow (flow : Nat → Flow) (shell : Shell) (arguments : List Bytes) (after : After) :
    Behaviour :=
  let levels := ((arguments.head?.bind natural?).getD 1)
  after (flow levels) (shell.withStatus 0)

/-- Sets variables and hands them over. -/
def exportAll (shell : Shell) (arguments : List Bytes) : Shell :=
  arguments.foldl (fun shell argument =>
    match assigned? argument with
    | some (name, value) => (shell.set name value).handOver name
    | none => if isName argument then shell.handOver argument else shell) shell

/-- Makes variables a function's own. -/
def ownAll (shell : Shell) (arguments : List Bytes) : Shell :=
  arguments.foldl (fun shell argument =>
    let (name, value?) : Bytes × Option Bytes := match assigned? argument with
      | some (name, value) => (name, some value)
      | none => (argument, none)
    let shell := { shell with own := (name, shell.value? name) :: shell.own }
    match value? with
    | some value => shell.set name value
    | none => shell) shell

/-- Changes the options and the arguments of a script. -/
def setOptions (shell : Shell) : List Bytes → Shell
  | [] => shell
  | argument :: rest =>
    match argument with
    | [0x2D, 0x2D] => { shell with arguments := rest }
    | 0x2D :: first :: letters =>
      let others := shell.letters.filter fun letter => !(first :: letters).contains letter
      let shell := { shell with letters := others ++ first :: letters }
      setOptions shell rest
    | 0x2B :: letters =>
      let others := shell.letters.filter fun letter => !letters.contains letter
      let shell := { shell with letters := others }
      setOptions shell rest
    | _ => { shell with arguments := argument :: rest }

/-- Drops blanks at both ends of a byte string. -/
def trimGaps (bytes : Bytes) : Bytes :=
  ((bytes.dropWhile isFieldGap).reverse.dropWhile isFieldGap).reverse

/-- Gives each name a field of a line; the last one gets what is left. -/
def assignFields (shell : Shell) (line : Bytes) : List Bytes → Shell
  | [] => shell
  | [name] => shell.set name (trimGaps line)
  | name :: rest =>
    let line := line.dropWhile isFieldGap
    let field := line.takeWhile (!isFieldGap ·)
    assignFields (shell.set name field) (line.drop field.length) rest

/-- Reads a line into variables. -/
def readLine (shell : Shell) (arguments : List Bytes) (after : After) : Behaviour :=
  let names := if arguments.head? == some (bytesOf "-r") then arguments.drop 1 else arguments
  let (line, isWhole, shell) := shell.takeLine 0
  after .next ((assignFields shell line names).withStatus (if isWhole then 0 else 1))

/-- Changes the current directory. -/
def changeDirectory (shell : Shell) (arguments : List Bytes) (after : After) : Behaviour :=
  let path := arguments.head?.getD ((shell.value? (bytesOf "HOME")).getD [])
  let refuse : Behaviour :=
    shell.report (bytesOf "cd: can't cd to " ++ path) fun shell =>
      after .next (shell.withStatus 2)
  .look (fun fs => fs.find shell.cwd true path) fun found =>
    match found with
    | .ok (place, .directory mode) =>
      if mode.mayEnter then after .next { shell with cwd := place, status := 0 } else refuse
    | _ => refuse

end CalcBuild.Script

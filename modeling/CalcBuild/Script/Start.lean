/-
**Starting programs from a script.**

A new process takes over the environment, the files and the directory of its parent, and nothing
else.

* `launchOf`: the launch that a command asks for;
* `shellArguments`, `envArguments`: what the arguments of `sh` and `env` ask for;
* `newShell`, `outermost`: the shell in which a new process runs.
-/

import CalcBuild.Script.Flow

namespace CalcBuild.Script

open Files

/-- The directories searched when no variable names any. -/
def defaultPath : Bytes :=
  bytesOf "/usr/local/sbin:/usr/local/bin:/usr/sbin:/usr/bin:/sbin:/bin"

/-- The launch of a program from a script. -/
def launchOf (shell : Shell) (name : Bytes) (arguments : List Bytes) : Launch where
  program := name
  arguments := arguments
  cwd := shell.cwd
  environment :=
    shell.environment.set (bytesOf "PATH") ((shell.value? (bytesOf "PATH")).getD defaultPath)
  input := (shell.take 0).1

/-- What a shell is asked to run: a text, or the file at a path. -/
inductive Source where
  | text (script : Bytes)
  | file (path : Bytes)
  | nothing
  deriving DecidableEq, Repr

/-- What the operands of a shell ask for: a text or a file, the name it goes by, and the arguments
of the script. -/
def shellOperands (calledAs : Bytes) (isText : Bool) : List Bytes → Source × Bytes × List Bytes
  | [] => (.nothing, calledAs, [])
  | operand :: rest =>
    if isText then (.text operand, rest.head?.getD calledAs, rest.drop 1)
    else (.file operand, operand, rest)

/-- What the arguments of a shell ask for: the letters of its options, what it runs, the name it
goes by, and the arguments of the script. -/
def shellArguments (calledAs set : Bytes) (isText : Bool) (arguments : List Bytes) :
    Bytes × Source × Bytes × List Bytes :=
  match arguments with
  | (0x2D :: first :: letters) :: rest =>
    if first :: letters = [0x2D] then (set, shellOperands calledAs isText rest)
    else
      let options := first :: letters
      shellArguments calledAs (set ++ options.filter (· != 0x63))
        (isText || options.contains 0x63) rest
  | operands => (set, shellOperands calledAs isText operands)

/-- A new process: what it inherits, and nothing of what its parent keeps to itself. -/
def newShell (parent : Shell) (name : Bytes) (arguments : List Bytes) (letters : Bytes) : Shell :=
  let bindings := parent.environment.bindings.reverse
  let withPath :=
    if (bindings.lookup (bytesOf "PATH")).isSome then bindings
    else (bytesOf "PATH", defaultPath) :: bindings
  { parent with
    name, arguments
    bindings := (bytesOf "PPID", numeralBytes parent.process) :: withPath.filter fun binding =>
      binding.1 != bytesOf "PPID"
    exported := bindings.map (·.1)
    functions := []
    status := 0
    line := 0
    process := parent.process + 1
    parent := parent.process
    letters := letters
    own := [] }

/-- The shell in which a process that is not a script is run for the driver. -/
def outermost (launch : Launch) : Shell where
  name := []
  arguments := []
  bindings := launch.environment.bindings.reverse
  exported := launch.environment.bindings.map (·.1)
  functions := []
  descriptors := [(0, .source launch.input), (1, .channel .output), (2, .channel .diagnostics)]
  kept := []
  cwd := launch.cwd
  status := 0
  line := 0
  process := Shell.driverProcess
  parent := Shell.driverProcess - 1
  letters := []
  own := []

/-- The variables that the arguments of `env` set, whether it starts from none, and the program it
runs. -/
def envArguments : List Bytes → Bool × List (Bytes × Bytes) × List Bytes
  | [] => (false, [], [])
  | argument :: rest =>
    if argument = bytesOf "-i" || argument = bytesOf "-" then
      let (_, bindings, command) := envArguments rest
      (true, bindings, command)
    else
      match assigned? argument with
      | some binding =>
        let (isEmpty, bindings, command) := envArguments rest
        (isEmpty, binding :: bindings, command)
      | none => (false, [], argument :: rest)

end CalcBuild.Script

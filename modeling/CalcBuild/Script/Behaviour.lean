/-
**What a running script does.**

The future of a script is a tree: it ends, or it does one thing and goes on in a way that depends on
the files. A shell is what the script has set up so far: variables, arguments, descriptors, the
current directory and the last status.

* `Behaviour`: the tree;
* `Shell`: the state of a script;
* `Shell.say`, `Shell.take`: writing to and reading from a descriptor.
-/

import CalcBuild.Files.Change
import CalcBuild.Process.Programs
import CalcBuild.Script.Grammar

namespace CalcBuild.Script

open Files

/-- What a script does from now on. -/
inductive Behaviour where
  | ends (status : WaitStatus)
  /-- Changes the files at once; what follows depends on the files before the change. -/
  | acts (change : FileSystem → FileSystem) (next : FileSystem → Behaviour)
  | sleeps (pause : Nat) (next : Unit → Behaviour)
  | prints (channel : Channel) (bytes : Bytes) (next : Unit → Behaviour)
  /-- Sends a signal to the process that started the script. -/
  | signals (signal : Nat) (next : Unit → Behaviour)
  /-- Goes on without any effect for ever. -/
  | hangs

namespace Behaviour

/-- Does an operation on files and goes on with what it gives. -/
def perform {Result : Type} (operation : FileSystem → FileSystem × Result)
    (next : Result → Behaviour) : Behaviour :=
  .acts (fun files => (operation files).1) (fun files => next (operation files).2)

/-- Looks at the files and goes on with what is seen. -/
def look {Result : Type} (view : FileSystem → Result) (next : Result → Behaviour) : Behaviour :=
  .acts id (fun files => next (view files))

/-- Tries an operation on files and goes on with the fault, if there is one. -/
def attempt (operation : FileSystem → Except Fault FileSystem)
    (next : Option Fault → Behaviour) : Behaviour :=
  perform (fun files =>
    match operation files with
    | .ok files => (files, none)
    | .error fault => (files, some fault)) next

end Behaviour

/-- What a descriptor refers to. -/
inductive Target where
  | channel (channel : Channel)
  | file (place : Place)
  /-- Bytes that are still to be read. -/
  | source (bytes : Bytes)
  /-- A directory, which was opened but cannot be read like a file. -/
  | directory
  /-- What is written is kept for the one who waits for it. -/
  | kept
  | sink
  deriving DecidableEq, Repr

/-- What a script has set up so far. -/
structure Shell where
  /-- The name that the script goes by in its messages. -/
  name : Bytes
  arguments : List Bytes
  bindings : List (Bytes × Bytes)
  exported : List Bytes
  functions : List (Bytes × Statement)
  descriptors : List (Nat × Target)
  /-- What was written to be kept, the latest first. -/
  kept : List Bytes
  cwd : Place
  status : Nat
  line : Nat
  /-- The numbers of the process and of the one that started it. -/
  process : Nat
  parent : Nat
  /-- The letters of the options that are set. -/
  letters : Bytes
  /-- The variables that the function being run has made its own, with their values before. -/
  own : List (Bytes × Option Bytes)

namespace Shell

/-- The number of the process that starts the outermost scripts. -/
def driverProcess : Nat := 1000

/-- Whether a failure ends the script. -/
def stopsOnFailure (shell : Shell) : Bool := shell.letters.contains 0x65

/-- Whether the use of a parameter that is not set ends the script. -/
def stopsOnUnset (shell : Shell) : Bool := shell.letters.contains 0x75

/-- Whether patterns stand for themselves and not for the paths that fit them. -/
def keepsPatterns (shell : Shell) : Bool := shell.letters.contains 0x66

/-- The value of a variable. -/
def value? (shell : Shell) (name : Bytes) : Option Bytes :=
  shell.bindings.lookup name

/-- The shell in which a variable has a value. -/
def set (shell : Shell) (name value : Bytes) : Shell :=
  { shell with
    bindings := (name, value) :: shell.bindings.filter fun binding => binding.1 != name }

/-- The shell without a variable. -/
def unset (shell : Shell) (name : Bytes) : Shell :=
  { shell with
    bindings := shell.bindings.filter fun binding => binding.1 != name
    exported := shell.exported.filter (· != name) }

/-- The shell in which a variable is handed to programs. -/
def handOver (shell : Shell) (name : Bytes) : Shell :=
  { shell with
    exported := if shell.exported.contains name then shell.exported else name :: shell.exported }

/-- The variables that programs are given. -/
def environment (shell : Shell) : Environment :=
  ⟨shell.bindings.reverse.filter fun binding => shell.exported.contains binding.1⟩

/-- What a descriptor refers to. -/
def target? (shell : Shell) (descriptor : Nat) : Option Target :=
  shell.descriptors.lookup descriptor

/-- The shell in which a descriptor refers to something else, or to nothing. -/
def redirect (shell : Shell) (descriptor : Nat) (target? : Option Target) : Shell :=
  let others := shell.descriptors.filter fun entry => entry.1 != descriptor
  { shell with
    descriptors := match target? with
      | some target => (descriptor, target) :: others
      | none => others }

/-- The shell with another last status. -/
def withStatus (shell : Shell) (status : Nat) : Shell := { shell with status }

/-- What was written to be kept. -/
def keptBytes (shell : Shell) : Bytes := shell.kept.reverse.flatten

/-- Writes to a descriptor and goes on; the flag tells whether that was possible. -/
def say (shell : Shell) (descriptor : Nat) (bytes : Bytes) (next : Shell → Bool → Behaviour) :
    Behaviour :=
  if bytes = [] then next shell true
  else
    match shell.target? descriptor with
    | some (.channel channel) => .prints channel bytes fun _ => next shell true
    | some (.file place) =>
      .acts (fun files => files.appendAt place bytes) fun _ => next shell true
    | some .kept => next { shell with kept := bytes :: shell.kept } true
    | some .sink => next shell true
    | some (.source _) => next shell false
    | some .directory => next shell false
    | none => next shell false

/-- Takes all that can still be read from a descriptor. -/
def take (shell : Shell) (descriptor : Nat) : Bytes × Shell :=
  match shell.target? descriptor with
  | some (.source bytes) => (bytes, shell.redirect descriptor (some (.source [])))
  | _ => ([], shell)

/-- Takes one line from a descriptor, without its end; the flag tells whether the line had an end.
-/
def takeLine (shell : Shell) (descriptor : Nat) : Bytes × Bool × Shell :=
  match shell.target? descriptor with
  | some (.source bytes) =>
    let line := bytes.takeWhile (· != 0x0A)
    (line, line.length < bytes.length,
      shell.redirect descriptor (some (.source (bytes.drop (line.length + 1)))))
  | _ => ([], false, shell)

end Shell

end CalcBuild.Script

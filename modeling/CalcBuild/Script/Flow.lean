/-
**How statements are left.**

What follows a statement is told how the statement was left: by going on, by leaving a loop, a
function or the script, or by a signal.

* `Flow`: how a statement is left;
* `After`: what follows a statement;
* `sendAll`: signals that a script sends, to itself and to others.
-/

import CalcBuild.Script.Behaviour
import CalcBuild.Script.Value

namespace CalcBuild.Script

open Files

/-- How a statement is left. -/
inductive Flow where
  | next
  | leaves (levels : Nat)
  | repeats (levels : Nat)
  | returns
  | exits
  | dies (signal : Nat)
  deriving DecidableEq, Repr

/-- What follows a statement. -/
abbrev After := Flow → Shell → Behaviour

/-- Text as bytes. -/
def bytesOf (words : String) : Bytes := Bytes.ofText words

namespace Shell

/-- Writes a message of the script. -/
def report (shell : Shell) (message : Bytes) (next : Shell → Behaviour) : Behaviour :=
  shell.say 2
    (shell.name ++ bytesOf ": " ++ numeralBytes shell.line ++ bytesOf ": " ++ message ++ [0x0A])
    fun shell _ => next shell

/-- Puts descriptors back to what they referred to. -/
def restore (shell : Shell) (saved : List (Nat × Option Target)) : Shell :=
  saved.foldl (fun shell entry => shell.redirect entry.1 entry.2) shell

/-- The shell that goes on after a part that was run apart from it. -/
def afterPart (shell part : Shell) : Shell :=
  { shell with kept := part.kept, status := part.status }

/-- Gives a variable the value it had before. -/
def putBack (shell : Shell) (binding : Bytes × Option Bytes) : Shell :=
  match binding.2 with
  | some value => shell.set binding.1 value
  | none => shell.unset binding.1

end Shell

/-! ### Signals -/

/-- The number of a signal that is given by name or number. -/
def signalNumber? (bytes : Bytes) : Option Nat :=
  match natural? bytes with
  | some number => if number ≤ 64 then some number else none
  | none =>
    let plain := if (bytesOf "SIG").isPrefixOf bytes then bytes.drop 3 else bytes
    (WaitStatus.signalNames.findIdx? fun name => bytesOf name = plain).map (· + 1)

/-- Tells that there is no process of a number. -/
def missProcess (shell : Shell) (after : After) : Behaviour :=
  shell.report (bytesOf "kill: No such process\n") fun shell => after .next (shell.withStatus 1)

/-- Sends a signal to a process: the script itself, or the one that started it. -/
def sendSignal (shell : Shell) (signal : Nat) (target : Bytes) (after : After) : Behaviour :=
  match natural? target with
  | none => missProcess shell after
  | some number =>
    let ignored := [0, 17, 18, 23, 28].contains signal
    if number = shell.process then
      if ignored then after .next (shell.withStatus 0)
      else if [19, 20, 21, 22].contains signal then .hangs
      else after (.dies signal) shell
    else if number = shell.parent then
      if signal = 0 then after .next (shell.withStatus 0)
      else if shell.parent = Shell.driverProcess then
        .signals signal fun _ => after .next (shell.withStatus 0)
      else if ignored then after .next (shell.withStatus 0)
      else after (.dies signal) shell
    else missProcess shell after

/-- The signal and the targets that the arguments of `kill` name. -/
def killArguments? (arguments : List Bytes) : Option (Nat × List Bytes) :=
  match arguments with
  | [0x2D, 0x73] :: name :: targets => (signalNumber? name).map fun signal => (signal, targets)
  | [0x2D, 0x2D] :: targets => some (15, targets)
  | (0x2D :: name) :: targets => (signalNumber? name).map fun signal => (signal, targets)
  | targets => some (15, targets)

/-- Sends a signal to each of several processes. -/
def sendAll (signal : Nat) : List Bytes → Shell → After → Behaviour
  | [], shell, after => after .next shell
  | target :: rest, shell, after =>
    sendSignal shell signal target fun flow shell =>
      match flow with
      | .next => sendAll signal rest shell after
      | flow => after flow shell

end CalcBuild.Script

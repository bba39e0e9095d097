/-
**How a process ended.**

A process that has been waited for is described by a 32-bit status word. Its low seven bits tell the
cases apart.

* `WaitStatus.exitCode?`, `WaitStatus.signal?`, `WaitStatus.stopSignal?`, `WaitStatus.isContinued`:
  the cases;
* `WaitStatus.text`: the words for a status;
* `WaitStatus.reported`: the exit status that stands for a process that failed.
-/

import CalcBuild.Text.Quoted
import CalcBuild.Number.Decimal

namespace CalcBuild

/-- The status word of a process. -/
structure WaitStatus where
  word : UInt32
  deriving DecidableEq, Repr, BEq

namespace WaitStatus

/-- The status of a process that exited with a code. -/
def exited (code : UInt8) : WaitStatus := ⟨code.toUInt32 * 256⟩

/-- The status of a process that a signal killed. -/
def killedBy (signal : Nat) : WaitStatus := ⟨UInt32.ofNat (signal % 128)⟩

/-- The low seven bits. -/
def kind (status : WaitStatus) : Nat := status.word.toNat % 128

/-- The second byte: the exit code, or the signal that stopped the process. -/
def detail (status : WaitStatus) : Nat := status.word.toNat / 256 % 256

/-- The code of a process that exited. -/
def exitCode? (status : WaitStatus) : Option Nat :=
  if status.kind = 0 then some status.detail else none

/-- The signal that killed a process. -/
def signal? (status : WaitStatus) : Option Nat :=
  if 0 < status.kind ∧ status.kind < 127 then some status.kind else none

/-- Whether a core was dumped. -/
def hasCore (status : WaitStatus) : Bool := status.word.toNat / 128 % 2 == 1

/-- The signal that stopped a process that has not ended. -/
def stopSignal? (status : WaitStatus) : Option Nat :=
  if status.word.toNat % 256 = 127 then some status.detail else none

/-- Whether a stopped process was continued. -/
def isContinued (status : WaitStatus) : Bool := status.word.toNat == 0xFFFF

/-- Whether a process exited with code zero: the whole status word is zero then. -/
def isSuccess (status : WaitStatus) : Bool := status.word == 0

/-- The status word read as a signed number. -/
def toInt (status : WaitStatus) : Int :=
  if status.word.toNat < 0x80000000 then status.word.toNat
  else (status.word.toNat : Int) - UInt32.size

/-- The names of the signals from number one on. -/
def signalNames : List String :=
  ["HUP", "INT", "QUIT", "ILL", "TRAP", "ABRT", "BUS", "FPE", "KILL", "USR1", "SEGV", "USR2",
    "PIPE", "ALRM", "TERM", "STKFLT", "CHLD", "CONT", "STOP", "TSTP", "TTIN", "TTOU", "URG",
    "XCPU", "XFSZ", "VTALRM", "PROF", "WINCH", "IO", "PWR", "SYS"]

/-- A signal's number, with its name if it has one. -/
def signalText (signal : Nat) : String :=
  let name? := if signal = 0 then none else signalNames[signal - 1]?
  match name? with
  | some name => Number.numeral signal ++ " (SIG" ++ name ++ ")"
  | none => Number.numeral signal

/-- The words for a status; the first case that applies. -/
def text (status : WaitStatus) : String :=
  match status.exitCode?, status.signal?, status.stopSignal? with
  | some code, _, _ => "exit status: " ++ Number.numeral code
  | none, some signal, _ =>
    "signal: " ++ signalText signal ++ (if status.hasCore then " (core dumped)" else "")
  | none, none, some signal =>
    "stopped (not terminated) by signal: " ++ signalText signal
  | none, none, none =>
    if status.isContinued then "continued (WIFCONTINUED)"
    else
      "unrecognised wait status: " ++ Number.signed status.toInt ++ " 0x" ++
        String.ofList (Text.hexDigits status.word.toNat)

/-- The exit status of any failure that has none of its own. -/
def generalFailure : Int := 1

/-- The exit status that stands for a process that failed: its own exit code, or 128 and the signal
that killed it. A code of zero would say that nothing failed. -/
def reported (status : WaitStatus) : Int :=
  match status.exitCode? with
  | some code => if code = 0 then generalFailure else code
  | none =>
    match status.signal? with
    | some signal => 128 + signal
    | none => generalFailure

end WaitStatus

end CalcBuild

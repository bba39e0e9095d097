/-
**What programs do.**

A machine knows how programs start and what a running process does next. Everything a process does
to its surroundings is one of a few moves, so a process is a state and a step function; what the
state is, the machine decides.

* `Move`: what a process does in one step, apart from changing files;
* `Programs`: how programs start and step;
* `Child`: a started process as its parent sees it.
-/

import CalcBuild.Process.Launch
import CalcBuild.Process.WaitStatus

namespace CalcBuild

open Files

/-- Where a process writes. -/
inductive Channel where
  | output
  | diagnostics
  deriving DecidableEq, Repr

/-- What a process does in one step. -/
inductive Move (State : Type) where
  | goesOn (next : State)
  /-- The pause is counted in nanoseconds. -/
  | sleeps (pause : Nat) (next : State)
  | prints (channel : Channel) (bytes : Bytes) (next : State)
  /-- Sends a signal to the process that started this one. -/
  | signals (signal : Nat) (next : State)
  | ends (status : WaitStatus)

/-- How programs start and what their processes do. A start does not change files. -/
structure Programs (State : Type) where
  start : FileSystem → Launch → Except Cause State
  step : FileSystem → State → FileSystem × Move State

/-- A started process that has not been waited for: it runs, asleep until some time on the clock, or
it has ended. -/
inductive Child (State : Type) where
  | running (state : State) (wakes : Nat)
  | ended (status : WaitStatus)

namespace Child

/-- Whether a process still runs. -/
def isRunning {State : Type} : Child State → Bool
  | .running .. => true
  | .ended _ => false

/-- The status of a process that has ended. -/
def status? {State : Type} : Child State → Option WaitStatus
  | .running .. => none
  | .ended status => some status

end Child

end CalcBuild

/-
**The world of a build.**

What changes while builds run is one value, the world: the files, the flag that cancels builds, the
clock, and how many random names have been drawn. What stays the same is the setting.

* `World.reserve`: makes something under a new random name; it is exclusive, so a name that is taken
  is passed over;
* `Event`: what can be seen of a run besides its files.
-/

import CalcBuild.Build.Cancel
import CalcBuild.Build.Failure
import CalcBuild.Files.Change
import CalcBuild.Log.Record
import CalcBuild.Process.Programs

namespace CalcBuild

open Files

/-- What a signal does to the driver: it raises the flag, nothing, or it ends the driver. -/
inductive SignalEffect where
  | raises
  | ignored
  | fatal
  deriving DecidableEq, Repr

/-- What a build finds around it and does not change. -/
structure Setting where
  cwd : Place
  environment : Environment
  /-- The random part of each name drawn. -/
  names : Nat → Bytes
  signalEffect : Nat → SignalEffect

namespace Setting

/-- The directory for temporary files: the value of `TMPDIR`, or `/tmp`. -/
def temporaryRoot (setting : Setting) : Bytes :=
  (setting.environment.value? (Bytes.ofText "TMPDIR")).getD (Bytes.ofText "/tmp")

end Setting

/-- What changes while builds run. The clock counts nanoseconds. -/
structure World where
  files : FileSystem
  flag : CancelFlag
  clock : Nat
  drawn : Nat

/-- What can be seen of a run. A process that ended or was killed has been waited for. -/
inductive Event where
  | recorded (record : Log.Record)
  | started (stage : Stage) (launch : Launch)
  | printed (channel : Channel) (bytes : Bytes)
  | ended (stage : Stage) (status : WaitStatus)
  | killed (stage : Stage)
  deriving DecidableEq, Repr

namespace World

/-- The number of names that are tried before giving up. -/
def nameLimit : Nat := 65536

/-- Makes something under a random name that begins with `stem`, in the directory `base`; at most
`attempts` names are drawn, and names that are taken are passed over. -/
def reserveWithin (setting : Setting) (make : FileSystem → Bytes → Except Fault FileSystem)
    (base stem : Bytes) : Nat → World → World × Except Cause Bytes
  | 0, world => (world, .error (.located .namesExhausted base))
  | attempts + 1, world =>
    let path := Path.join base (stem ++ setting.names world.drawn)
    let world := { world with drawn := world.drawn + 1 }
    match make world.files path with
    | .ok files => ({ world with files }, .ok path)
    | .error .alreadyExists => reserveWithin setting make base stem attempts world
    | .error fault => (world, .error (.located fault.cause path))

/-- Makes something under a random name in a directory. A directory that is not given from the root
is joined to the current one, which has to exist. -/
def reserve (setting : Setting) (make : FileSystem → Bytes → Except Fault FileSystem)
    (dir stem : Bytes) (world : World) : World × Except Cause Bytes :=
  if Path.isAbsolute dir then reserveWithin setting make dir stem nameLimit world
  else if world.files.isDirectoryAt setting.cwd then
    reserveWithin setting make (Path.join setting.cwd.path dir) stem nameLimit world
  else (world, .error Fault.noEntry.cause)

end World

end CalcBuild

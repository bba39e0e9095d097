/-
**The name that the linker writes to.**

The executable is linked under a random name in the directory of the output, and moved to the output
path when it is complete. The name is found by making an empty file, which is removed again: the
linker makes its own.

* `Staging.directory`: the directory of an output path, as its text tells;
* `Staging.reserve`: makes the empty file, and the directories on the way to it before;
* `Staging.discard`: removes what is at the name, if that is possible.
-/

import CalcBuild.Build.World

namespace CalcBuild.Staging

open Files

/-- What the names begin with. -/
def stem : Bytes := Bytes.ofText ".calc-out-"

/-- The mode of the empty file. -/
def mode : Nat := 0o600

/-- The directory in which the last component of an output path lies; the current one if the path
has no other component. -/
def directory (output : Bytes) : Bytes :=
  match Path.parent output with
  | some dir => if dir = [] then Path.here else dir
  | none => Path.here

/-- Makes the directory of an output path and the missing ones on the way to it. -/
def prepare (setting : Setting) (output : Bytes) (world : World) :
    World × Except BuildFailure Unit :=
  let made := world.files.makeDirectories setting.cwd (directory output)
  ({ world with files := made.1 }, made.2.mapError (.output output))

/-- Makes an empty file under a random name in the directory of an output path. -/
def reserve (setting : Setting) (output : Bytes) (world : World) :
    World × Except BuildFailure Bytes :=
  let made := world.reserve setting (fun files path => files.createNew setting.cwd mode path)
    (directory output) stem
  (made.1, made.2.mapError (.output output))

/-- Removes the file at a name. -/
def vacate (setting : Setting) (output staging : Bytes) (files : FileSystem) :
    FileSystem × Except BuildFailure Unit :=
  match files.unlink setting.cwd staging with
  | .ok files => (files, .ok ())
  | .error fault => (files, .error (.output output fault.cause))

/-- Moves what is at a name to the output path. -/
def publish (setting : Setting) (output staging : Bytes) (files : FileSystem) :
    FileSystem × Except BuildFailure Unit :=
  match files.rename setting.cwd staging output with
  | .ok files => (files, .ok ())
  | .error fault => (files, .error (.output output fault.cause))

/-- Removes what is at a name, if that is possible. -/
def discard (setting : Setting) (staging : Bytes) (files : FileSystem) : FileSystem :=
  match files.unlink setting.cwd staging with
  | .ok files => files
  | .error _ => files

end CalcBuild.Staging

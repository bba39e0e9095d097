/-
**The source of the run-time support.**

Every executable is linked with a source file of run-time support. When none is named, it is the one
shipped next to the driver, or else the one of the source tree.
-/

import CalcBuild.Files.Lookup

namespace CalcBuild

/-- Where the run-time support is looked for, relative to the driver's directory, in this order. -/
def runtimeNextToDriver : List String := ["runtime/runtime.c", "../runtime/runtime.c"]

/-- Where the run-time support is in the source tree, relative to the directory of the library. -/
def runtimeInSourceTree : String := "../runtime/runtime.c"

/-- The source of the run-time support when none is named. -/
def defaultRuntimeSource (fs : Files.FileSystem) (cwd : Files.Place) (driverDir? : Option Bytes)
    (sourceTree : Bytes) : Bytes :=
  let shipped := match driverDir? with
    | none => []
    | some dir => runtimeNextToDriver.map fun path => Files.Path.join dir (Bytes.ofText path)
  match shipped.find? fun path => fs.isFile cwd path with
  | some path => path
  | none => Files.Path.join sourceTree (Bytes.ofText runtimeInSourceTree)

end CalcBuild

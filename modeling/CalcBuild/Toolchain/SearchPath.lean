/-
**Where tools are searched.**

A search path is an ordered list of directories: some given directly, then the entries of a list
separated by colons.

* `SearchPath.new`: the directories given first, verbatim, then the entries of the list that are not
  empty;
* `SearchPath.find`: the first executable file of a name, in search order.
-/

import CalcBuild.Files.Lookup

namespace CalcBuild

/-- Directories in search order. -/
structure SearchPath where
  dirs : List Bytes
  deriving DecidableEq, Repr

namespace SearchPath

/-- The byte between the entries of a list of directories. -/
def colon : UInt8 := 0x3A

/-- The entries of a list of directories that are not empty. -/
def entries (list : Bytes) : List Bytes :=
  (Text.splitAt colon list).filter (· != [])

/-- Extra directories first, then the entries of a list, if there is one. -/
def new (extra : List Bytes) (list? : Option Bytes) : SearchPath :=
  ⟨extra ++ (match list? with | some list => entries list | none => [])⟩

/-- The first path to an executable file called `name`, in search order. -/
def find (search : SearchPath) (fs : Files.FileSystem) (cwd : Files.Place) (name : Bytes) :
    Option Bytes :=
  (search.dirs.map fun dir => Files.Path.join dir name).find? fun path => fs.isExecutable cwd path

end SearchPath

/-- Directories of a vendored toolchain, relative to the directory two levels above the driver's. -/
def vendoredToolDirs : List String :=
  ["external/llvm-project/clang", "external/llvm-project/llvm"]

/-- The directories searched before the list of the environment: the vendored toolchain, then the
driver's own directory. Without a driver directory there are none. -/
def defaultToolDirs (driverDir? : Option Bytes) : List Bytes :=
  match driverDir? with
  | none => []
  | some driverDir =>
    let root := Files.Path.join (Files.Path.join driverDir Files.Path.up) Files.Path.up
    vendoredToolDirs.map (fun dir => Files.Path.join root (Bytes.ofText dir)) ++ [driverDir]

end CalcBuild

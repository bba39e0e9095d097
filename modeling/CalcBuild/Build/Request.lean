/-
**Build requests.**

A request names a source file, holds its text without the white space around it, and may name the
executable to make.
-/

import CalcBuild.Build.Failure
import CalcBuild.Files.Change

namespace CalcBuild

/-- What to build. -/
structure BuildRequest where
  sourcePath : Bytes
  /-- The contents of the source file without white space at either end. -/
  sourceText : String
  output? : Option Bytes
  deriving DecidableEq, Repr

namespace BuildRequest

/-- The name of the executable when none is given. -/
def defaultOutput : String := "a.out"

/-- The path of the executable. -/
def output (request : BuildRequest) : Bytes :=
  request.output?.getD (Bytes.ofText defaultOutput)

/-- The request for a source file with given contents, which have to be well-formed text. -/
def ofContents (sourcePath contents : Bytes) (output? : Option Bytes) :
    Except BuildFailure BuildRequest :=
  match Text.Utf8.decode? contents with
  | none => .error (.inputRead sourcePath .notText)
  | some chars =>
    .ok { sourcePath, sourceText := String.ofList (Text.trimBlank chars), output? }

/-- The request for the source file at a path. -/
def read (fs : Files.FileSystem) (cwd : Files.Place) (sourcePath : Bytes)
    (output? : Option Bytes) : Except BuildFailure BuildRequest :=
  match fs.read cwd sourcePath with
  | .error fault => .error (.inputRead sourcePath fault.cause)
  | .ok contents => ofContents sourcePath contents output?

end BuildRequest

end CalcBuild

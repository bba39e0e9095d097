/-
**Why an operation on files or processes fails.**

* `Fault`: the causes that the operations of this library find themselves;
* `Cause`: any cause that an error can carry, numbered or in words, perhaps with the path it arose
  at;
* `Cause.text`: the words of a cause.
-/

import CalcBuild.Fault.Errno
import CalcBuild.Text.Quoted

namespace CalcBuild

/-- The causes that operations on files and processes find. -/
inductive Fault where
  | noEntry
  | argumentsTooLong
  | notExecutableFormat
  | permissionDenied
  | busy
  | alreadyExists
  | notDirectory
  | isDirectory
  | invalid
  | nameTooLong
  | notEmpty
  | tooManyLinks
  | nulInPath
  deriving DecidableEq, Repr

/-- Whether a fault says that nothing is at a path, be it that a name is missing or that the way to it
leads through a file. -/
def Fault.isAbsence (fault : Fault) : Bool :=
  fault = .noEntry || fault = .notDirectory

/-- What an error carries as its cause: a system error number, a text, or either of them together
with the path at which it arose. -/
inductive Cause where
  | numbered (errno : Int)
  | told (text : String)
  | located (cause : Cause) (path : Bytes)
  deriving DecidableEq, Repr

/-- The cause that a fault is reported as. A NUL byte in a path is found before any system call, so
it has a text and no number. -/
def Fault.cause : Fault → Cause
  | .noEntry => .numbered 2
  | .argumentsTooLong => .numbered 7
  | .notExecutableFormat => .numbered 8
  | .permissionDenied => .numbered 13
  | .busy => .numbered 16
  | .alreadyExists => .numbered 17
  | .notDirectory => .numbered 20
  | .isDirectory => .numbered 21
  | .invalid => .numbered 22
  | .nameTooLong => .numbered 36
  | .notEmpty => .numbered 39
  | .tooManyLinks => .numbered 40
  | .nulInPath => .told "file name contained an unexpected NUL byte"

/-- The words of a cause. -/
def Cause.text : Cause → String
  | .numbered errno => errnoText errno ++ " (os error " ++ Number.signed errno ++ ")"
  | .told text => text
  | .located cause path => cause.text ++ " at path " ++ Text.quoted path

/-- The cause of a NUL byte in a program or an argument. -/
def Cause.nulInArgument : Cause :=
  .told "nul byte found in provided data"

/-- The cause of a source file that is not well-formed text. -/
def Cause.notText : Cause :=
  .told "stream did not contain valid UTF-8"

/-- The cause of a name generator that found every name taken. -/
def Cause.namesExhausted : Cause :=
  .told "too many temporary files exist"

/-- The cause of a path whose directories cannot be made because it has no beginning. -/
def Cause.noWholeTree : Cause :=
  .told "failed to create whole tree"

/-- The text of a fault without its number. -/
def Fault.text (fault : Fault) : String :=
  match fault.cause with
  | .numbered errno => errnoText errno
  | cause => cause.text

end CalcBuild

/-
**Starting a program.**

A program is named by a path, or by a bare name that is searched in the directories of the variable
`PATH`. What is started is an image: a program that the machine has built in. A file leads to an
image by its first bytes: it is the image itself, or its first line names an interpreter, which is
then started with the path of the file as an argument.

* `Environment.value?`: the value of a variable;
* `Launch`: a request to start a program;
* `Launch.image`: what is started, or why nothing is.
-/

import CalcBuild.Files.Lookup

namespace CalcBuild

open Files

/-- The variables that a process is given, each with its value. -/
structure Environment where
  bindings : List (Bytes × Bytes)
  deriving DecidableEq, Repr

namespace Environment

/-- The value of a variable. -/
def value? (environment : Environment) (name : Bytes) : Option Bytes :=
  environment.bindings.lookup name

/-- The environment without a variable. -/
def without (environment : Environment) (name : Bytes) : Environment :=
  ⟨environment.bindings.filter fun binding => binding.1 != name⟩

/-- The environment in which a variable has a value. -/
def set (environment : Environment) (name value : Bytes) : Environment :=
  ⟨(environment.without name).bindings ++ [(name, value)]⟩

/-- Sets a variable, or removes it if there is no value. -/
def update (environment : Environment) (name : Bytes) : Option Bytes → Environment
  | some value => environment.set name value
  | none => environment.without name

end Environment

/-- A request to start a program with arguments, in a directory and with an environment; `input` is
what the process finds on its standard input. -/
structure Launch where
  program : Bytes
  arguments : List Bytes
  cwd : Place
  environment : Environment
  input : Bytes
  deriving DecidableEq, Repr

/-- A program that the machine has built in, the name it is called by, and its arguments. -/
structure Image where
  program : Bytes
  calledAs : Bytes
  arguments : List Bytes
  deriving DecidableEq, Repr

namespace Image

/-- The bytes with which the file of a built-in program begins; its name follows. -/
def mark : Bytes := [0x7F, 0x45, 0x4C, 0x46]

/-- The number of bytes of a file in which its interpreter is looked for. -/
def headLength : Nat := 256

/-- The number of interpreters that may be started for one program. -/
def interpreterLimit : Nat := 5

/-- Whether a byte separates words on the first line of a script. -/
def isGap (byte : UInt8) : Bool :=
  byte == 0x20 || byte == 0x09

/-- The bytes from the first to the last one that is no gap. -/
def trimGaps (bytes : Bytes) : Bytes :=
  ((bytes.dropWhile isGap).reverse.dropWhile isGap).reverse

/-- What the first bytes of a file say about starting it. -/
inductive Header where
  | builtIn (name : Bytes)
  | interpreted (interpreter : Bytes) (argument? : Option Bytes)
  | unknown
  deriving DecidableEq, Repr

/-- The interpreter on a first line, and the one argument that may follow it. -/
def interpreterOf (line : Bytes) : Header :=
  let words := trimGaps line
  let interpreter := words.takeWhile (!isGap ·)
  let argument := (words.dropWhile (!isGap ·)).dropWhile isGap
  if interpreter = [] then .unknown
  else .interpreted interpreter (if argument = [] then none else some argument)

/-- What the first bytes of a file say about starting it. A first line that does not end within the
bytes looked at counts only if the interpreter's name does. -/
def header (contents : Bytes) : Header :=
  let head := contents.take headLength
  if mark.isPrefixOf contents then .builtIn (contents.drop mark.length)
  else if [0x23, 0x21].isPrefixOf head then
    let rest := head.drop 2
    let line := rest.takeWhile (· != 0x0A)
    let isCut := line.length = rest.length && headLength ≤ contents.length
    if isCut && !((line.dropWhile isGap).any isGap) then .unknown else interpreterOf line
  else .unknown

end Image

namespace Launch

/-- The length from which on one argument is too long. -/
def argumentLimit : Nat := 131072

/-- The length that all arguments and variables may have together. -/
def totalLimit : Nat := 2097152

/-- The directories searched for a bare name when the environment names none. -/
def defaultDirectories : Bytes := Bytes.ofText "/bin:/usr/bin"

/-- The room that a byte string takes on the stack of a new process. -/
def room (bytes : Bytes) : Nat := bytes.length + 9

/-- Whether the arguments and variables are too long to be handed over. -/
def isTooLong (launch : Launch) : Bool :=
  let arguments := launch.program :: launch.arguments
  let bindings := launch.environment.bindings
  arguments.any (fun argument => argumentLimit ≤ argument.length) ||
    bindings.any (fun binding => argumentLimit ≤ binding.1.length + binding.2.length + 1) ||
    totalLimit ≤ (arguments.map room).foldl (· + ·) 0 +
      (bindings.map fun binding => room binding.1 + binding.2.length + 1).foldl (· + ·) 0

/-- The image that the file at a path leads to, through at most `steps` interpreters. -/
def imageAt (fs : FileSystem) (launch : Launch) (steps : Nat) (path calledAs : Bytes)
    (arguments : List Bytes) : Except Fault Image :=
  match fs.find launch.cwd true path with
  | .error fault => .error fault
  | .ok (_, .file mode contents) =>
    if !mode.mayEnter then .error .permissionDenied
    else if launch.isTooLong then .error .argumentsTooLong
    else
      match Image.header contents with
      | .builtIn program => .ok { program, calledAs, arguments }
      | .unknown => .error .notExecutableFormat
      | .interpreted interpreter argument? =>
        match steps with
        | 0 => .error .tooManyLinks
        | left + 1 =>
          imageAt fs launch left interpreter interpreter (argument?.toList ++ path :: arguments)
  | .ok _ => .error .permissionDenied

/-- The paths that a bare name is looked for at. -/
def candidates (launch : Launch) : List Bytes :=
  let list := (launch.environment.value? (Bytes.ofText "PATH")).getD defaultDirectories
  (Text.splitAt 0x3A list).map fun dir =>
    if dir = [] then launch.program else dir ++ Path.slash :: launch.program

/-- The first of several paths that leads to an image. Paths that lead nowhere are passed over; that
one was not permitted is reported if no later one leads to an image. -/
def firstImage (fs : FileSystem) (launch : Launch) (refused : Bool) (last : Fault) :
    List Bytes → Except Fault Image
  | [] => .error (if refused then .permissionDenied else last)
  | path :: rest =>
    match imageAt fs launch Image.interpreterLimit path launch.program launch.arguments with
    | .ok image => .ok image
    | .error .permissionDenied => firstImage fs launch true .permissionDenied rest
    | .error .noEntry => firstImage fs launch refused .noEntry rest
    | .error .notDirectory => firstImage fs launch refused .notDirectory rest
    | .error fault => .error fault

/-- What a launch starts. A name without a slash is searched. -/
def image (fs : FileSystem) (launch : Launch) : Except Cause Image :=
  if (launch.program :: launch.arguments).any (·.contains 0) then .error .nulInArgument
  else
    let found :=
      if launch.program = [] then .error .noEntry
      else if launch.program.contains Path.slash then
        imageAt fs launch Image.interpreterLimit launch.program launch.program launch.arguments
      else firstImage fs launch false .noEntry launch.candidates
    found.mapError Fault.cause

end Launch

end CalcBuild

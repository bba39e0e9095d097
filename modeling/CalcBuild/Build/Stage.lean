/-
**The four stages and their commands.**

A build runs four commands in a fixed order and hands files from one to the next through a
workspace. A command is a value: what to run, with which arguments, which files it needs and which
file it makes.

* `Stage.order`: the order;
* `plan`: the four commands of a build;
* `Command.redirect`: the same command with another file to make;
* `Command.line`: a command as messages show it.
-/

import CalcBuild.Files.Path
import CalcBuild.Text.Blank
import CalcBuild.Toolchain.Tool

namespace CalcBuild

open Files (Path.join)

/-- The stages of a build. -/
inductive Stage where
  | runtimeCompile
  | frontendCompile
  | lower
  | link
  deriving DecidableEq, Repr

namespace Stage

/-- The stages in the order in which they run. -/
def order : List Stage := [.runtimeCompile, .frontendCompile, .lower, .link]

/-- The name of a stage. -/
def name : Stage → String
  | .runtimeCompile => "runtime-compile"
  | .frontendCompile => "frontend-compile"
  | .lower => "lower"
  | .link => "link"

/-- The tool that a stage runs. -/
def tool : Stage → Tool
  | .runtimeCompile => .cCompiler
  | .frontendCompile => .frontend
  | .lower => .backend
  | .link => .cCompiler

end Stage

/-- What one stage runs: a program with arguments, the files that must exist before, and the file
that must exist afterwards. -/
structure Command where
  stage : Stage
  program : Bytes
  arguments : List Bytes
  inputs : List Bytes
  output : Bytes
  deriving DecidableEq, Repr

/-- The directory that holds the intermediate files of one build. -/
structure Workspace where
  path : Bytes
  deriving DecidableEq, Repr

namespace Workspace

/-- The object compiled from the run-time support. -/
def runtimeObject (workspace : Workspace) : Bytes :=
  Path.join workspace.path (Bytes.ofText "runtime.o")

/-- The object compiled from the source. -/
def exprObject (workspace : Workspace) : Bytes :=
  Path.join workspace.path (Bytes.ofText "expr.o")

/-- The intermediate representation of the source. -/
def exprIr (workspace : Workspace) : Bytes :=
  Path.join workspace.path (Bytes.ofText "expr.ll")

end Workspace

/-- The flag before the file to make. -/
def outputFlag : Bytes := Bytes.ofText "-o"

namespace Command

/-- A command whose arguments end in the flag and the file to make. -/
def making (toolchain : Toolchain) (stage : Stage) (arguments inputs : List Bytes)
    (output : Bytes) : Command where
  stage := stage
  program := toolchain.path stage.tool
  arguments := arguments ++ [outputFlag, output]
  inputs := inputs
  output := output

/-- The command with another file to make: the last argument becomes that file. -/
def redirect (command : Command) (output : Bytes) : Command :=
  { command with
    arguments :=
      if command.arguments = [] then [] else command.arguments.dropLast ++ [output]
    output := output }

/-- A single quote inside single quotes. -/
def quoteInside (c : Char) : List Char :=
  if c = Char.ofNat 39 then [c, '\\', c, c] else [c]

/-- An argument as it is shown: between single quotes if it is empty or holds white space. -/
def shownArgument (argument : Bytes) : List Char :=
  let chars := Text.Utf8.lossyChars argument
  if chars = [] || chars.any Text.isBlank then
    let quote := Char.ofNat 39
    quote :: chars.flatMap quoteInside ++ [quote]
  else chars

/-- The command as messages show it: the program, then each argument after a space. -/
def line (command : Command) : String :=
  String.ofList <|
    Text.Utf8.lossyChars command.program ++
      command.arguments.flatMap fun argument => ' ' :: shownArgument argument

end Command

/-- The commands of a build in the order in which they run. The source text is one argument of the
front end, as it is. -/
def plan (toolchain : Toolchain) (workspace : Workspace) (runtimeSource sourceText output : Bytes) :
    List Command :=
  let text := Bytes.ofText
  [ .making toolchain .runtimeCompile [text "-w", text "-c", runtimeSource] [runtimeSource]
      workspace.runtimeObject,
    .making toolchain .frontendCompile [sourceText] [] workspace.exprIr,
    .making toolchain .lower [text "--filetype=obj", workspace.exprIr] [workspace.exprIr]
      workspace.exprObject,
    .making toolchain .link
      [workspace.exprObject, workspace.runtimeObject, text "-lc", text "-lm"]
      [workspace.exprObject, workspace.runtimeObject] output ]

end CalcBuild

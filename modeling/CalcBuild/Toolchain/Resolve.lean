/-
**Resolving the toolchain.**

Each tool is searched on its own, in a fixed order, and its path is made absolute.
-/

import CalcBuild.Build.Failure
import CalcBuild.Log.Record
import CalcBuild.Toolchain.SearchPath

namespace CalcBuild.Toolchain

/-- The absolute form of a path from a directory; without that directory the path stays as it is. -/
def located (cwdPath? : Option Bytes) (path : Bytes) : Bytes :=
  (Files.Path.absolute cwdPath? path).getD path

/-- The record that a tool was found. -/
def foundRecord (tool : Tool) (path : Bytes) : Log.Record where
  level := .debug
  target := .toolchain
  stage := none
  message := "resolved tool"
  fields := [("tool", "\"" ++ tool.program ++ "\""), ("path", Text.Utf8.lossy path)]

/-- The path of the current directory, if it still is one. -/
def currentPath? (fs : Files.FileSystem) (cwd : Files.Place) : Option Bytes :=
  if fs.isDirectoryAt cwd then some cwd.path else none

/-- The path of one tool. -/
def resolveTool (search : SearchPath) (fs : Files.FileSystem) (cwd : Files.Place) (tool : Tool) :
    Except BuildFailure Bytes :=
  match search.find fs cwd (Bytes.ofText tool.program) with
  | none => .error (.toolNotFound tool)
  | some path => .ok (located (currentPath? fs cwd) path)

/-- The toolchain on a search path: each tool is searched on its own, in the order of `Tool.all`. -/
def resolve (search : SearchPath) (fs : Files.FileSystem) (cwd : Files.Place) :
    Except BuildFailure Toolchain := do
  let frontend ← resolveTool search fs cwd .frontend
  let cCompiler ← resolveTool search fs cwd .cCompiler
  let backend ← resolveTool search fs cwd .backend
  return { frontend, cCompiler, backend }

/-- The records of the tools found before the first one that is not. -/
def foundRecords (search : SearchPath) (fs : Files.FileSystem) (cwd : Files.Place) :
    List Tool → List Log.Record
  | [] => []
  | tool :: rest =>
    match resolveTool search fs cwd tool with
    | .error _ => []
    | .ok path => foundRecord tool path :: foundRecords search fs cwd rest

end CalcBuild.Toolchain

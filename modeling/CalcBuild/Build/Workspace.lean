/-
**Workspaces.**

A workspace is a directory of its own for the intermediate files of one build. It is made under a
random name and removed with everything in it.

* `Workspace.create`: makes one, empty;
* `Workspace.remove`: removes it and tells why it could not be removed;
* `Workspace.discard`: removes it if possible.
-/

import CalcBuild.Build.World

namespace CalcBuild

open Files

namespace Workspace

/-- What the names of workspaces begin with. -/
def stem : Bytes := Bytes.ofText "calcc"

/-- The record that a workspace was made. -/
def createdRecord (workspace : Workspace) : Log.Record where
  level := .debug
  target := .workspace
  stage := none
  message := "created workspace"
  fields := [("path", Text.Utf8.lossy workspace.path)]

/-- Makes a workspace in a directory that has to exist, or in the one for temporary files. -/
def create (setting : Setting) (root? : Option Bytes) (world : World) :
    World × Except BuildFailure Workspace :=
  let root := root?.getD setting.temporaryRoot
  let made := world.reserve setting (fun files path => files.makeDirectory setting.cwd path) root stem
  (made.1,
    match made.2 with
    | .ok path => .ok ⟨path⟩
    | .error cause => .error (.workspaceCreate cause))

/-- Removes a workspace with everything in it. -/
def remove (setting : Setting) (workspace : Workspace) (files : FileSystem) :
    FileSystem × Except Cause Unit :=
  let removed := files.removeAll setting.cwd workspace.path
  (removed.1, removed.2.mapError fun fault => .located fault.cause workspace.path)

/-- Removes a workspace with everything in it, if that is possible. -/
def discard (setting : Setting) (workspace : Workspace) (files : FileSystem) : FileSystem :=
  (workspace.remove setting files).1

end Workspace

end CalcBuild

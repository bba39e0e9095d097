/-
**Utilities for files.**

They make and remove files and directories, and list them.
-/

import CalcBuild.Script.Condition
import CalcBuild.Script.Utility.Basic

namespace CalcBuild.Script

open Files

namespace Utility

/-- Removes what is below a place, as far as possible, and then with `drop` what is at it;
directories are entered down to a depth. The paths of what stays are told, each with the reason; a
directory that stays because of what is in it is not told. -/
def cleared (depth : Nat) (path : Bytes) (place : Place)
    (drop : FileSystem → Except Fault FileSystem) (fs : FileSystem) :
    FileSystem × List (Bytes × Fault) :=
  let dropped (fs : FileSystem) : FileSystem × List (Bytes × Fault) :=
    match drop fs with
    | .ok removed => (removed, [])
    | .error fault => (fs, [(path, fault)])
  match depth, fs.get? place with
  | more + 1, some (.directory mode) =>
    if fs.isEmptyAt place then dropped fs
    else if !mode.mayRead then (fs, [(path, .permissionDenied)])
    else
      let emptied := (fs.namesIn place).reverse.foldl (fun (fs, told) name =>
        let inner := Path.join path name
        if mode.mayEnter then
          let (fs, more) :=
            cleared more inner (name :: place) (fun fs => fs.removeAt (name :: place)) fs
          (fs, told ++ more)
        else (fs, told ++ [(inner, .permissionDenied)])) (fs, [])
      if emptied.2 = [] then dropped emptied.1 else emptied
  | _, _ => dropped fs

/-- Removes files, and directories if asked to. -/
def rm : Utility := fun shell name arguments next =>
  let (letters, operands) := options arguments
  let recursive := letters.contains 0x72 || letters.contains 0x52
  let isForced := letters.contains 0x66
  let isDots (path : Bytes) : Bool :=
    let last := (Path.names path).getLast?
    last == some Path.here || last == some Path.up
  let remove (path : Bytes) (fs : FileSystem) : FileSystem × List (Bytes × Fault) :=
    match fs.find shell.cwd false path with
    | .ok (place, .directory _) =>
      if recursive then
        cleared (fs.table.length + 1) path place (fun fs => fs.removeDirectory shell.cwd path) fs
      else (fs, [(path, .isDirectory)])
    | _ =>
      match fs.unlink shell.cwd path with
      | .ok removed => (removed, [])
      | .error fault => (fs, [(path, fault)])
  forAll (fun shell path next =>
    .look (fun fs => (fs.find shell.cwd false path).toOption.isSome) fun found =>
      if recursive && found && isDots path then
        complain shell name
          (text "refusing to remove '.' or '..' directory: skipping " ++ quoted path) (next 1)
      else
        .perform (remove path) fun told =>
          let told := told.filter fun row => !(isForced && row.2.isAbsence)
          forAll (fun shell row next =>
            complain shell name row (next 1))
            (told.map fun row => failure (text "cannot remove " ++ quoted row.1) row.2) 0 shell next)
    operands 0 shell next

/-- Removes empty directories. -/
def rmdir : Utility := fun shell name arguments next =>
  onEach (fun path => text "failed to remove " ++ quoted path)
    (fun cwd path fs => fs.removeDirectory cwd path) shell name (options arguments).2 next

/-- Makes the directories on the way to a path that are missing; or tells the path at which that is
not possible, and why. -/
def madeAbove (cwd : Place) (above : Bytes) : List Bytes → FileSystem →
    FileSystem × Option (Bytes × Fault)
  | [], fs => (fs, none)
  | name :: rest, fs =>
    let path := Path.join above name
    match fs.makeDirectory cwd path with
    | .ok made => madeAbove cwd path rest made
    | .error fault =>
      match fs.find cwd true path with
      | .ok (_, .directory mode) =>
        if mode.mayEnter then madeAbove cwd path rest fs else (fs, some (path, .permissionDenied))
      | .ok _ => (fs, some (path, .notDirectory))
      | .error .noEntry => (fs, some (path, fault))
      | .error other => (fs, some (path, other))

/-- Makes directories, and with an option those on the way to them too; then one that exists is as
good as a new one. -/
def mkdir : Utility := fun shell name arguments next =>
  let (letters, operands) := options arguments
  let make (cwd : Place) (path : Bytes) (fs : FileSystem) : FileSystem × Option Bytes :=
    let refusal (path : Bytes) (fault : Fault) : Option Bytes :=
      some (failure (text "cannot create directory " ++ quoted path) fault)
    if letters.contains 0x70 then
      let above := if Path.isAbsolute path then [Path.slash] else []
      match madeAbove cwd above (Path.names path).dropLast fs with
      | (fs, some (path, fault)) => (fs, refusal path fault)
      | (fs, none) =>
        match fs.makeDirectory cwd path with
        | .ok fs => (fs, none)
        | .error fault =>
          match fs.find cwd true path with
          | .ok (_, .directory _) => (fs, none)
          | .error .tooManyLinks =>
            (fs, some (failure (text "cannot stat " ++ quoted path) .tooManyLinks))
          | _ => (fs, refusal path fault)
    else
      match fs.makeDirectory cwd path with
      | .ok fs => (fs, none)
      | .error fault => (fs, refusal path fault)
  forAll (fun shell path next =>
    .perform (make shell.cwd path) fun message? =>
      match message? with
      | none => next 0 shell
      | some message => complain shell name message (next 1))
    operands 0 shell next

/-- Makes files that do not exist, unless asked not to. -/
def touch : Utility := fun shell name arguments next =>
  let (letters, operands) := options arguments
  let make (cwd : Place) (path : Bytes) (fs : FileSystem) : Except Fault FileSystem :=
    if letters.contains 0x63 || fs.pathExists cwd path then .ok fs
    else (fs.openForWriting cwd true path).map (·.2)
  onEach (fun path => text "cannot touch " ++ quoted path) make shell name operands next

/-- The names in the directory that a path leads to, in order, or the path itself; or why there are
none. -/
def listed (cwd : Place) (letters path : Bytes) (fs : FileSystem) : Except Bytes (List Bytes) :=
  match fs.find cwd true path, fs.find cwd false path with
  | .ok (place, .directory mode), _ =>
    if letters.contains 0x64 then .ok [path]
    else if !mode.mayRead then
      .error (failure (text "cannot open directory " ++ quoted path) .permissionDenied)
    else
      let isShown (name : Bytes) : Bool :=
        letters.contains 0x41 || letters.contains 0x61 || name.head? != some 0x2E
      let dots := if letters.contains 0x61 then [Path.here, Path.up] else []
      .ok (dots ++ ((fs.namesIn place).filter isShown).mergeSort precedes)
  | .ok _, _ => .ok [path]
  | .error _, .ok _ => .ok [path]
  | .error fault, .error _ => .error (failure (text "cannot access " ++ quoted path) fault)

/-- Lists directories. Of several arguments, those that are no directories come first, and each
directory is headed by its path. -/
def ls : Utility := fun shell name arguments next =>
  let (letters, operands) := options arguments
  let paths := (if operands = [] then [Path.here] else operands).mergeSort precedes
  let isHeaded := 1 < paths.length
  let isDirectory (fs : FileSystem) (path : Bytes) : Bool :=
    fs.isDirectory shell.cwd path && !letters.contains 0x64
  let refuse (path : Bytes) (shell : Shell) (next : Nat → Shell → Behaviour) : Behaviour :=
    .look (listed shell.cwd letters path) fun found =>
      match found with
      | .error message => complain shell name message (next 2)
      | .ok _ => next 0 shell
  forAll (fun shell path next => refuse path shell next) paths 0 shell fun status shell =>
    .look (fun fs =>
      let rows (path : Bytes) : Bytes :=
        match listed shell.cwd letters path fs with
        | .ok names => names.flatMap fun name => name ++ [0x0A]
        | .error _ => []
      let known := paths.filter fun path => (listed shell.cwd letters path fs).toOption.isSome
      let directories := known.filter (isDirectory fs)
      let others := (known.filter fun path => !isDirectory fs path).flatMap rows
      let block (path : Bytes) : Bytes :=
        (if isHeaded then path ++ [0x3A, 0x0A] else []) ++ rows path
      (if others = [] then [] else [others]) ++ directories.map block) fun blocks =>
      shell.say 1 (joined [0x0A] blocks) fun shell _ => next status shell

/-- Writes the target of a link. -/
def readlink : Utility := fun shell _ arguments next =>
  match (options arguments).2 with
  | [path] =>
    .look (fun fs => fs.find shell.cwd false path) fun found =>
      match found with
      | .ok (_, .link target) => shell.say 1 (target ++ [0x0A]) fun shell _ => next 0 shell
      | _ => next 1 shell
  | _ => next 1 shell

/-- Copies the standard input to files and to the standard output. -/
def tee : Utility := fun shell name arguments next =>
  let (letters, files) := options arguments
  let (bytes, shell) := shell.take 0
  let write (cwd : Place) (path : Bytes) (fs : FileSystem) : Except Fault FileSystem :=
    (fs.openForWriting cwd (letters.contains 0x61) path).map fun (place, opened) =>
      opened.appendAt place bytes
  onEach (fun path => path) write shell name files fun status shell =>
    shell.say 1 bytes fun shell _ => next status shell

end Utility

end CalcBuild.Script

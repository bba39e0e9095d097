/-
**Links, copies and moves.**

These utilities put something that is at one path at another one, or into the directory there.

* `copied`, `moved`, `linked`: what each of them does to the files, or why it does nothing;
* `toward`: a utility with several sources and a target;
* `cp`, `mv`, `ln`: the utilities.
-/

import CalcBuild.Script.Condition
import CalcBuild.Script.Utility.Basic

namespace CalcBuild.Script

open Files

namespace Utility

/-- The words for two paths that lead to one entry. -/
def sameFile (source path : Bytes) : Bytes :=
  quoted source ++ text " and " ++ quoted path ++ text " are the same file"

/-- The words for a directory that would have to take the place of something else. -/
def notOver (source path : Bytes) : Bytes :=
  text "cannot overwrite non-directory " ++ quoted path ++ text " with directory " ++ quoted source

/-- Copies a directory that is at a place, and what is below it; or tells why not. -/
def copiedDirectory (cwd : Place) (source path : Bytes) (place : Place) (mode : Mode)
    (fs : FileSystem) : Except Bytes FileSystem :=
  if !(mode.mayRead && mode.mayEnter) then
    .error (failure (text "cannot access " ++ quoted source) .permissionDenied)
  else
    match fs.find cwd false path with
    | .ok (_, .file ..) => .error (notOver source path)
    | .ok (_, .link _) => .error (notOver source path)
    | _ =>
      match fs.makeDirectory cwd path with
      | .error fault => .error (failure (text "cannot create directory " ++ quoted path) fault)
      | .ok made =>
        match made.find cwd true path with
        | .error fault => .error (failure (text "cannot access " ++ quoted path) fault)
        | .ok (dir, _) =>
          if FileSystem.isWithin place dir then
            .error (text "cannot copy a directory, " ++ quoted source ++ text ", into itself, " ++
              quoted path)
          else .ok ((fs.below place).foldl (fun fs row => fs.put (row.1.reverse ++ dir) row.2) made)

/-- Copies a file with a mode and contents to a path; or tells why not. -/
def copiedFile (cwd : Place) (source path : Bytes) (place : Place) (mode : Mode) (contents : Bytes)
    (fs : FileSystem) : Except Bytes FileSystem :=
  let filled (isNew : Bool) : Except Bytes FileSystem :=
    match fs.write cwd path contents with
    | .error fault =>
      let fault := if isNew && fault = .isDirectory then .notDirectory else fault
      .error (failure (text "cannot create regular file " ++ quoted path) fault)
    | .ok written =>
      .ok (if isNew then (written.setMode cwd mode path).toOption.getD written else written)
  let unreadable : Bytes :=
    failure (text "cannot open " ++ quoted source ++ text " for reading") .permissionDenied
  match fs.find cwd true path with
  | .ok (other, _) =>
    if other = place then .error (sameFile source path)
    else if mode.mayRead then filled false else .error unreadable
  | .error .noEntry =>
    if !mode.mayRead then .error unreadable
    else if (fs.find cwd false path).toOption.isSome then
      .error (text "not writing through dangling symlink " ++ quoted path)
    else filled true
  | .error fault => .error (failure (text "cannot stat " ++ quoted path) fault)

/-- Copies an entry, and with `recursive` what is below it; or tells why not. -/
def copied (cwd : Place) (recursive : Bool) (source target : Bytes) (fs : FileSystem) :
    Except Bytes FileSystem :=
  let path := inside fs cwd source target
  match fs.find cwd true source with
  | .error fault => .error (failure (text "cannot stat " ++ quoted source) fault)
  | .ok (place, .directory mode) =>
    if recursive then copiedDirectory cwd source path place mode fs
    else .error (text "-r not specified; omitting directory " ++ quoted source)
  | .ok (place, .file mode contents) => copiedFile cwd source path place mode contents fs
  | .ok (place, _) => copiedFile cwd source path place Mode.ofFile [] fs

/-- Moves an entry, or tells why not. What is moved must not be what it would take the place of,
neither itself nor, for a link, through it. -/
def moved (cwd : Place) (source target : Bytes) (fs : FileSystem) : Except Bytes FileSystem :=
  let path := inside fs cwd source target
  let words := text "cannot move " ++ quoted source ++ text " to " ++ quoted path
  let renamed : Except Bytes FileSystem :=
    match fs.rename cwd source path with
    | .ok renamed => .ok renamed
    | .error .invalid =>
      .error (text "cannot move " ++ quoted source ++ text " to a subdirectory of itself, " ++
        quoted path)
    | .error fault => .error (failure words fault)
  match fs.find cwd false source with
  | .error fault => .error (failure (text "cannot stat " ++ quoted source) fault)
  | .ok (place, entry) =>
    match fs.find cwd false path with
    | .error .noEntry => renamed
    | .error fault => .error (failure (text "cannot stat " ++ quoted path) fault)
    | .ok (other, replaced) =>
      let through := match fs.find cwd true source with
        | .ok (place, _) => place
        | .error _ => place
      if other = place || other = through then .error (sameFile source path)
      else if entry.isDirectory && !replaced.isDirectory then .error (notOver source path)
      else if replaced.isDirectory && !entry.isDirectory then
        .error (text "cannot overwrite directory " ++ quoted path ++ text " with non-directory")
      else renamed

/-- An operation with several sources and a target, which comes last; it is a directory if there is
more than one source. -/
def toward (operation : Place → Bytes → Bytes → FileSystem → Except Bytes FileSystem) : Utility :=
  fun shell name operands next =>
    match operands.getLast? with
    | none => misuse shell name (text "missing file operand") (next 1)
    | some target =>
      if operands.length < 2 then
        misuse shell name
          (text "missing destination file operand after " ++ quoted target) (next 1)
      else
        .look (fun fs => fs.find shell.cwd true target) fun found =>
          let fault? : Option Fault :=
            match found with
            | .ok (_, .directory _) => none
            | .ok _ => some .notDirectory
            | .error fault => some fault
          match (if operands.length = 2 then none else fault?) with
          | some fault =>
            complain shell name (failure (text "target " ++ quoted target) fault) (next 1)
          | none =>
            forAll (fun shell source next =>
              .perform (fun fs =>
                match operation shell.cwd source target fs with
                | .ok changed => (changed, none)
                | .error message => (fs, some message)) fun message? =>
                match message? with
                | none => next 0 shell
                | some message => complain shell name message (next 1)) operands.dropLast 0 shell
              next

/-- Makes a link at a path; or tells why not. -/
def linked (cwd : Place) (isSymbolic isForced : Bool) (source path : Bytes) (fs : FileSystem) :
    Except Bytes FileSystem :=
  let fs := if isForced then (fs.unlink cwd path).toOption.getD fs else fs
  let kind := if isSymbolic then "symbolic link " else "hard link "
  let refuse (fault : Fault) : Except Bytes FileSystem :=
    .error (failure (text "failed to create " ++ text kind ++ quoted path) fault)
  if isSymbolic then
    match fs.symlink cwd source path with
    | .ok made => .ok made
    | .error fault => refuse fault
  else
    match fs.find cwd false source with
    | .error fault => .error (failure (text "failed to access " ++ quoted source) fault)
    | .ok (_, .directory _) =>
      .error (quotedIfNeeded source ++ text ": hard link not allowed for directory")
    | .ok (_, entry) =>
      match fs.createNew cwd Mode.ofFile path with
      | .error fault => refuse fault
      | .ok made =>
        match made.find cwd false path with
        | .error fault => refuse fault
        | .ok (place, _) => .ok (made.put place entry)

/-- Makes links. One operand asks for a link in the current directory; whether a target that is a
link to a directory stands for that directory, an option decides. -/
def ln : Utility := fun shell name arguments next =>
  let (letters, operands) := options arguments
  let operands := match operands with
    | [source] => [source, Path.here]
    | operands => operands
  let path (cwd : Place) (source target : Bytes) (fs : FileSystem) : Bytes :=
    let isLink := match fs.find cwd false target with
      | .ok (_, .link _) => true
      | _ => false
    if letters.contains 0x54 || (letters.contains 0x6E && isLink) then target
    else inside fs cwd source target
  toward (fun cwd source target fs =>
    linked cwd (letters.contains 0x73) (letters.contains 0x66) source (path cwd source target fs)
      fs) shell name operands next

/-- Copies files. -/
def cp : Utility := fun shell name arguments next =>
  let (letters, operands) := options arguments
  let recursive := ["r", "R", "a"].any fun letter => letters.any fun own => text letter = [own]
  toward (fun cwd source target fs => copied cwd recursive source target fs) shell name operands
    next

/-- Moves files. -/
def mv : Utility := fun shell name arguments next =>
  toward moved shell name (options arguments).2 next

end Utility

end CalcBuild.Script

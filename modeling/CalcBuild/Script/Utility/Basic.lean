/-
**What utilities share.**

A utility gets its arguments, acts, and goes on with a status: zero if all went well.

* `Utility`: a program as a part of a behaviour;
* `options`, `knowing`: the letters of its options, and the refusal of others;
* `forAll`, `onEach`, `filter`: utilities that treat their operands one after the other.
-/

import CalcBuild.Script.Behaviour

namespace CalcBuild.Script

open Files

/-- A program as a part of a behaviour: it is given the shell that runs it, its name, its arguments,
and what follows. -/
abbrev Utility := Shell → Bytes → List Bytes → (Nat → Shell → Behaviour) → Behaviour

namespace Utility

/-- Text as bytes. -/
def text (words : String) : Bytes := Bytes.ofText words

/-- Writes a message of a program. -/
def complain (shell : Shell) (name : Bytes) (message : Bytes) (next : Shell → Behaviour) :
    Behaviour :=
  shell.say 2 (name ++ text ": " ++ message ++ [0x0A]) fun shell _ => next shell

/-- Writes a message of a program that was called in a wrong way. -/
def misuse (shell : Shell) (name : Bytes) (message : Bytes) (next : Shell → Behaviour) :
    Behaviour :=
  complain shell name
    (message ++ text "\nTry '" ++ name ++ text " --help' for more information.") next

/-- A path between single quotes; one that contains a single quote itself stands between double
ones. -/
def quoted (path : Bytes) : Bytes :=
  if path.contains 0x27 then [0x22] ++ path ++ [0x22] else [0x27] ++ path ++ [0x27]

/-- A path as it is, or between quotes if a shell would not take it as it is. -/
def quotedIfNeeded (path : Bytes) : Bytes :=
  let isAlone := path.head?.any (text "#~").contains || path = text "\x7b" || path = text "\x7d"
  let isSpecial (byte : UInt8) : Bool :=
    byte ≤ 0x20 || (text "!\"$&'()*:;<=>?[\\^\x60|").contains byte
  if path = [] || isAlone || path.any isSpecial then quoted path else path

/-- The words of a fault. -/
def faultText (fault : Fault) : Bytes := text fault.text

/-- Goes through arguments one after the other; the status is the largest of theirs. -/
def forAll (action : Shell → Bytes → (Nat → Shell → Behaviour) → Behaviour) :
    List Bytes → Nat → Shell → (Nat → Shell → Behaviour) → Behaviour
  | [], status, shell, next => next status shell
  | argument :: rest, status, shell, next =>
    action shell argument fun found shell => forAll action rest (max status found) shell next

/-- The letters of the options among arguments, and the other arguments. Two hyphens end the
options. -/
def options : List Bytes → Bytes × List Bytes
  | [] => ([], [])
  | argument :: rest =>
    match argument with
    | [0x2D, 0x2D] => ([], rest)
    | 0x2D :: first :: letters =>
      let (more, operands) := options rest
      (first :: letters ++ more, operands)
    | _ =>
      let (more, operands) := options rest
      (more, argument :: operands)

/-- A utility that refuses options other than the given letters. -/
def knowing (allowed : String) (status : Nat) (utility : Utility) : Utility :=
  fun shell name arguments next =>
    match (options arguments).1.find? fun letter => !(text allowed).contains letter with
    | none => utility shell name arguments next
    | some letter =>
      misuse shell name (text "invalid option -- " ++ quoted [letter]) (next status)

/-- A utility that needs operands, unless one of the given letters is among its options. -/
def needing (excuses words : String) (utility : Utility) : Utility :=
  fun shell name arguments next =>
    let (letters, operands) := options arguments
    if operands = [] && !(letters.any fun letter => (text excuses).contains letter) then
      misuse shell name (text words) (next 1)
    else utility shell name arguments next

/-- The last component of a path. -/
def baseName (path : Bytes) : Bytes :=
  match (Path.names path).getLast? with
  | some name => name
  | none => if path = [] then [] else [Path.slash]

/-- The path under which an entry called like `source` is put at `target`: inside it if it is a
directory. -/
def inside (fs : FileSystem) (cwd : Place) (source target : Bytes) : Bytes :=
  if fs.isDirectory cwd target then Path.join target (baseName source) else target

/-- An operation on each argument; a fault is reported after the words that tell what failed. -/
def onEach (words : Bytes → Bytes)
    (operation : Place → Bytes → FileSystem → Except Fault FileSystem) :
    Utility :=
  fun shell name arguments next =>
    forAll (fun shell argument next =>
      .attempt (operation shell.cwd argument) fun fault? =>
        match fault? with
        | none => next 0 shell
        | some fault =>
          complain shell name (words argument ++ text ": " ++ faultText fault) (next 1)) arguments 0
      shell next

/-- A message that an operation failed: what could not be done, and why. -/
def failure (words : Bytes) (fault : Fault) : Bytes :=
  words ++ text ": " ++ faultText fault

/-- A message that tells the path first, and then why an operation on it failed. -/
def failureAt (path : Bytes) (fault : Fault) : Bytes :=
  failure (quotedIfNeeded path) fault

/-- The contents of a file, or of the standard input for a hyphen; a fault is told in the words
given for the path. -/
def contentsOf (words : Bytes → Fault → Bytes) (shell : Shell) (name path : Bytes)
    (next : Option Bytes → Shell → Behaviour) : Behaviour :=
  let refuse (fault : Fault) : Behaviour := complain shell name (words path fault) (next none)
  if path = [0x2D] then
    if shell.target? 0 = some .directory then refuse .isDirectory
    else
      let (bytes, shell) := shell.take 0
      next (some bytes) shell
  else
    .look (fun fs => fs.read shell.cwd path) fun read =>
      match read with
      | .ok bytes => next (some bytes) shell
      | .error fault => refuse fault

/-- The words of a utility that tells files it cannot open from those it cannot read. -/
def unread (path : Bytes) (fault : Fault) : Bytes :=
  let shown := if path = [0x2D] then text "standard input" else path
  if fault = .isDirectory then failure (text "error reading " ++ quoted shown) fault
  else failure (text "cannot open " ++ quoted shown ++ text " for reading") fault

/-- The files to read: the standard input if there is no argument. -/
def sources (arguments : List Bytes) : List Bytes :=
  if arguments = [] then [[0x2D]] else arguments

/-- Writes a text for the contents of each file. -/
def filter (words : Bytes → Fault → Bytes) (shown : Bytes → Bytes → Bytes) : Utility :=
  fun shell name arguments next =>
    forAll (fun shell path next =>
      contentsOf words shell name path fun bytes? shell =>
        match bytes? with
        | none => next 1 shell
        | some bytes => shell.say 1 (shown path bytes) fun shell _ => next 0 shell)
      (sources arguments) 0 shell next

end Utility

end CalcBuild.Script

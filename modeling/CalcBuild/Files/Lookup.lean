/-
**Lookup of paths.**

A path is looked up component by component from a directory, through links.

* `walk`: the lookup itself; it ends because every link followed is counted;
* `FileSystem.locate`: where a path leads, possibly to a place without entry whose directory exists;
* `FileSystem.find`: the entry that a path leads to;
* `FileSystem.ending`: the directory and the name that the last component of a path denotes, for
  operations on the entry itself.
-/

import CalcBuild.Files.Path
import CalcBuild.Files.Tree
import CalcBuild.Fault.Cause

namespace CalcBuild.Files

/-- The longest name that a directory can hold. -/
def longestName : Nat := 255

/-- The length from which on a path is too long. -/
def pathLimit : Nat := 4096

/-- The number of links that one lookup may follow. -/
def linkLimit : Nat := 40

/-- Where a lookup ends: at an entry, or at a free name in a directory. -/
inductive Spot where
  | present (place : Place)
  | absent (place : Place)
  deriving DecidableEq, Repr

namespace FileSystem

/-- Goes from a place through the components of a path. The last component is followed if it is a
link and `follow` is set; all others always are. A place without entry is a directory that has been
removed while it was in use: nothing is in it, but the way up still leads out of it. -/
def walk (fs : FileSystem) (follow : Bool) (links : Nat) (at_ : Place) (names : List Bytes) :
    Except Fault Spot :=
  match names with
  | [] => .ok (.present at_)
  | name :: rest =>
    match fs.get? at_ with
    | none =>
      if name = [] || name = Path.here then fs.walk follow links at_ rest
      else if name = Path.up then fs.walk follow links at_.tail rest
      else .error .noEntry
    | some (.directory mode) =>
      if name = [] then fs.walk follow links at_ rest
      else if !mode.mayEnter then .error .permissionDenied
      else if name = Path.here then fs.walk follow links at_ rest
      else if name = Path.up then fs.walk follow links at_.tail rest
      else if longestName < name.length then .error .nameTooLong
      else
        match fs.get? (name :: at_) with
        | none => if rest = [] then .ok (.absent (name :: at_)) else .error .noEntry
        | some (.link target) =>
          if rest = [] && !follow then .ok (.present (name :: at_))
          else
            match links with
            | 0 => .error .tooManyLinks
            | left + 1 =>
              if target = [] then .error .noEntry
              else
                fs.walk follow left (if Path.isAbsolute target then [] else at_)
                  (Path.components target ++ rest)
        | some _ => fs.walk follow links (name :: at_) rest
    | some _ => .error .notDirectory
termination_by (links, names.length)

/-- What is wrong with the bytes of a path before any lookup. -/
def pathFault? (path : Bytes) : Option Fault :=
  if path.contains 0 then some .nulInPath
  else if path = [] then some .noEntry
  else if pathLimit ≤ path.length then some .nameTooLong
  else none

/-- The place at which the lookup of a path starts. -/
def start (cwd : Place) (path : Bytes) : Place :=
  if Path.isAbsolute path then [] else cwd

/-- Where a path leads from the directory `cwd`. -/
def locate (fs : FileSystem) (cwd : Place) (follow : Bool) (path : Bytes) : Except Fault Spot :=
  match pathFault? path with
  | some fault => .error fault
  | none => fs.walk follow linkLimit (start cwd path) (Path.components path)

/-- The entry at a place that a lookup ended at: what is there, or the directory that was. -/
def entryAt (fs : FileSystem) (place : Place) : Entry :=
  (fs.get? place).getD (.directory Mode.ofDirectory)

/-- The place and the entry that a path leads to. -/
def find (fs : FileSystem) (cwd : Place) (follow : Bool) (path : Bytes) :
    Except Fault (Place × Entry) :=
  match fs.locate cwd follow path with
  | .error fault => .error fault
  | .ok (.absent _) => .error .noEntry
  | .ok (.present place) => .ok (place, fs.entryAt place)

/-- The entry that a path leads to, through links. -/
def status? (fs : FileSystem) (cwd : Place) (path : Bytes) : Option Entry :=
  match fs.find cwd true path with
  | .ok (_, entry) => some entry
  | .error _ => none

/-- Whether a path leads to an entry. -/
def pathExists (fs : FileSystem) (cwd : Place) (path : Bytes) : Bool :=
  (fs.status? cwd path).isSome

/-- Whether a path leads to a regular file. -/
def isFile (fs : FileSystem) (cwd : Place) (path : Bytes) : Bool :=
  match fs.status? cwd path with
  | some (.file ..) => true
  | _ => false

/-- Whether a path leads to a directory. -/
def isDirectory (fs : FileSystem) (cwd : Place) (path : Bytes) : Bool :=
  match fs.status? cwd path with
  | some (.directory _) => true
  | _ => false

/-- Whether a path leads to a regular file with an execute bit. -/
def isExecutable (fs : FileSystem) (cwd : Place) (path : Bytes) : Bool :=
  match fs.status? cwd path with
  | some (.file mode _) => mode.hasExecuteBit
  | _ => false

/-- What the last component of a path denotes: a name in a directory, perhaps with a slash after it;
or the root, a directory itself, or the one above. -/
inductive Ending where
  | name (dir : Place) (name : Bytes) (slashed : Bool)
  | here
  | up
  | root
  deriving DecidableEq, Repr

/-- The directory and the name that the last component of a path denotes. The components before it
are looked up, the last one is not; the directory has to allow it to be looked up. -/
def ending (fs : FileSystem) (cwd : Place) (path : Bytes) : Except Fault Ending :=
  match pathFault? path with
  | some fault => .error fault
  | none =>
    let parts := Path.names path
    match parts.getLast? with
    | none => .ok .root
    | some last =>
      match fs.walk true linkLimit (start cwd path) parts.dropLast with
      | .error fault => .error fault
      | .ok (.absent _) => .error .noEntry
      | .ok (.present dir) =>
        match fs.entryAt dir with
        | .directory mode =>
          if !mode.mayEnter then .error .permissionDenied
          else if last = Path.here then .ok .here
          else if last = Path.up then .ok .up
          else if fs.isDirectoryAt dir then .ok (.name dir last (Path.endsWithSlash path))
          else .error .noEntry
        | _ => .error .notDirectory

end FileSystem

end CalcBuild.Files

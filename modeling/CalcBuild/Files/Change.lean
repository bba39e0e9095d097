/-
**Operations on files.**

Each operation takes paths, looks them up from a directory, and either fails without any change or
gives the changed file system.

* `read`, `makeDirectory`, `createNew`, `write`, `unlink`, `removeDirectory`, `rename`, `symlink`:
  one operation each;
* `makeDirectories`: the directories on the way to a path; on failure those already made stay;
* `removeAll`: a directory with everything in it; on failure what could be removed before is gone.
-/

import CalcBuild.Files.Lookup

namespace CalcBuild.Files.FileSystem

/-- The contents of the file that a path leads to. -/
def read (fs : FileSystem) (cwd : Place) (path : Bytes) : Except Fault Bytes :=
  match fs.find cwd true path with
  | .error fault => .error fault
  | .ok (_, .file mode contents) => if mode.mayRead then .ok contents else .error .permissionDenied
  | .ok (_, .sink) => .ok []
  | .ok (_, .directory mode) => .error (if mode.mayRead then .isDirectory else .permissionDenied)
  | .ok (_, .link _) => .error .tooManyLinks

/-- The place at which a name is free in a directory. -/
def freeName (fs : FileSystem) (dir : Place) (name : Bytes) : Except Fault Place :=
  if longestName < name.length then .error .nameTooLong
  else if (fs.get? (name :: dir)).isSome then .error .alreadyExists
  else .ok (name :: dir)

/-- Makes an entry at a place, if the directory allows it. -/
def addAt (fs : FileSystem) (place : Place) (entry : Entry) : Except Fault FileSystem :=
  if fs.mayChange place.tail then .ok (fs.put place entry) else .error .permissionDenied

/-- Removes the entry at a place, if the directory allows it. -/
def removeAt (fs : FileSystem) (place : Place) : Except Fault FileSystem :=
  if fs.mayChange place.tail then .ok (fs.drop place) else .error .permissionDenied

/-- Makes a directory where nothing is. -/
def makeDirectory (fs : FileSystem) (cwd : Place) (path : Bytes) : Except Fault FileSystem :=
  match fs.ending cwd path with
  | .error fault => .error fault
  | .ok (.name dir name _) =>
    (fs.freeName dir name).bind fun place => fs.addAt place (.directory Mode.ofDirectory)
  | .ok _ => .error .alreadyExists

/-- Makes an empty file where nothing is. -/
def createNew (fs : FileSystem) (cwd : Place) (mode : Mode) (path : Bytes) :
    Except Fault FileSystem :=
  match fs.ending cwd path with
  | .error fault => .error fault
  | .ok (.name dir name slashed) =>
    if slashed then .error .isDirectory
    else (fs.freeName dir name).bind fun place => fs.addAt place (.file mode [])
  | .ok _ => .error .isDirectory

/-- The place of the file that a write to a path goes to, and the file system with that file: it is
made if there is none, and emptied if `keep` is not set. A path that ends with a slash denotes no
file. -/
def openForWriting (fs : FileSystem) (cwd : Place) (keep : Bool) (path : Bytes) :
    Except Fault (Place × FileSystem) :=
  match fs.ending cwd path with
  | .error fault => .error fault
  | .ok (.name _ _ true) => .error .isDirectory
  | .ok _ =>
    match fs.locate cwd true path with
    | .error fault => .error fault
    | .ok (.absent place) =>
      (fs.addAt place (.file Mode.ofFile [])).map fun made => (place, made)
    | .ok (.present place) =>
      match fs.entryAt place with
      | .file mode _ =>
        if mode.mayWrite then .ok (place, if keep then fs else fs.put place (.file mode []))
        else .error .permissionDenied
      | .sink => .ok (place, fs)
      | .directory _ => .error .isDirectory
      | .link _ => .error .tooManyLinks

/-- Adds bytes at the end of the file at a place, if there still is one. -/
def appendAt (fs : FileSystem) (place : Place) (bytes : Bytes) : FileSystem :=
  match fs.get? place with
  | some (.file mode contents) => fs.put place (.file mode (contents ++ bytes))
  | _ => fs

/-- Replaces the contents of the file that a path leads to, or makes it. -/
def write (fs : FileSystem) (cwd : Place) (path contents : Bytes) : Except Fault FileSystem :=
  (fs.openForWriting cwd false path).map fun (place, opened) => opened.appendAt place contents

/-- Sets the mode of the file or the directory that a path leads to. -/
def setMode (fs : FileSystem) (cwd : Place) (mode : Mode) (path : Bytes) :
    Except Fault FileSystem :=
  match fs.find cwd true path with
  | .error fault => .error fault
  | .ok (place, .file _ contents) => .ok (fs.put place (.file mode contents))
  | .ok (place, .directory _) =>
    .ok (if fs.isDirectoryAt place then fs.put place (.directory mode) else fs)
  | .ok _ => .ok fs

/-- Removes an entry that is not a directory. -/
def unlink (fs : FileSystem) (cwd : Place) (path : Bytes) : Except Fault FileSystem :=
  match fs.ending cwd path with
  | .error fault => .error fault
  | .ok (.name dir name slashed) =>
    if longestName < name.length then .error .nameTooLong
    else
      match fs.get? (name :: dir) with
      | none => .error .noEntry
      | some (.directory _) =>
        .error (if slashed || fs.mayChange dir then .isDirectory else .permissionDenied)
      | some _ => if slashed then .error .notDirectory else fs.removeAt (name :: dir)
  | .ok _ => .error .isDirectory

/-- Removes an empty directory. -/
def removeDirectory (fs : FileSystem) (cwd : Place) (path : Bytes) : Except Fault FileSystem :=
  match fs.ending cwd path with
  | .error fault => .error fault
  | .ok (.name dir name _) =>
    if longestName < name.length then .error .nameTooLong
    else
      match fs.get? (name :: dir) with
      | none => .error .noEntry
      | some (.directory _) =>
        if !fs.mayChange dir then .error .permissionDenied
        else if fs.isEmptyAt (name :: dir) then .ok (fs.drop (name :: dir))
        else .error .notEmpty
      | some _ => .error (if fs.mayChange dir then .notDirectory else .permissionDenied)
  | .ok .here => .error .invalid
  | .ok .up => .error .notEmpty
  | .ok .root => .error .busy

/-- Makes a link with a target. -/
def symlink (fs : FileSystem) (cwd : Place) (target path : Bytes) : Except Fault FileSystem :=
  if target.contains 0 then .error .nulInPath
  else if target = [] then .error .noEntry
  else
    match fs.ending cwd path with
    | .error fault => .error fault
    | .ok (.name dir name slashed) =>
      match fs.freeName dir name with
      | .error fault => .error fault
      | .ok place => if slashed then .error .noEntry else fs.addAt place (.link target)
    | .ok _ => .error .alreadyExists

/-- What a rename finds wrong with the entry that it would replace. -/
def replaceFault? (fs : FileSystem) (target : Place) (moving : Entry) : Option Fault :=
  match fs.get? target, moving with
  | none, _ => none
  | some (.directory _), .directory _ => if fs.isEmptyAt target then none else some .notEmpty
  | some (.directory _), _ => some .isDirectory
  | some _, .directory _ => some .notDirectory
  | some _, _ => none

/-- Whether a rename may change what a directory says about the one above it. -/
def mayTurn (source target : Place) : Entry → Bool
  | .directory mode => source.tail = target.tail || mode.mayWrite
  | _ => true

/-- What a rename finds wrong with two entries, the second of which may not exist: that one lies
within the other, that a directory does not allow the change, or that the entries do not fit. -/
def renameFault? (fs : FileSystem) (source target : Place) (moving : Entry) : Option Fault :=
  if isWithin source target.tail then some .invalid
  else if isWithin target source.tail then some .notEmpty
  else if !(fs.mayChange source.tail && fs.mayChange target.tail) then some .permissionDenied
  else
    match fs.replaceFault? target moving with
    | some .notEmpty => some (if mayTurn source target moving then .notEmpty else .permissionDenied)
    | some fault => some fault
    | none => if mayTurn source target moving then none else some .permissionDenied

/-- Moves an entry to another name, in place of what that name denotes: a directory replaces only an
empty directory, and anything else only what is no directory. -/
def rename (fs : FileSystem) (cwd : Place) (source target : Bytes) : Except Fault FileSystem :=
  match fs.ending cwd source, fs.ending cwd target with
  | .error fault, _ => .error fault
  | _, .error fault => .error fault
  | .ok (.name dir name slashed), .ok (.name dir' name' slashed') =>
    if longestName < name.length then .error .nameTooLong
    else
      match fs.get? (name :: dir) with
      | none => .error .noEntry
      | some moving =>
        if longestName < name'.length then .error .nameTooLong
        else if !moving.isDirectory && (slashed || slashed') then .error .notDirectory
        else if name :: dir = name' :: dir' then .ok fs
        else
          match fs.renameFault? (name :: dir) (name' :: dir') moving with
          | some fault => .error fault
          | none => .ok (fs.move (name :: dir) (name' :: dir'))
  | _, _ => .error .busy

/-- Makes the first of a list of paths, each the parent of the one before, after those of them that
are missing. A directory that exists is as good as a new one. -/
def makeChain (fs : FileSystem) (cwd : Place) : List Bytes → FileSystem × Except Cause Unit
  | [] => (fs, .error .noWholeTree)
  | path :: above =>
    if path = [] then (fs, .ok ())
    else
      match fs.makeDirectory cwd path with
      | .ok made => (made, .ok ())
      | .error .noEntry =>
        match fs.makeChain cwd above with
        | (partly, .error cause) => (partly, .error cause)
        | (partly, .ok ()) =>
          match partly.makeDirectory cwd path with
          | .ok made => (made, .ok ())
          | .error fault =>
            (partly, if partly.isDirectory cwd path then .ok () else .error fault.cause)
      | .error fault => (fs, if fs.isDirectory cwd path then .ok () else .error fault.cause)

/-- Makes a directory and the missing ones on the way to it. -/
def makeDirectories (fs : FileSystem) (cwd : Place) (path : Bytes) :
    FileSystem × Except Cause Unit :=
  fs.makeChain cwd (Path.ancestors path)

/-- Whether a directory can be listed and emptied; an empty one has to be listed only. -/
def mayEmpty (fs : FileSystem) (place : Place) (mode : Mode) : Bool :=
  mode.mayRead && (fs.isEmptyAt place || (mode.mayWrite && mode.mayEnter))

/-- Whether all directories at and below a place can be emptied. -/
def mayClear (fs : FileSystem) (place : Place) : Bool :=
  fs.table.all fun row =>
    match row.2 with
    | .directory mode => !isWithin place row.1 || fs.mayEmpty row.1 mode
    | _ => true

/-- Removes what is at and below a place, entry by entry and the oldest first, until one cannot be
removed; directories are entered down to a depth. -/
def clear (fs : FileSystem) (depth : Nat) (place : Place) : FileSystem × Except Fault Unit :=
  match depth with
  | 0 => (fs, .error .permissionDenied)
  | more + 1 =>
    let emptied : FileSystem × Except Fault Unit :=
      match fs.get? place with
      | some (.directory mode) =>
        if !mode.mayRead then (fs, .error .permissionDenied)
        else
          (fs.namesIn place).reverse.foldl (fun state name =>
            match state with
            | (fs, .ok ()) =>
              if mode.mayEnter then fs.clear more (name :: place)
              else (fs, .error .permissionDenied)
            | failed => failed) (fs, .ok ())
      | _ => (fs, .ok ())
    match emptied with
    | (partly, .error fault) => (partly, .error fault)
    | (empty, .ok ()) =>
      match empty.removeAt place with
      | .ok removed => (removed, .ok ())
      | .error fault => (empty, .error fault)

/-- Removes a directory with everything in it; a link is removed itself and not followed. If all
directories allow it everything goes at once, else as much as there is on the way to the first
refusal. -/
def removeAll (fs : FileSystem) (cwd : Place) (path : Bytes) : FileSystem × Except Fault Unit :=
  match fs.find cwd false path with
  | .error fault => (fs, .error fault)
  | .ok (place, .directory _) =>
    if fs.mayClear place && fs.mayChange place.tail then (fs.dropBelow place, .ok ())
    else fs.clear (fs.table.length + 1) place
  | .ok (place, .link _) =>
    match fs.removeAt place with
    | .ok removed => (removed, .ok ())
    | .error fault => (fs, .error fault)
  | .ok _ => (fs, .error .notDirectory)

end CalcBuild.Files.FileSystem

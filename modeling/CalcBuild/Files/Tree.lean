/-
**Files, directories and links.**

A file system is a finite table from places to entries. A place is the list of names from the entry
up to the root, so that the directory of a place is its tail and everything at or below a place has
that place as a suffix.

* `FileSystem.get?`: the view of a file system, the entry at a place;
* `put`, `drop`, `dropBelow`, `move`: the four ways in which a file system changes;
* `FileSystem.Closed`: every entry lies in a directory.
-/

import CalcBuild.Files.Mode
import CalcBuild.Text.Utf8

namespace CalcBuild.Files

/-- The names from an entry up to the root; the root is the empty list. -/
abbrev Place := List Bytes

/-- What is at a place. -/
inductive Entry where
  | directory (mode : Mode)
  | file (mode : Mode) (contents : Bytes)
  | link (target : Bytes)
  /-- A device that reads as empty and keeps nothing. -/
  | sink
  deriving DecidableEq, Repr

/-- Whether an entry is a directory. -/
def Entry.isDirectory : Entry → Bool
  | .directory _ => true
  | _ => false

/-- A file system: a table of the entries below the root. -/
structure FileSystem where
  table : List (Place × Entry)
  deriving Repr

namespace FileSystem

/-- The file system with nothing below the root. -/
def empty : FileSystem := ⟨[]⟩

instance : Inhabited FileSystem := ⟨empty⟩

/-- The entry at a place. The root is always a directory, and belongs to the machine. -/
def get? (fs : FileSystem) (place : Place) : Option Entry :=
  if place = [] then some (.directory Mode.ofMachine) else fs.table.lookup place

/-- Binds a place to an entry. -/
def put (fs : FileSystem) (place : Place) (entry : Entry) : FileSystem :=
  ⟨(place, entry) :: fs.table.filter fun row => row.1 != place⟩

/-- Removes the entry at a place. -/
def drop (fs : FileSystem) (place : Place) : FileSystem :=
  ⟨fs.table.filter fun row => row.1 != place⟩

/-- Whether a place lies at or below another. -/
def isWithin (above place : Place) : Bool :=
  above.isSuffixOf place

/-- A place lies at or below those that it ends in. -/
theorem isWithin_iff {above place : Place} : isWithin above place = true ↔ above <:+ place :=
  List.isSuffixOf_iff_suffix

/-- Removes the entries at and below a place. -/
def dropBelow (fs : FileSystem) (place : Place) : FileSystem :=
  ⟨fs.table.filter fun row => !isWithin place row.1⟩

/-- The place to which an entry at or below `source` goes when `source` becomes `target`. -/
def rebase (source target place : Place) : Place :=
  place.take (place.length - source.length) ++ target

/-- Moves the entries at and below `source` to `target`, in place of what is there. -/
def move (fs : FileSystem) (source target : Place) : FileSystem :=
  let moving := fs.table.filter fun row => isWithin source row.1
  let staying := fs.table.filter fun row => !isWithin source row.1 && !isWithin target row.1
  ⟨moving.map (fun row => (rebase source target row.1, row.2)) ++ staying⟩

/-- The mode of the directory at a place, if there is one. -/
def directoryMode? (fs : FileSystem) (place : Place) : Option Mode :=
  match fs.get? place with
  | some (.directory mode) => some mode
  | _ => none

/-- Whether there is a directory at a place. -/
def isDirectoryAt (fs : FileSystem) (place : Place) : Bool :=
  (fs.directoryMode? place).isSome

/-- Whether entries of the directory at a place may be made and removed. -/
def mayChange (fs : FileSystem) (place : Place) : Bool :=
  (fs.directoryMode? place).any fun mode => mode.mayWrite && mode.mayEnter

/-- Whether nothing lies below a place. -/
def isEmptyAt (fs : FileSystem) (place : Place) : Bool :=
  fs.table.all fun row => !(isWithin place row.1 && row.1 != place)

/-- The rows below a place, each with its names from that place on, the outermost first. -/
def below (fs : FileSystem) (place : Place) : List (List Bytes × Entry) :=
  (fs.table.filter fun row => isWithin place row.1 && row.1 != place).map fun row =>
    ((row.1.take (row.1.length - place.length)).reverse, row.2)

/-- The names directly in a directory. -/
def namesIn (fs : FileSystem) (place : Place) : List Bytes :=
  fs.table.filterMap fun row =>
    match row.1 with
    | name :: dir => if dir = place then some name else none
    | [] => none

/-- Every entry lies in a directory. -/
def Closed (fs : FileSystem) : Prop :=
  ∀ name dir, (fs.get? (name :: dir)).isSome → fs.isDirectoryAt dir

end FileSystem

/-- The path from the root to a place. -/
def Place.path (place : Place) : Bytes :=
  if place = [] then [0x2F] else place.reverse.flatMap (0x2F :: ·)

end CalcBuild.Files

/-
**Paths as byte strings.**

A path is a byte string; slashes separate its components. The functions here look at the bytes only
and never at the files.

* `join`: a path below another, or the second one if it starts at the root;
* `parent`: the path without its last component, as far as that leaves a path;
* `ancestors`: a path, its parent, and so on;
* `absolute`: the path from the root that denotes the same file from a given directory;
* `components`: the names that a lookup goes through.
-/

import CalcBuild.Text.Split

namespace CalcBuild.Files.Path

/-- The byte between components. -/
def slash : UInt8 := 0x2F

/-- The component that stands for the directory itself. -/
def here : Bytes := [0x2E]

/-- The component that stands for the directory above. -/
def up : Bytes := [0x2E, 0x2E]

/-- Whether a path starts at the root. -/
def isAbsolute : Bytes → Bool
  | [] => false
  | byte :: _ => byte == slash

/-- The components of a path, without the empty ones. -/
def names (path : Bytes) : List Bytes :=
  (Text.splitAt slash path).filter (· != [])

/-- Whether a path ends with a slash. -/
def endsWithSlash (path : Bytes) : Bool :=
  path.getLast? == some slash

/-- The components that a lookup goes through. A slash at the end asks for a directory; an empty last
component stands for that. -/
def components (path : Bytes) : List Bytes :=
  if endsWithSlash path then names path ++ [[]] else names path

/-- `path` below `base`; a path from the root replaces the base. -/
def join (base path : Bytes) : Bytes :=
  if isAbsolute path then path
  else if base = [] || endsWithSlash base then base ++ path
  else base ++ slash :: path

/-- The number of leading bytes that are a component of their own: the root, or a `.` that is the
first component. -/
def leading : Bytes → Nat
  | [] => 0
  | [byte] => if byte = slash || byte = 0x2E then 1 else 0
  | byte :: next :: _ =>
    if byte = slash then 1 else if byte = 0x2E && next = slash then 1 else 0

/-- Takes the last component, and the slash before it, off a reversed path. -/
def popComponent (reversed : Bytes) : Bytes × Bytes :=
  (reversed.takeWhile (· != slash), (reversed.dropWhile (· != slash)).drop 1)

/-- Takes empty components and `.` components off the end of a reversed path. -/
def trimEnd (steps : Nat) (reversed : Bytes) : Bytes :=
  match steps with
  | 0 => reversed
  | more + 1 =>
    if reversed = [] then []
    else
      let (component, rest) := popComponent reversed
      if component = [] || component = here then trimEnd more rest else reversed

/-- The path without its last component. Empty components and inner `.` components do not count; the
root and the empty path have no parent. -/
def parent (path : Bytes) : Option Bytes :=
  let lead := path.take (leading path)
  let body := trimEnd path.length (path.drop (leading path)).reverse
  if body = [] then
    if lead = here then some [] else none
  else
    let rest := trimEnd path.length (popComponent body).2
    some (lead ++ rest.reverse)

/-- A path, its parent, and so on, at most `steps` of them. -/
def ancestorsWithin (steps : Nat) (path : Bytes) : List Bytes :=
  match steps with
  | 0 => []
  | more + 1 =>
    match parent path with
    | none => [path]
    | some above => path :: ancestorsWithin more above

/-- A path, its parent, and so on up to the one without parent. -/
def ancestors (path : Bytes) : List Bytes :=
  ancestorsWithin (path.length + 1) path

/-- The components of a path other than `.`. -/
def steps (path : Bytes) : List Bytes :=
  (names path).filter (· != here)

/-- The path from the root that denotes the same file as `path` does from the directory `base`:
empty components and `.` are dropped, `..` is kept, and exactly two leading slashes stay two.
Without a base, a path that does not start at the root has none. -/
def absolute (base : Option Bytes) (path : Bytes) : Option Bytes :=
  let tail := if endsWithSlash path then [[]] else []
  let from? : Option Bytes :=
    if isAbsolute path then
      if path.take 2 = [slash, slash] && path.take 3 != [slash, slash, slash] then
        some [slash, slash]
      else some [slash]
    else if path = [] then none
    else base
  from?.map fun start => (steps path ++ tail).foldl join start

end CalcBuild.Files.Path

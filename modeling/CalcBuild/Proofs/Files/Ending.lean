/-
**The entry that a path denotes.**

Operations on an entry look up the directory of a path, and the last component is a name in it. The
place of that name is what the path denotes, whether or not anything is there.

* `Path.IsLeaf`, `Path.names_join`: paths that end in a name of their own;
* `ending_name_iff`: what it takes that a path denotes a name in a directory;
* `placeOf`: the place that a path denotes;
* `find_free`, `find_entry`, `find_directory`: looking up the path leads to that place.
-/

import CalcBuild.Proofs.Files.Trail

namespace CalcBuild.Files

namespace Path

/-- A name without slash, the one for the directory above included. -/
structure IsComponent (name : Bytes) : Prop where
  proper : name ≠ []
  unslashed : slash ∉ name

/-- A name without slash that denotes an entry of a directory. -/
structure IsLeaf (name : Bytes) : Prop where
  ordinary : FileSystem.isOrdinary name = true
  unslashed : slash ∉ name

theorem names_append (before after : Bytes) :
    names (before ++ slash :: after) = names before ++ names after := by
  unfold names
  simp only [Text.splitAt_eq_splitOn]
  rw [List.splitOn_append_cons_self, List.filter_append]

theorem IsLeaf.component {name : Bytes} (leaf : IsLeaf name) : IsComponent name where
  proper := (FileSystem.isOrdinary_iff.mp leaf.ordinary).1
  unslashed := leaf.unslashed

theorem names_component {name : Bytes} (component : IsComponent name) : names name = [name] := by
  unfold names
  rw [Text.splitAt_eq_splitOn, List.splitOn_eq_singleton component.unslashed]
  simp [component.proper]

theorem endsWithSlash_iff {path : Bytes} :
    endsWithSlash path = true ↔ ∃ before, path = before ++ [slash] := by
  unfold endsWithSlash
  rw [beq_iff_eq, List.getLast?_eq_some_iff]

theorem IsComponent.isAbsolute {name : Bytes} (component : IsComponent name) :
    isAbsolute name = false := by
  cases name with
  | nil => rfl
  | cons byte rest =>
    have differs : byte ≠ slash := fun same => component.unslashed (by simp [same])
    simp [Path.isAbsolute, differs]

theorem IsLeaf.isAbsolute {name : Bytes} (leaf : IsLeaf name) : isAbsolute name = false :=
  leaf.component.isAbsolute

/-- A joined path is the base, perhaps a slash, and the path that is joined. -/
theorem join_relative (base : Bytes) {path : Bytes} (relative : isAbsolute path = false) :
    (∃ before, join base path = before ++ slash :: path ∧ names before = names base) ∨
      join base path = path ∧ base = [] := by
  unfold join
  rw [relative, if_neg Bool.false_ne_true]
  by_cases bare : base = []
  · subst bare
    exact .inr ⟨by simp, rfl⟩
  · by_cases slashed : endsWithSlash base = true
    · obtain ⟨before, rfl⟩ := endsWithSlash_iff.mp slashed
      have nothing : names [] = [] := rfl
      refine .inl ⟨before, ?_, ?_⟩
      · rw [if_pos (by simp [slashed]), List.append_assoc, List.singleton_append]
      · rw [names_append, nothing, List.append_nil]
    · exact .inl ⟨base, by rw [if_neg (by simp [bare, slashed])], rfl⟩

/-- The components of a joined path are those of both parts. -/
theorem names_join_relative (base : Bytes) {path : Bytes} (relative : isAbsolute path = false) :
    names (join base path) = names base ++ names path := by
  rcases join_relative base relative with ⟨before, joined, same⟩ | ⟨joined, bare⟩
  · rw [joined, names_append, same]
  · rw [joined, bare]
    rfl

theorem suffix_join (base : Bytes) {path : Bytes} (relative : isAbsolute path = false) :
    path <:+ join base path := by
  rcases join_relative base relative with ⟨before, joined, _⟩ | ⟨joined, _⟩
  · rw [joined]
    exact (List.suffix_cons _ _).trans (List.suffix_append _ _)
  · exact joined.symm ▸ List.suffix_refl path

/-- The name at the end of a joined path is its last component, and the others are those of the
path that it was joined to. -/
theorem names_join_component (base : Bytes) {name : Bytes} (component : IsComponent name) :
    names (join base name) = names base ++ [name] := by
  rw [names_join_relative base component.isAbsolute, names_component component]

theorem names_join (base : Bytes) {name : Bytes} (leaf : IsLeaf name) :
    names (join base name) = names base ++ [name] :=
  names_join_component base leaf.component

/-- Joined to any directories, two names that give one path are one name. -/
theorem leaf_of_join {base base' name name' : Bytes} (leaf : IsLeaf name)
    (leaf' : IsLeaf name') (same : join base name = join base' name') :
    name = name' := by
  have ends := congrArg (fun path => (names path).getLast?) same
  rw [names_join base leaf, names_join base' leaf', List.getLast?_concat,
    List.getLast?_concat] at ends
  exact Option.some.inj ends

theorem endsWithSlash_join_component (base : Bytes) {name : Bytes} (component : IsComponent name) :
    endsWithSlash (join base name) = false := by
  obtain ⟨before, joined⟩ := suffix_join base component.isAbsolute
  have differs : name.getLast component.proper ≠ slash := fun same =>
    component.unslashed (same ▸ List.getLast_mem component.proper)
  unfold endsWithSlash
  rw [← joined, List.getLast?_append_of_ne_nil _ component.proper,
    List.getLast?_eq_some_getLast component.proper]
  simp [differs]

theorem endsWithSlash_join (base : Bytes) {name : Bytes} (leaf : IsLeaf name) :
    endsWithSlash (join base name) = false :=
  endsWithSlash_join_component base leaf.component

/-- A joined path has no bytes but those of its parts and a slash. -/
theorem join_bytes (base name : Bytes) :
    (join base name).length ≤ base.length + 1 + name.length ∧
      ∀ byte ∈ join base name, byte ∈ base ∨ byte = slash ∨ byte ∈ name := by
  unfold join
  split
  · exact ⟨by omega, fun byte member => .inr (.inr member)⟩
  · split
    · refine ⟨by simp, fun byte member => ?_⟩
      rcases List.mem_append.mp member with before | after
      · exact .inl before
      · exact .inr (.inr after)
    · refine ⟨by simp; omega, fun byte member => ?_⟩
      rcases List.mem_append.mp member with before | after
      · exact .inl before
      · exact .inr (List.mem_cons.mp after)

/-- What is joined to a path from the root is a path from the root. -/
theorem isAbsolute_join {base : Bytes} (name : Bytes) (absolute : isAbsolute base = true) :
    isAbsolute (join base name) = true := by
  cases base with
  | nil => cases absolute
  | cons byte rest =>
    unfold join
    split
    · assumption
    · split <;> exact absolute

end Path

/-- The path to a place is a path from the root. -/
theorem isAbsolute_path (place : Place) : Path.isAbsolute place.path = true := by
  unfold Place.path
  by_cases root : place = []
  · rw [if_pos root]
    rfl
  · rw [if_neg root]
    obtain ⟨names, last, shape⟩ := List.eq_nil_or_concat place |>.resolve_left root
    rw [shape]
    simp [Path.isAbsolute, Path.slash]

namespace FileSystem

/-- The bytes of a path are sound if none of them is zero, and there are some, but not too many. -/
theorem pathFault?_eq_none_iff {path : Bytes} :
    pathFault? path = none ↔ (0 : UInt8) ∉ path ∧ path ≠ [] ∧ path.length < pathLimit := by
  unfold pathFault?
  split
  · simp_all
  · split
    · simp_all
    · split <;> simp_all

theorem pathFault?_prefix {path longer : Bytes} (sane : pathFault? longer = none) (proper : path ≠ [])
    (begins : path <+: longer) : pathFault? path = none := by
  obtain ⟨clean, _, short⟩ := pathFault?_eq_none_iff.mp sane
  exact pathFault?_eq_none_iff.mpr ⟨fun member => clean (begins.subset member), proper,
    Nat.lt_of_le_of_lt begins.length_le short⟩

theorem start_absolute {cwd : Place} {path : Bytes} (absolute : Path.isAbsolute path = true) :
    start cwd path = [] :=
  if_pos absolute

/-- A lookup of a path from the root starts at a directory. -/
theorem start_present {fs : FileSystem} {cwd : Place} {path : Bytes}
    (absolute : Path.isAbsolute path = true) : (fs.get? (start cwd path)).isSome := by
  rw [start_absolute absolute]
  rfl

/-! ### What a path denotes -/

/-- What it takes that a path denotes a name in a directory. -/
theorem ending_name {fs : FileSystem} {cwd : Place} {path : Bytes} {dir : Place} {name : Bytes}
    {slashed : Bool} (denotes : fs.ending cwd path = .ok (.name dir name slashed)) :
    pathFault? path = none ∧ (Path.names path).getLast? = some name ∧
      fs.walk true linkLimit (start cwd path) (Path.names path).dropLast = .ok (.present dir) ∧
      (∃ mode, fs.get? dir = some (.directory mode) ∧ mode.mayEnter) ∧
      name ≠ Path.here ∧ name ≠ Path.up ∧ slashed = Path.endsWithSlash path := by
  unfold ending entryAt isDirectoryAt directoryMode? at denotes
  cases bytes : pathFault? path with
  | some fault => simp [bytes] at denotes
  | none =>
    simp only [bytes] at denotes
    cases last : (Path.names path).getLast? with
    | none => simp [last] at denotes
    | some final =>
      simp only [last] at denotes
      split at denotes
      · cases denotes
      · cases denotes
      · rename_i place finds
        cases entry : fs.get? place with
        | none =>
          simp only [entry, Option.getD_none, Option.isSome_none, Bool.false_eq_true,
            if_false] at denotes
          repeat' split at denotes
          all_goals cases denotes
        | some found =>
          cases found with
          | directory mode =>
            simp only [entry, Option.getD_some, Option.isSome_some, if_true] at denotes
            repeat' split at denotes
            all_goals cases denotes
            rename_i enters notHere notUp
            exact ⟨rfl, rfl, finds, ⟨mode, entry, by simpa using enters⟩, notHere, notUp, rfl⟩
          | _ =>
            simp only [entry, Option.getD_some] at denotes
            cases denotes

/-- **A path denotes a name in a directory** if its other components lead to that directory and the
directory may be entered. -/
theorem ending_name_iff {fs : FileSystem} {cwd : Place} {path : Bytes} {dir : Place} {name : Bytes}
    {slashed : Bool} :
    fs.ending cwd path = .ok (.name dir name slashed) ↔
      pathFault? path = none ∧ (Path.names path).getLast? = some name ∧
      fs.walk true linkLimit (start cwd path) (Path.names path).dropLast = .ok (.present dir) ∧
      (∃ mode, fs.get? dir = some (.directory mode) ∧ mode.mayEnter) ∧
      name ≠ Path.here ∧ name ≠ Path.up ∧ slashed = Path.endsWithSlash path := by
  refine ⟨ending_name, ?_⟩
  rintro ⟨bytes, last, finds, ⟨mode, directory, enters⟩, notHere, notUp, rfl⟩
  simp [ending, entryAt, isDirectoryAt, directoryMode?, bytes, last, finds, directory, enters,
    notHere, notUp]

/-- The place that a path denotes. -/
def placeOf (fs : FileSystem) (cwd : Place) (path : Bytes) : Option Place :=
  match fs.ending cwd path with
  | .ok (.name dir name _) => some (name :: dir)
  | _ => none

theorem placeOf_eq_some_iff {fs : FileSystem} {cwd : Place} {path : Bytes} {place : Place} :
    fs.placeOf cwd path = some place ↔
      ∃ dir name, place = name :: dir ∧
        fs.ending cwd path = .ok (.name dir name (Path.endsWithSlash path)) := by
  unfold placeOf
  constructor
  · intro denotes
    split at denotes
    · rename_i dir name slashed ends
      cases denotes
      obtain ⟨_, _, _, _, _, _, rfl⟩ := ending_name ends
      exact ⟨dir, name, rfl, ends⟩
    · cases denotes
  · rintro ⟨dir, name, rfl, ends⟩
    rw [ends]

theorem placeOf_of_ending {fs : FileSystem} {cwd : Place} {path : Bytes} {dir : Place} {name : Bytes}
    {slashed : Bool} (ends : fs.ending cwd path = .ok (.name dir name slashed)) :
    fs.placeOf cwd path = some (name :: dir) := by
  unfold placeOf
  rw [ends]

/-- The last component of a path that denotes a place is an ordinary name. -/
theorem ending_ordinary {fs : FileSystem} {cwd : Place} {path : Bytes} {dir : Place} {name : Bytes}
    {slashed : Bool} (ends : fs.ending cwd path = .ok (.name dir name slashed)) :
    isOrdinary name = true := by
  obtain ⟨_, last, _, _, notHere, notUp, _⟩ := ending_name ends
  have member := List.mem_of_getLast? last
  unfold Path.names at member
  have proper := (List.mem_filter.mp member).2
  simp_all [isOrdinary]

/-- The directory of what a path denotes is a directory. -/
theorem ending_directory {fs : FileSystem} {cwd : Place} {path : Bytes} {dir : Place}
    {name : Bytes} {slashed : Bool} (ends : fs.ending cwd path = .ok (.name dir name slashed)) :
    fs.isDirectoryAt dir = true := by
  obtain ⟨_, _, _, ⟨mode, directory, _⟩, _⟩ := ending_name ends
  exact isDirectoryAt_iff.mpr ⟨mode, directory⟩

/-- **What a path denotes stays the same** when entries are added. -/
theorem ending_extends {fs fs' : FileSystem} (closed : fs.Closed) (extension : fs'.Extends fs)
    {cwd : Place} {path : Bytes} {dir : Place} {name : Bytes} {slashed : Bool}
    (here : (fs.get? (start cwd path)).isSome)
    (ends : fs.ending cwd path = .ok (.name dir name slashed)) :
    fs'.ending cwd path = .ok (.name dir name slashed) := by
  obtain ⟨bytes, last, finds, ⟨mode, directory, enters⟩, ordinary⟩ := ending_name ends
  refine ending_name_iff.mpr ⟨bytes, last, walk_extends closed extension here finds,
    ⟨mode, ?_, enters⟩, ordinary⟩
  rw [extension dir (by rw [directory]; rfl), directory]

/-- A path with a name joined to it denotes that name in the directory that the path leads to. -/
theorem ending_join_iff {fs : FileSystem} {cwd : Place} {base name : Bytes} {dir : Place}
    {last : Bytes} {slashed : Bool} (leaf : Path.IsLeaf name) :
    fs.ending cwd (Path.join base name) = .ok (.name dir last slashed) ↔
      pathFault? (Path.join base name) = none ∧ last = name ∧ slashed = false ∧
      fs.walk true linkLimit (start cwd (Path.join base name)) (Path.names base)
        = .ok (.present dir) ∧
      ∃ mode, fs.get? dir = some (.directory mode) ∧ mode.mayEnter := by
  have ordinary := leaf.ordinary
  rw [ending_name_iff, Path.names_join base leaf, Path.endsWithSlash_join base leaf,
    List.getLast?_concat, List.dropLast_concat]
  constructor
  · rintro ⟨bytes, same, finds, enters, _, _, unslashed⟩
    exact ⟨bytes, (Option.some.inj same).symm, unslashed, finds, enters⟩
  · rintro ⟨bytes, rfl, unslashed, finds, enters⟩
    have proper := isOrdinary_iff.mp ordinary
    exact ⟨bytes, rfl, finds, enters, proper.2.1, proper.2.2, unslashed⟩

/-- In a directory that may be entered, a lookup that comes to a free name ends. -/
theorem walk_free {fs : FileSystem} {dir : Place} {name : Bytes} {mode : Mode}
    (directory : fs.get? dir = some (.directory mode)) (enters : mode.mayEnter)
    (ordinary : isOrdinary name = true) (short : name.length ≤ longestName)
    (free : fs.get? (name :: dir) = none) (follow : Bool) (links : Nat) (rest : List Bytes) :
    fs.walk follow links dir (name :: rest)
      = if rest = [] then .ok (.absent (name :: dir)) else .error .noEntry := by
  have proper := isOrdinary_iff.mp ordinary
  have fits : ¬ longestName < name.length := by omega
  rw [walk_cons]
  simp [hop, directory, enters, proper, fits, free]

/-- In a directory that may be entered, a lookup goes on from an entry that it does not follow. -/
theorem walk_entry {fs : FileSystem} {dir : Place} {name : Bytes} {mode : Mode}
    (directory : fs.get? dir = some (.directory mode)) (enters : mode.mayEnter)
    (ordinary : isOrdinary name = true) (short : name.length ≤ longestName) {entry : Entry}
    (found : fs.get? (name :: dir) = some entry) {follow : Bool} {rest : List Bytes}
    (plain : follow = false ∧ rest = [] ∨ ∀ target, entry ≠ .link target) (links : Nat) :
    fs.walk follow links dir (name :: rest) = fs.walk follow links (name :: dir) rest := by
  have proper := isOrdinary_iff.mp ordinary
  have fits : ¬ longestName < name.length := by omega
  rw [walk_cons]
  cases entry with
  | link target =>
    obtain ⟨rfl, rfl⟩ := plain.resolve_right fun other => other target rfl
    simp [hop, directory, enters, proper, fits, found]
  | _ => simp [hop, directory, enters, proper, fits, found]

/-- A lookup of a path that denotes a name ends with that name in its directory; a slash after the
name asks for a directory there. -/
theorem locate_of_ending {fs : FileSystem} {cwd : Place} {path : Bytes} {dir : Place} {name : Bytes}
    {slashed : Bool} (ends : fs.ending cwd path = .ok (.name dir name slashed)) :
    ∃ left, ∀ follow, fs.locate cwd follow path
      = fs.walk follow left dir (name :: if slashed then [[]] else []) := by
  obtain ⟨bytes, last, finds, _, _, _, same⟩ := ending_name ends
  obtain ⟨before, split⟩ := List.getLast?_eq_some_iff.mp last
  rw [split, List.dropLast_concat] at finds
  obtain ⟨left, continues⟩ := walk_append finds
  refine ⟨left, fun follow => ?_⟩
  have parts : Path.components path = before ++ (name :: if slashed then [[]] else []) := by
    unfold Path.components
    rw [same, split]
    cases Path.endsWithSlash path <;> simp
  unfold locate
  rw [bytes, parts]
  exact continues follow _ (List.cons_ne_nil _ _)

/-- **A path that denotes a free place leads nowhere.** -/
theorem find_free {fs : FileSystem} {cwd : Place} {path : Bytes} {dir : Place} {name : Bytes}
    {slashed : Bool} (ends : fs.ending cwd path = .ok (.name dir name slashed))
    (short : name.length ≤ longestName) (free : fs.get? (name :: dir) = none) (follow : Bool) :
    fs.find cwd follow path = .error .noEntry := by
  obtain ⟨_, _, _, ⟨mode, directory, enters⟩, _⟩ := ending_name ends
  obtain ⟨left, locates⟩ := locate_of_ending ends
  unfold find
  rw [locates, walk_free directory enters (ending_ordinary ends) short free]
  cases slashed <;> rfl

/-- **A path that denotes an entry leads to it**, unless that is a link that is followed. -/
theorem find_entry {fs : FileSystem} {cwd : Place} {path : Bytes} {dir : Place} {name : Bytes}
    (ends : fs.ending cwd path = .ok (.name dir name false)) (short : name.length ≤ longestName)
    {entry : Entry} (found : fs.get? (name :: dir) = some entry) {follow : Bool}
    (plain : follow = false ∨ ∀ target, entry ≠ .link target) :
    fs.find cwd follow path = .ok (name :: dir, entry) := by
  obtain ⟨_, _, _, ⟨mode, directory, enters⟩, _⟩ := ending_name ends
  obtain ⟨left, locates⟩ := locate_of_ending ends
  unfold find
  rw [locates, if_neg Bool.false_ne_true, walk_entry directory enters (ending_ordinary ends) short
    found (plain.imp_left fun unfollowed => ⟨unfollowed, rfl⟩), walk_nil]
  simp [entryAt, found]

/-- **A path that denotes a directory leads to it**, also when it ends with a slash. -/
theorem find_directory {fs : FileSystem} {cwd : Place} {path : Bytes} {dir : Place} {name : Bytes}
    {slashed : Bool} (ends : fs.ending cwd path = .ok (.name dir name slashed))
    (short : name.length ≤ longestName) {mode : Mode}
    (found : fs.get? (name :: dir) = some (.directory mode)) (follow : Bool) :
    fs.find cwd follow path = .ok (name :: dir, .directory mode) := by
  obtain ⟨_, _, _, ⟨_, directory, enters⟩, _⟩ := ending_name ends
  obtain ⟨left, locates⟩ := locate_of_ending ends
  have ended : fs.walk follow left (name :: dir) (if slashed then [[]] else [])
      = .ok (.present (name :: dir)) := by
    cases slashed with
    | false => exact walk_nil ..
    | true =>
      rw [if_pos rfl, walk_cons]
      simp [hop, found]
  unfold find
  rw [locates, walk_entry directory enters (ending_ordinary ends) short found
    (.inr fun _ other => nomatch other), ended]
  simp [entryAt, found]

/-- A lookup through all components of a path that denotes a directory ends there. -/
theorem walk_directory {fs : FileSystem} {cwd : Place} {path : Bytes} {dir : Place} {name : Bytes}
    {slashed : Bool} (ends : fs.ending cwd path = .ok (.name dir name slashed))
    (short : name.length ≤ longestName) (directory : fs.isDirectoryAt (name :: dir) = true) :
    fs.walk true linkLimit (start cwd path) (Path.names path) = .ok (.present (name :: dir)) := by
  obtain ⟨_, last, finds, ⟨_, parent, enters⟩, _⟩ := ending_name ends
  obtain ⟨mode, found⟩ := isDirectoryAt_iff.mp directory
  obtain ⟨before, split⟩ := List.getLast?_eq_some_iff.mp last
  rw [split, List.dropLast_concat] at finds
  obtain ⟨left, continues⟩ := walk_append finds
  rw [split, continues true [name] (List.cons_ne_nil _ _),
    walk_entry parent enters (ending_ordinary ends) short found
      (.inr fun _ other => nomatch other), walk_nil]

/-- What is joined to the path of a directory denotes an entry of that directory. -/
theorem placeOf_join {fs : FileSystem} {cwd : Place} {path : Bytes} {dir : Place} {name : Bytes}
    {slashed : Bool} (ends : fs.ending cwd path = .ok (.name dir name slashed))
    (short : name.length ≤ longestName) (directory : fs.isDirectoryAt (name :: dir) = true)
    (absolute : Path.isAbsolute path = true) {leaf : Bytes} (isLeaf : Path.IsLeaf leaf)
    {place : Place} (denotes : fs.placeOf cwd (Path.join path leaf) = some place) :
    place = leaf :: name :: dir := by
  obtain ⟨dir', name', rfl, ends'⟩ := placeOf_eq_some_iff.mp denotes
  obtain ⟨_, rfl, _, finds, _⟩ := (ending_join_iff isLeaf).mp ends'
  have same : start cwd (Path.join path name') = start cwd path := by
    unfold start
    rw [absolute, Path.isAbsolute_join name' absolute]
  rw [same, walk_directory ends short directory] at finds
  cases finds
  rfl

/-- A path from the root is as good to look up as a longer one. -/
theorem pathFault?_of_join {path leaf : Bytes} (absolute : Path.isAbsolute path = true)
    (isLeaf : Path.IsLeaf leaf) (bytes : pathFault? (Path.join path leaf) = none) :
    pathFault? path = none := by
  have proper : path ≠ [] := by
    rintro rfl
    cases absolute
  have longer : path <+: Path.join path leaf := by
    unfold Path.join
    rw [isLeaf.isAbsolute, if_neg Bool.false_ne_true]
    split <;> exact List.prefix_append ..
  exact pathFault?_prefix bytes proper longer

/-- **A path leads to the directory in which it denotes a name** when that is joined to it. -/
theorem find_of_join {fs : FileSystem} {cwd : Place} {path leaf : Bytes}
    (absolute : Path.isAbsolute path = true) (isLeaf : Path.IsLeaf leaf) {dir : Place} {last : Bytes}
    {slashed : Bool} (ends : fs.ending cwd (Path.join path leaf) = .ok (.name dir last slashed)) :
    ∃ entry, fs.find cwd true path = .ok (dir, entry) := by
  obtain ⟨bytes, _, _, finds, mode, directory, _⟩ := (ending_join_iff isLeaf).mp ends
  have same : start cwd (Path.join path leaf) = start cwd path := by
    unfold start
    rw [absolute, Path.isAbsolute_join leaf absolute]
  rw [same] at finds
  have locates : fs.walk true linkLimit (start cwd path) (Path.components path) = .ok (.present dir) := by
    unfold Path.components
    split
    · obtain ⟨left, continues⟩ := walk_append finds
      rw [continues true [[]] (List.cons_ne_nil _ _), walk_cons]
      simp [hop, directory]
    · exact finds
  refine ⟨fs.entryAt dir, ?_⟩
  unfold find locate
  rw [pathFault?_of_join absolute isLeaf bytes, locates]

/-- **What a path leads to, it leads to when entries are added.** -/
theorem find_extends {fs fs' : FileSystem} (closed : fs.Closed) (extension : fs'.Extends fs)
    {cwd : Place} {follow : Bool} {path : Bytes} {place : Place} {entry : Entry}
    (here : (fs.get? (start cwd path)).isSome)
    (finds : fs.find cwd follow path = .ok (place, entry)) :
    fs'.find cwd follow path = .ok (place, entry) := by
  unfold find locate at finds ⊢
  cases bytes : pathFault? path with
  | some fault => simp [bytes] at finds
  | none =>
    simp only [bytes] at finds ⊢
    cases walks : fs.walk follow linkLimit (start cwd path) (Path.components path) with
    | error fault => simp [walks] at finds
    | ok spot =>
      cases spot with
      | absent _ => simp [walks] at finds
      | present found =>
        rw [walk_extends closed extension here walks]
        have same : fs'.entryAt found = fs.entryAt found := by
          unfold entryAt
          rw [extension found (walk_present closed here walks)]
        simp only [walks] at finds
        simp only [same, finds]

end FileSystem

end CalcBuild.Files

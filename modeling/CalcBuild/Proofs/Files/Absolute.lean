/-
**Absolute paths.**

The absolute form of a path is made from its text alone: empty components and `.` are dropped, `..` is
kept, and a path that does not start at the root is put after that of a directory. It leads to the same
entry as the path does. That a `.` is dropped does not matter if a name comes after it, because that
name asks for the same directory and for the same permission; and the path of a directory leads to it
if all directories above it may be entered.

* `Path.absolute_rooted`, `Path.absolute_relative`: the absolute form as names that are joined;
* `Path.length_absolute_le`: that of a path from the root is not longer;
* `Thins`, `walk_thins`: lookups that leave out `.`;
* `Reachable`, `walk_reachable`: directories that their own path leads to;
* `find_absolute_rooted`, `find_absolute_relative`: the absolute form leads to the same entry.
-/

import CalcBuild.Proofs.Files.Ending
import Mathlib

namespace CalcBuild.Files

/-! ### Components -/

namespace Path

/-- The components of a path are names without slash, from the bytes of the path. -/
theorem mem_names {path name : Bytes} (member : name ∈ names path) :
    IsComponent name ∧ name ⊆ path := by
  obtain ⟨part, proper⟩ := List.mem_filter.mp member
  obtain ⟨unslashed, inside⟩ := Text.mem_splitAt part
  exact ⟨⟨by simpa using proper, unslashed⟩, inside⟩

theorem names_slash (path : Bytes) : names (slash :: path) = names path :=
  names_append [] path

/-! ### Joining one name after the other -/

variable (start : Bytes) {parts : List Bytes}

theorem names_foldl (components : ∀ part ∈ parts, IsComponent part) :
    names (parts.foldl join start) = names start ++ parts := by
  induction parts generalizing start with
  | nil => simp
  | cons part parts ih =>
    obtain ⟨first, rest⟩ := List.forall_mem_cons.mp components
    rw [List.foldl_cons, ih _ rest, names_join_component start first, List.append_assoc,
      List.singleton_append]

theorem endsWithSlash_foldl (components : ∀ part ∈ parts, IsComponent part) (some_ : parts ≠ []) :
    endsWithSlash (parts.foldl join start) = false := by
  obtain ⟨before, last, rfl⟩ := (List.eq_nil_or_concat parts).resolve_left some_
  rw [List.concat_eq_append, List.foldl_append]
  exact endsWithSlash_join_component _ (components last (by simp))

variable {start}

theorem isAbsolute_foldl (parts : List Bytes) (absolute : isAbsolute start = true) :
    isAbsolute (parts.foldl join start) = true := by
  induction parts generalizing start with
  | nil => exact absolute
  | cons part parts ih => exact ih (isAbsolute_join part absolute)

theorem mem_foldl {byte : UInt8} (member : byte ∈ parts.foldl join start) :
    byte ∈ start ∨ byte = slash ∨ ∃ part ∈ parts, byte ∈ part := by
  induction parts generalizing start with
  | nil => exact .inl member
  | cons part parts ih =>
    rcases ih member with joined | rfl | ⟨later, listed, inside⟩
    · rcases (join_bytes _ _).2 _ joined with before | rfl | inside
      · exact .inl before
      · exact .inr (.inl rfl)
      · exact .inr (.inr ⟨part, List.mem_cons_self, inside⟩)
    · exact .inr (.inl rfl)
    · exact .inr (.inr ⟨later, List.mem_cons_of_mem _ listed, inside⟩)

/-- The length of names, each with a slash. -/
def weight (parts : List Bytes) : Nat := (parts.map fun part => part.length + 1).sum

theorem length_foldl_le : (parts.foldl join start).length ≤ start.length + weight parts := by
  induction parts generalizing start with
  | nil => simp
  | cons part parts ih =>
    have one := (join_bytes start part).1
    have rest := @ih (join start part)
    simp only [List.foldl_cons, weight, List.map_cons, List.sum_cons] at rest ⊢
    omega

/-- The first name after a slash needs no other one. -/
theorem length_foldl_lt (slashed : endsWithSlash start = true)
    (components : ∀ part ∈ parts, IsComponent part) (some_ : parts ≠ []) :
    (parts.foldl join start).length < start.length + weight parts := by
  obtain ⟨part, rest, rfl⟩ := List.exists_cons_of_ne_nil some_
  have first : join start part = start ++ part := by
    unfold join
    rw [(components part List.mem_cons_self).isAbsolute, if_neg Bool.false_ne_true, slashed]
    simp
  have bound := @length_foldl_le (join start part) rest
  rw [first, List.length_append] at bound
  rw [List.foldl_cons, first]
  simp only [weight, List.map_cons, List.sum_cons] at bound ⊢
  omega

theorem weight_splitAt (bytes : Bytes) : weight (Text.splitAt slash bytes) = bytes.length + 1 := by
  induction bytes with
  | nil => rfl
  | cons byte rest ih =>
    by_cases same : byte = slash
    · rw [same, Text.splitAt_mark]
      simp only [weight, List.map_cons, List.sum_cons, List.length_cons, List.length_nil] at ih ⊢
      omega
    · obtain ⟨first, later, parts, cut⟩ := Text.splitAt_cons same rest
      rw [parts] at ih
      rw [cut]
      simp only [weight, List.map_cons, List.sum_cons, List.length_cons] at ih ⊢
      omega

theorem weight_sublist {few many : List Bytes} (fewer : few.Sublist many) : weight few ≤ weight many := by
  induction fewer with
  | slnil => exact Nat.le_refl _
  | cons part _ ih | cons_cons part _ ih =>
    simp only [weight, List.map_cons, List.sum_cons] at ih ⊢
    omega

theorem weight_steps (path : Bytes) : weight (steps path) ≤ path.length + 1 := by
  rw [← weight_splitAt path]
  exact weight_sublist (List.filter_sublist.trans List.filter_sublist)

/-! ### The absolute form -/

theorem steps_components {path step : Bytes} (member : step ∈ steps path) :
    IsComponent step ∧ step ⊆ path :=
  mem_names (List.mem_filter.mp member).1

/-- The components of a joined path other than `.` are those of both parts. -/
theorem steps_join (base : Bytes) {name : Bytes} (leaf : IsLeaf name) :
    steps (join base name) = steps base ++ [name] := by
  unfold steps
  rw [names_join base leaf, List.filter_append, List.filter_cons,
    if_pos (FileSystem.bne_here leaf.ordinary), List.filter_nil]

theorem isAbsolute_join_iff (base : Bytes) {name : Bytes} (leaf : IsLeaf name) :
    isAbsolute (join base name) = isAbsolute base := by
  unfold join
  rw [leaf.isAbsolute, if_neg Bool.false_ne_true]
  cases base with
  | nil => exact leaf.isAbsolute
  | cons byte rest => split <;> rfl

theorem steps_slash (path : Bytes) : steps (slash :: path) = steps path := by
  unfold steps
  rw [names_slash]

/-- The slashes that the absolute form of a path from the root begins with. -/
def root (path : Bytes) : Bytes :=
  if path.take 2 = [slash, slash] && path.take 3 != [slash, slash, slash] then [slash, slash]
  else [slash]

theorem root_cases (path : Bytes) :
    root path = [slash] ∨ root path = [slash, slash] ∧ ∃ rest, path = slash :: slash :: rest := by
  unfold root
  split
  · rename_i twice
    refine .inr ⟨rfl, ?_⟩
    match path with
    | [] | [_] => simp at twice
    | first :: second :: rest =>
      simp only [List.take_succ_cons, List.take_zero, Bool.and_eq_true, decide_eq_true_eq,
        List.cons.injEq, and_true] at twice
      exact ⟨rest, by rw [twice.1.1, twice.1.2]⟩
  · exact .inl rfl

theorem absolute_rooted {path : Bytes} (rooted : isAbsolute path = true)
    (open_ : endsWithSlash path = false) (base? : Option Bytes) :
    absolute base? path = some ((steps path).foldl join (root path)) := by
  unfold absolute root
  simp only [rooted, open_, if_true, Bool.false_eq_true, if_false, List.append_nil]
  split <;> rfl

theorem absolute_relative {path : Bytes} (relative : isAbsolute path = false)
    (open_ : endsWithSlash path = false) (some_ : path ≠ []) (base : Bytes) :
    absolute (some base) path = some ((steps path).foldl join base) := by
  simp [absolute, relative, open_, some_]

/-- The root and the steps of a path with their slashes are not longer than the path with one more. -/
theorem length_root_add_weight {path : Bytes} (rooted : isAbsolute path = true) :
    (root path).length + weight (steps path) ≤ path.length + 1 := by
  rcases root_cases path with once | ⟨twice, rest, rfl⟩
  · rw [once]
    match path with
    | first :: rest =>
      obtain rfl : first = slash := by simpa [isAbsolute] using rooted
      have bound := weight_steps rest
      rw [steps_slash]
      simp only [List.length_cons, List.length_nil]
      omega
  · have bound := weight_steps rest
    rw [twice, steps_slash, steps_slash]
    simp only [List.length_cons, List.length_nil]
    omega

/-- **The absolute form of a path from the root is not longer.** -/
theorem length_absolute_le {path : Bytes} (rooted : isAbsolute path = true) (some_ : steps path ≠ []) :
    ((steps path).foldl join (root path)).length ≤ path.length := by
  have slashed : endsWithSlash (root path) = true := by
    rcases root_cases path with once | ⟨twice, _⟩
    · rw [once]
      rfl
    · rw [twice]
      rfl
  have shorter := length_foldl_lt slashed (fun step member => (steps_components member).1) some_
  have bound := length_root_add_weight rooted
  omega

/-- The names of the path of a place, from the root on. -/
theorem names_path {place : Place} (components : ∀ name ∈ place, IsComponent name) :
    names place.path = place.reverse := by
  have joined (parts : List Bytes) (components : ∀ part ∈ parts, IsComponent part) :
      names (parts.flatMap (slash :: ·)) = parts := by
    induction parts with
    | nil => rfl
    | cons part parts ih =>
      obtain ⟨first, rest⟩ := List.forall_mem_cons.mp components
      have later := ih rest
      cases parts with
      | nil => simp [names_slash, names_component first]
      | cons next parts =>
        simp only [List.flatMap_cons, List.cons_append, names_slash] at later ⊢
        rw [names_append, names_component first, later]
        rfl
  unfold Place.path
  split
  · rename_i empty
    rw [empty]
    rfl
  · exact joined place.reverse fun name member => components name (List.mem_reverse.mp member)

end Path

namespace FileSystem

/-! ### Lookups that leave out `.` -/

/-- The second list of names is the first one without some `.`, each of which has another name after
it. -/
inductive Thins : List Bytes → List Bytes → Prop
  | nil : Thins [] []
  | keep (name : Bytes) {names thinned : List Bytes} (thins : Thins names thinned) :
      Thins (name :: names) (name :: thinned)
  | drop {names thinned : List Bytes} {next : Bytes} (thins : Thins names (next :: thinned))
      (proper : next ≠ []) : Thins (Path.here :: names) (next :: thinned)

theorem Thins.refl (names : List Bytes) : Thins names names := by
  induction names with
  | nil => exact .nil
  | cons name names ih => exact .keep name ih

theorem Thins.append {names thinned : List Bytes} (thins : Thins names thinned) (before : List Bytes) :
    Thins (before ++ names) (before ++ thinned) := by
  induction before with
  | nil => exact thins
  | cons name before ih => exact .keep name ih

theorem Thins.nil_iff {names thinned : List Bytes} (thins : Thins names thinned) :
    names = [] ↔ thinned = [] := by
  cases thins <;> simp

/-- Names that end in a proper one may be thinned out. -/
theorem thins_filter {names : List Bytes} {last : Bytes} (proper : ∀ name ∈ names, name ≠ [])
    (ends : last ≠ []) : Thins (names ++ [last]) (names.filter (· != Path.here) ++ [last]) := by
  induction names with
  | nil => exact .refl [last]
  | cons name names ih =>
    obtain ⟨first, rest⟩ := List.forall_mem_cons.mp proper
    by_cases here : name = Path.here
    · subst here
      rw [List.filter_cons, if_neg (by simp)]
      obtain ⟨next, thinned, shape⟩ :=
        List.exists_cons_of_ne_nil (show names.filter (· != Path.here) ++ [last] ≠ [] by simp)
      have thins := ih rest
      rw [shape] at thins ⊢
      refine .drop thins ?_
      have member : next ∈ names.filter (· != Path.here) ++ [last] := shape ▸ List.mem_cons_self
      rcases List.mem_append.mp member with listed | listed
      · exact rest next (List.mem_filter.mp listed).1
      · rw [List.mem_singleton.mp listed]
        exact ends
    · rw [List.filter_cons, if_pos (by simpa using here)]
      exact .keep name (ih rest)

/-- What a hop that follows links has to do with the names after it: nothing if it fails; whether there
are any, if the name is free; and otherwise it goes on to them, perhaps after those of a link. -/
theorem hop_forms (fs : FileSystem) (links : Nat) (at_ : Place) (name : Bytes) :
    (∃ result, ∀ rest, fs.hop true links at_ name rest = .stop result) ∨
    (∀ rest, fs.hop true links at_ name rest
      = .stop (if rest = [] then .ok (.absent (name :: at_)) else .error .noEntry)) ∨
    ∃ links' at' before, ∀ rest, fs.hop true links at_ name rest = .go links' at' (before ++ rest) := by
  unfold hop
  cases fs.get? at_ with
  | none =>
    by_cases stays : (name = [] || name = Path.here) = true
    · exact .inr (.inr ⟨links, at_, [], fun rest => by simp only [stays, if_true, List.nil_append]⟩)
    · by_cases up : name = Path.up
      · exact .inr (.inr ⟨links, at_.tail, [], fun rest => by simp [up, Path.up, Path.here]⟩)
      · exact .inl ⟨.error .noEntry, fun rest => by simp only [stays, up, if_false]; rfl⟩
  | some entry =>
    cases entry with
    | directory mode =>
      by_cases empty : name = []
      · exact .inr (.inr ⟨links, at_, [], fun rest => by simp [empty]⟩)
      by_cases enters : mode.mayEnter = true
      case neg => exact .inl ⟨.error .permissionDenied, fun rest => by simp [empty, enters]⟩
      by_cases here : name = Path.here
      · exact .inr (.inr ⟨links, at_, [], fun rest => by simp [enters, here, Path.here]⟩)
      by_cases up : name = Path.up
      · exact .inr (.inr ⟨links, at_.tail, [], fun rest => by simp [enters, up, Path.up, Path.here]⟩)
      by_cases long : longestName < name.length
      · exact .inl ⟨.error .nameTooLong, fun rest => by simp [empty, enters, here, up, long]⟩
      simp only [empty, enters, here, up, long, if_false, Bool.not_true, Bool.false_eq_true]
      cases fs.get? (name :: at_) with
      | none => exact .inr (.inl fun rest => rfl)
      | some entry =>
        cases entry with
        | link target =>
          cases links with
          | zero => exact .inl ⟨.error .tooManyLinks, fun rest => by simp⟩
          | succ left =>
            by_cases bare : target = []
            · exact .inl ⟨.error .noEntry, fun rest => by simp [bare]⟩
            · exact .inr (.inr ⟨left, _, Path.components target, fun rest => by simp [bare]; rfl⟩)
        | _ => exact .inr (.inr ⟨links, name :: at_, [], fun rest => rfl⟩)
    | _ => exact .inl ⟨.error .notDirectory, fun rest => rfl⟩

/-- A hop goes the same way if the names after it are thinned out. -/
theorem hop_thins {fs : FileSystem} {links : Nat} {at_ : Place} {rest thinned : List Bytes}
    (thins : Thins rest thinned) (name : Bytes) :
    (∃ result, fs.hop true links at_ name rest = .stop result ∧
      fs.hop true links at_ name thinned = .stop result) ∨
    ∃ links' at' names names', fs.hop true links at_ name rest = .go links' at' names ∧
      fs.hop true links at_ name thinned = .go links' at' names' ∧ Thins names names' := by
  rcases hop_forms fs links at_ name with ⟨result, stops⟩ | free | ⟨links', at', before, goes⟩
  · exact .inl ⟨result, stops rest, stops thinned⟩
  · refine .inl ⟨_, free rest, ?_⟩
    rw [free thinned]
    simp only [thins.nil_iff]
  · exact .inr ⟨links', at', _, _, goes rest, goes thinned, thins.append before⟩

/-- A name that is looked up where `.` leads on leads on from there, and fails where `.` fails. -/
theorem hop_here {fs : FileSystem} {links : Nat} {at_ : Place} (rest thinned : List Bytes)
    {next : Bytes} (proper : next ≠ []) :
    fs.hop true links at_ Path.here rest = .go links at_ rest ∨
      ∃ result, fs.hop true links at_ Path.here rest = .stop result ∧
        fs.hop true links at_ next thinned = .stop result := by
  unfold hop
  cases fs.get? at_ with
  | none => simp
  | some entry =>
    cases entry with
    | directory mode => by_cases enters : mode.mayEnter = true <;> simp [enters, proper, Path.here]
    | _ => exact .inr ⟨_, rfl, rfl⟩

/-- **A lookup may leave out `.`** where another name follows. -/
theorem walk_thins {fs : FileSystem} {links : Nat} {at_ : Place} {names thinned : List Bytes}
    (thins : Thins names thinned) : fs.walk true links at_ names = fs.walk true links at_ thinned := by
  induction links, at_, names using hop_induction fs true generalizing thinned with
  | done links at_ =>
    cases thins
    rfl
  | stop links at_ name rest result stops =>
    cases thins with
    | keep _ thins =>
      rcases hop_thins thins name with ⟨result', stops', same⟩ | ⟨_, _, _, _, goes, _⟩
      · rw [walk_cons, walk_cons, stops', same]
      · rw [stops] at goes
        cases goes
    | @drop _ thinned _ thins proper =>
      rcases hop_here rest thinned proper with goes | ⟨result', stops', same⟩
      · rw [stops] at goes
        cases goes
      · rw [walk_cons, walk_cons, stops', same]
  | go links at_ name rest links' at' names' goes ih =>
    cases thins with
    | keep _ thins =>
      rcases hop_thins thins name with ⟨_, stops, _⟩ | ⟨_, _, _, _, goes', same, thins'⟩
      · rw [goes] at stops
        cases stops
      · rw [goes] at goes'
        cases goes'
        rw [walk_cons, walk_cons, goes, same]
        exact ih thins'
    | @drop _ thinned _ thins proper =>
      rcases hop_here rest thinned proper with goes' | ⟨_, stops, _⟩
      · rw [goes] at goes'
        cases goes'
        rw [walk_cons, goes]
        exact ih thins
      · rw [goes] at stops
        cases stops

/-! ### Directories that their path leads to -/

/-- A directory that its own path leads to: all directories above it may be entered. -/
def Reachable (fs : FileSystem) : Place → Prop
  | [] => True
  | name :: dir => fs.Reachable dir ∧ fs.isDirectoryAt (name :: dir) = true ∧
      (∃ mode, fs.get? dir = some (.directory mode) ∧ mode.mayEnter = true) ∧
      Path.IsLeaf name ∧ name.length ≤ longestName ∧ (0 : UInt8) ∉ name

theorem Reachable.isDirectoryAt {fs : FileSystem} {place : Place} (reachable : fs.Reachable place) :
    fs.isDirectoryAt place = true := by
  cases place with
  | nil => rfl
  | cons name dir => exact reachable.2.1

theorem Reachable.named {fs : FileSystem} {place : Place} (reachable : fs.Reachable place) :
    ∀ name ∈ place, Path.IsLeaf name ∧ (0 : UInt8) ∉ name := by
  induction place with
  | nil => simp
  | cons name dir ih =>
    obtain ⟨above, _, _, leaf, _, clean⟩ := reachable
    exact List.forall_mem_cons.mpr ⟨⟨leaf, clean⟩, ih above⟩

/-- The path to a place has no zero byte if its names have none. -/
theorem Reachable.clean {fs : FileSystem} {place : Place} (reachable : fs.Reachable place) :
    (0 : UInt8) ∉ place.path := by
  unfold Place.path
  split
  · decide
  · intro member
    obtain ⟨name, listed, inside⟩ := List.mem_flatMap.mp member
    rcases List.mem_cons.mp inside with slashed | inside
    · cases slashed
    · exact (reachable.named name (List.mem_reverse.mp listed)).2 inside

/-- **The path of a directory leads to it** from the root, and no link is followed on the way. -/
theorem walk_reachable {fs : FileSystem} {place : Place} (reachable : fs.Reachable place)
    (links : Nat) (rest : List Bytes) :
    fs.walk true links [] (place.reverse ++ rest) = fs.walk true links place rest := by
  induction place generalizing rest with
  | nil => rfl
  | cons name dir ih =>
    obtain ⟨above, directory, ⟨mode, parent, enters⟩, leaf, short, _⟩ := reachable
    obtain ⟨_, found⟩ := isDirectoryAt_iff.mp directory
    rw [List.reverse_cons, List.append_assoc, List.singleton_append, ih above,
      walk_entry parent enters leaf.ordinary short found (.inr fun _ other => nomatch other)]

/-! ### The absolute form leads to the same entry -/

section Find

variable {fs : FileSystem} {cwd : Place} {base name path : Bytes}

/-- A path whose lookup is that of another one leads to the same entry. -/
theorem find_of_walk {cwd' : Place} {path' : Bytes} (sane : pathFault? path = none)
    (sane' : pathFault? path' = none)
    (same : fs.walk true linkLimit (start cwd' path') (Path.components path')
      = fs.walk true linkLimit (start cwd path) (Path.components path)) :
    fs.find cwd' true path' = fs.find cwd true path := by
  unfold find locate
  rw [sane, sane', same]

theorem components_of_open {path : Bytes} (open_ : Path.endsWithSlash path = false) :
    Path.components path = Path.names path := by
  unfold Path.components
  rw [open_, if_neg Bool.false_ne_true]

/-- A joined path is looked up like its components without `.`. -/
theorem walk_steps (leaf : Path.IsLeaf name) (links : Nat) (at_ : Place) :
    fs.walk true links at_ (Path.components (Path.join base name))
      = fs.walk true links at_ (Path.steps (Path.join base name)) := by
  rw [components_of_open (Path.endsWithSlash_join base leaf), Path.names_join base leaf,
    Path.steps_join base leaf]
  exact walk_thins (thins_filter (fun part member => (Path.mem_names member).1.proper)
    leaf.component.proper)

theorem steps_join_ne_nil (leaf : Path.IsLeaf name) : Path.steps (Path.join base name) ≠ [] := by
  rw [Path.steps_join base leaf]
  simp

variable (leaf : Path.IsLeaf name) (sane : pathFault? (Path.join base name) = none)
include leaf sane

/-- The steps of a joined path, put after a path from the root that leads where its lookup starts, lead to
the same entry, if the length of both allows it. -/
theorem find_foldl {front : Bytes} (absolute : Path.isAbsolute front = true)
    (clean : (0 : UInt8) ∉ front)
    (leads : ∀ rest, fs.walk true linkLimit [] (Path.names front ++ rest)
      = fs.walk true linkLimit (start cwd (Path.join base name)) rest)
    (short : ((Path.steps (Path.join base name)).foldl Path.join front).length < pathLimit)
    (cwd' : Place) :
    fs.find cwd' true ((Path.steps (Path.join base name)).foldl Path.join front)
      = fs.find cwd true (Path.join base name) := by
  have components : ∀ step ∈ Path.steps (Path.join base name), Path.IsComponent step :=
    fun step member => (Path.steps_components member).1
  have absolute' := Path.isAbsolute_foldl (Path.steps (Path.join base name)) absolute
  have open_ := Path.endsWithSlash_foldl front components (steps_join_ne_nil leaf)
  refine find_of_walk sane (pathFault?_eq_none_iff.mpr ⟨fun member => ?_, fun empty => ?_, short⟩) ?_
  · rcases Path.mem_foldl member with before | slashed | ⟨step, listed, inside⟩
    · exact clean before
    · cases slashed
    · exact (pathFault?_eq_none_iff.mp sane).1 ((Path.steps_components listed).2 inside)
  · rw [empty] at absolute'
    cases absolute'
  · rw [walk_steps leaf, components_of_open open_, Path.names_foldl front components,
      start_absolute absolute', leads]

/-- **The absolute form of a path from the root** leads to the same entry, from anywhere. -/
theorem find_absolute_rooted (rooted : Path.isAbsolute base = true) {base? : Option Bytes}
    (located : Path.absolute base? (Path.join base name) = some path) :
    Path.isAbsolute path = true ∧
      ∀ cwd', fs.find cwd' true path = fs.find cwd true (Path.join base name) := by
  have rooted' : Path.isAbsolute (Path.join base name) = true := by
    rw [Path.isAbsolute_join_iff base leaf, rooted]
  rw [Path.absolute_rooted rooted' (Path.endsWithSlash_join base leaf)] at located
  obtain rfl := Option.some.inj located
  have bare : Path.names (Path.root (Path.join base name)) = [] ∧
      Path.isAbsolute (Path.root (Path.join base name)) = true ∧
      (0 : UInt8) ∉ Path.root (Path.join base name) := by
    rcases Path.root_cases (Path.join base name) with once | ⟨twice, _⟩
    · rw [once]
      decide
    · rw [twice]
      decide
  refine ⟨Path.isAbsolute_foldl _ bare.2.1, find_foldl leaf sane bare.2.1 bare.2.2 (fun rest => ?_) ?_⟩
  · rw [bare.1, List.nil_append, start_absolute rooted']
  · exact Nat.lt_of_le_of_lt (Path.length_absolute_le rooted' (steps_join_ne_nil leaf))
      (pathFault?_eq_none_iff.mp sane).2.2

/-- **The absolute form of another path** leads to the same entry, from anywhere, if its length allows it
and the directory in front of it is reached by its path. -/
theorem find_absolute_relative (relative : Path.isAbsolute base = false)
    (located : Path.absolute (some cwd.path) (Path.join base name) = some path) :
    Path.isAbsolute path = true ∧ (fs.Reachable cwd → path.length < pathLimit →
      ∀ cwd', fs.find cwd' true path = fs.find cwd true (Path.join base name)) := by
  have relative' : Path.isAbsolute (Path.join base name) = false := by
    rw [Path.isAbsolute_join_iff base leaf, relative]
  rw [Path.absolute_relative relative' (Path.endsWithSlash_join base leaf)
    (pathFault?_eq_none_iff.mp sane).2.1] at located
  obtain rfl := Option.some.inj located
  refine ⟨Path.isAbsolute_foldl _ (isAbsolute_path cwd), fun reachable =>
    find_foldl leaf sane (isAbsolute_path cwd) reachable.clean fun rest => ?_⟩
  have unrooted : start cwd (Path.join base name) = cwd := if_neg (by simp [relative'])
  have named : ∀ part ∈ cwd, Path.IsComponent part :=
    fun part member => (reachable.named part member).1.component
  rw [Path.names_path named, unrooted, walk_reachable reachable]

end Find

end FileSystem

end CalcBuild.Files

/-
**Where tools are found.**

Each tool is looked for on its own, in the first directory that holds it, and is started by the absolute
form of its path. A path with a slash is never searched, so the variable for that has no part in it.

The absolute form is made from the text of the path, and a file that is found from the current directory
is found by it only if the current directory is. A directory that may not be entered can stand above the
current one, and then a file is reached from there, but not from the root.

* `Launch.image_unsearched`: a program that is named by a path is not searched;
* `Holds`, `SearchPath.find_eq_some_iff`: the directories that hold a tool, and the first one of them;
* `resolve_eq_ok_iff`, `resolve_eq_error_iff`: the tools are all found, or the first one that is not is told;
* `Locates`: what is true of the path of a tool;
* `tools_resolved`: the main theorem;
* `resolve_barred`: a file that its absolute path does not lead to.
-/

import CalcBuild.Process.Launch
import CalcBuild.Proofs.Files.Absolute
import CalcBuild.Toolchain.Resolve
import Mathlib.Order.WellFounded

namespace CalcBuild

open Files FileSystem

/-! ### Starting a program by its path -/

namespace Launch

/-- What the file at a path leads to depends on the environment only if that is too long. -/
theorem imageAt_environment (fs : FileSystem) (launch : Launch) {environment : Environment}
    (same : { launch with environment }.isTooLong = launch.isTooLong) (steps : Nat)
    (path calledAs : Bytes) (arguments : List Bytes) :
    imageAt fs { launch with environment } steps path calledAs arguments
      = imageAt fs launch steps path calledAs arguments := by
  induction steps generalizing path calledAs arguments with
  | zero =>
    unfold imageAt
    simp only [same]
  | succ steps ih =>
    unfold imageAt
    simp only [same, ih]

/-- **A program that is named by a path is not searched**: two environments start the same image. -/
theorem image_unsearched (fs : FileSystem) {launch : Launch} (slashed : Path.slash ∈ launch.program)
    {environment : Environment}
    (same : { launch with environment }.isTooLong = launch.isTooLong) :
    { launch with environment }.image fs = launch.image fs := by
  have named : launch.program ≠ [] := List.ne_nil_of_mem slashed
  have direct : launch.program.contains Path.slash = true := List.contains_iff_mem.mpr slashed
  unfold image
  simp only [if_neg named, if_pos direct, imageAt_environment fs launch same]

end Launch

/-! ### Directories that hold a tool -/

/-- A directory holds a tool: the entry with its name leads, through links, to a regular file with an
execute bit. -/
def Holds (fs : FileSystem) (cwd : Place) (tool : Tool) (dir : Bytes) : Prop :=
  ∃ place mode contents,
    fs.find cwd true (Path.join dir (Bytes.ofText tool.program)) = .ok (place, .file mode contents) ∧
      mode.hasExecuteBit = true

theorem isExecutable_iff_holds {fs : FileSystem} {cwd : Place} {tool : Tool} {dir : Bytes} :
    fs.isExecutable cwd (Path.join dir (Bytes.ofText tool.program)) = true ↔ Holds fs cwd tool dir := by
  unfold Holds isExecutable status?
  cases fs.find cwd true (Path.join dir (Bytes.ofText tool.program)) with
  | error fault => simp
  | ok found =>
    obtain ⟨place, entry⟩ := found
    cases entry <;> simp

theorem Tool.isLeaf_program (tool : Tool) : Path.IsLeaf (Bytes.ofText tool.program) := by
  cases tool <;> exact ⟨by decide, by decide⟩

namespace SearchPath

variable {search : SearchPath} {fs : FileSystem} {cwd : Place} {tool : Tool}

/-- **A tool is found in the first directory that holds it.** -/
theorem find_eq_some_iff {path : Bytes} :
    search.find fs cwd (Bytes.ofText tool.program) = some path ↔
      ∃ before dir after, search.dirs = before ++ dir :: after ∧ Holds fs cwd tool dir ∧
        (∀ earlier ∈ before, ¬ Holds fs cwd tool earlier) ∧
        path = Path.join dir (Bytes.ofText tool.program) := by
  unfold find
  rw [List.find?_eq_some_iff_append]
  constructor
  · rintro ⟨executable, before, after, split, none_earlier⟩
    obtain ⟨dirs, rest, shape, rfl, tail⟩ := List.map_eq_append_iff.mp split
    obtain ⟨dir, later, rfl, rfl, rfl⟩ := List.map_eq_cons_iff.mp tail
    refine ⟨dirs, dir, later, shape, isExecutable_iff_holds.mp executable, fun earlier listed holds => ?_,
      rfl⟩
    have refused := none_earlier _ (List.mem_map_of_mem listed)
    simp [isExecutable_iff_holds.mpr holds] at refused
  · rintro ⟨before, dir, after, shape, holds, none_earlier, rfl⟩
    refine ⟨isExecutable_iff_holds.mpr holds, _, _, by rw [shape, List.map_append, List.map_cons], ?_⟩
    intro path listed
    obtain ⟨earlier, member, rfl⟩ := List.mem_map.mp listed
    have refused := mt isExecutable_iff_holds.mp (none_earlier earlier member)
    simpa using refused

theorem find_eq_none_iff :
    search.find fs cwd (Bytes.ofText tool.program) = none ↔
      ∀ dir ∈ search.dirs, ¬ Holds fs cwd tool dir := by
  simp [find, List.find?_eq_none, ← isExecutable_iff_holds]

/-- **What is found stays so** when directories are appended. -/
theorem find_append {path : Bytes} (found : search.find fs cwd (Bytes.ofText tool.program) = some path)
    (more : List Bytes) :
    (SearchPath.mk (search.dirs ++ more)).find fs cwd (Bytes.ofText tool.program) = some path := by
  unfold find at found ⊢
  rw [List.map_append, List.find?_append, found, Option.some_or]

/-- **Directories that do not hold a tool** have no part in where it is found. -/
theorem find_insert {before after idle : List Bytes} (dirs : search.dirs = before ++ after)
    (holds_none : ∀ dir ∈ idle, ¬ Holds fs cwd tool dir) :
    (SearchPath.mk (before ++ idle ++ after)).find fs cwd (Bytes.ofText tool.program)
      = search.find fs cwd (Bytes.ofText tool.program) := by
  have nothing : (SearchPath.mk idle).find fs cwd (Bytes.ofText tool.program) = none :=
    find_eq_none_iff.mpr holds_none
  unfold find at nothing ⊢
  rw [dirs, List.map_append, List.map_append, List.map_append, List.find?_append, List.find?_append,
    List.find?_append, nothing, Option.or_none]

end SearchPath

namespace Toolchain

variable {search : SearchPath} {fs : FileSystem} {cwd : Place} {tool : Tool}

theorem resolveTool_eq_ok_iff {path : Bytes} :
    resolveTool search fs cwd tool = .ok path ↔
      ∃ found, search.find fs cwd (Bytes.ofText tool.program) = some found ∧
        path = located (currentPath? fs cwd) found := by
  unfold resolveTool
  cases search.find fs cwd (Bytes.ofText tool.program) <;> simp [eq_comm]

theorem resolveTool_cases (search : SearchPath) (fs : FileSystem) (cwd : Place) (tool : Tool) :
    (∃ path, resolveTool search fs cwd tool = .ok path ∧ ∃ dir ∈ search.dirs, Holds fs cwd tool dir) ∨
      resolveTool search fs cwd tool = .error (.toolNotFound tool) ∧
        ∀ dir ∈ search.dirs, ¬ Holds fs cwd tool dir := by
  unfold resolveTool
  cases found : search.find fs cwd (Bytes.ofText tool.program) with
  | none => exact .inr ⟨rfl, SearchPath.find_eq_none_iff.mp found⟩
  | some path =>
    obtain ⟨before, dir, after, shape, holds, _⟩ := SearchPath.find_eq_some_iff.mp found
    exact .inl ⟨_, rfl, dir, by rw [shape]; simp, holds⟩

/-- **There is a toolchain if there is a path for each tool**, and it has these. -/
theorem resolve_eq_ok_iff {toolchain : Toolchain} :
    resolve search fs cwd = .ok toolchain ↔
      ∀ tool, resolveTool search fs cwd tool = .ok (toolchain.path tool) := by
  unfold resolve
  constructor
  · intro resolves
    cases frontend : resolveTool search fs cwd .frontend with
    | error failure => simp [frontend, bind, Except.bind] at resolves
    | ok _ =>
      cases cCompiler : resolveTool search fs cwd .cCompiler with
      | error failure => simp [frontend, cCompiler, bind, Except.bind] at resolves
      | ok _ =>
        cases backend : resolveTool search fs cwd .backend with
        | error failure => simp [frontend, cCompiler, backend, bind, Except.bind] at resolves
        | ok _ =>
          simp only [frontend, cCompiler, backend, bind, Except.bind] at resolves
          cases resolves
          intro tool
          cases tool <;> assumption
  · intro found
    rw [found, found, found]
    rfl

/-- **The first tool that is missing is told.** -/
theorem resolve_eq_error {failure : BuildFailure}
    (fails : resolveTool search fs cwd tool = .error failure)
    (first : ∀ earlier, Tool.all.idxOf earlier < Tool.all.idxOf tool →
      ∃ path, resolveTool search fs cwd earlier = .ok path) :
    resolve search fs cwd = .error failure := by
  unfold resolve
  cases tool with
  | frontend => rw [fails]; rfl
  | cCompiler =>
    obtain ⟨_, frontend⟩ := first .frontend (by decide)
    rw [frontend, fails]; rfl
  | backend =>
    obtain ⟨_, frontend⟩ := first .frontend (by decide)
    obtain ⟨_, cCompiler⟩ := first .cCompiler (by decide)
    rw [frontend, cCompiler, fails]; rfl

theorem resolveTool_isOk_iff :
    (∃ path, resolveTool search fs cwd tool = .ok path) ↔ ∃ dir ∈ search.dirs, Holds fs cwd tool dir := by
  rcases resolveTool_cases search fs cwd tool with ⟨path, found, holds⟩ | ⟨missing, none_⟩
  · exact ⟨fun _ => holds, fun _ => ⟨path, found⟩⟩
  · refine ⟨fun ⟨path, found⟩ => ?_, fun ⟨dir, listed, holds⟩ => absurd holds (none_ dir listed)⟩
    rw [missing] at found
    cases found

theorem resolve_isOk_iff :
    (∃ toolchain, resolve search fs cwd = .ok toolchain) ↔
      ∀ tool, ∃ dir ∈ search.dirs, Holds fs cwd tool dir := by
  simp only [← resolveTool_isOk_iff]
  constructor
  · rintro ⟨toolchain, resolves⟩ tool
    exact ⟨_, resolve_eq_ok_iff.mp resolves tool⟩
  · intro found
    choose path found using found
    refine ⟨⟨path .frontend, path .cCompiler, path .backend⟩, resolve_eq_ok_iff.mpr fun tool => ?_⟩
    cases tool <;> exact found _

/-- **Without a toolchain some tool is missing**, and the first such tool is told. -/
theorem resolve_eq_error_iff {failure : BuildFailure} :
    resolve search fs cwd = .error failure ↔
      ∃ tool, failure = .toolNotFound tool ∧ (∀ dir ∈ search.dirs, ¬ Holds fs cwd tool dir) ∧
        ∀ earlier, Tool.all.idxOf earlier < Tool.all.idxOf tool →
          ∃ dir ∈ search.dirs, Holds fs cwd earlier dir := by
  have told (tool : Tool) (missing : ∀ dir ∈ search.dirs, ¬ Holds fs cwd tool dir)
      (first : ∀ earlier, Tool.all.idxOf earlier < Tool.all.idxOf tool →
        ∃ dir ∈ search.dirs, Holds fs cwd earlier dir) :
      resolve search fs cwd = .error (.toolNotFound tool) := by
    rcases resolveTool_cases search fs cwd tool with ⟨_, _, dir, listed, holds⟩ | ⟨fails, _⟩
    · exact absurd holds (missing dir listed)
    · exact resolve_eq_error fails fun earlier before => resolveTool_isOk_iff.mpr (first earlier before)
  constructor
  · intro fails
    have some_missing : ∃ tool, ¬ ∃ dir ∈ search.dirs, Holds fs cwd tool dir := by
      by_contra none_missing
      obtain ⟨toolchain, resolves⟩ := resolve_isOk_iff.mpr fun tool =>
        by_contra fun missing => none_missing ⟨tool, missing⟩
      rw [fails] at resolves
      cases resolves
    obtain ⟨tool, missing, least⟩ := (measure fun tool => Tool.all.idxOf tool).wf.has_min
      {tool | ¬ ∃ dir ∈ search.dirs, Holds fs cwd tool dir} some_missing
    have none_ : ∀ dir ∈ search.dirs, ¬ Holds fs cwd tool dir :=
      fun dir listed holds => missing ⟨dir, listed, holds⟩
    have first : ∀ earlier, Tool.all.idxOf earlier < Tool.all.idxOf tool →
        ∃ dir ∈ search.dirs, Holds fs cwd earlier dir :=
      fun earlier before => by_contra fun absent => least earlier absent before
    have same := told tool none_ first
    rw [fails] at same
    exact ⟨tool, Except.error.inj same, none_, first⟩
  · rintro ⟨tool, rfl, missing, first⟩
    exact told tool missing first

theorem resolve_congr {search' : SearchPath}
    (same : ∀ tool, resolveTool search' fs cwd tool = resolveTool search fs cwd tool) :
    resolve search' fs cwd = resolve search fs cwd := by
  unfold resolve
  simp only [same]

theorem resolveTool_insert {before after idle : List Bytes} (dirs : search.dirs = before ++ after)
    (holds_none : ∀ dir ∈ idle, ¬ Holds fs cwd tool dir) :
    resolveTool ⟨before ++ idle ++ after⟩ fs cwd tool = resolveTool search fs cwd tool := by
  unfold resolveTool
  rw [SearchPath.find_insert dirs holds_none]

end Toolchain

/-! ### The path of a tool -/

/-- A program that is named by a path is not searched: two environments start the same image, as long as
neither is too long. -/
def Launch.Unsearched (path : Bytes) : Prop :=
  ∀ (fs : FileSystem) (launch : Launch) (environment : Environment), launch.program = path →
    { launch with environment }.isTooLong = launch.isTooLong →
    { launch with environment }.image fs = launch.image fs

/-- What is true of the path by which a tool in a directory is started. It starts at the root if the
directory does, or else if the current directory still exists. It leads to the file that was found, from
anywhere, if the directory is given from the root, or else if the path of the current directory leads to
it and that of the tool is not too long. And it is never searched. -/
structure LeadsTo (fs : FileSystem) (cwd : Place) (tool : Tool) (dir path : Bytes) : Prop where
  absolute : Path.isAbsolute dir = true ∨ fs.isDirectoryAt cwd = true → Path.isAbsolute path = true
  same : Path.isAbsolute dir = true ∨ fs.Reachable cwd ∧ path.length < pathLimit →
    ∀ cwd', fs.find cwd' true path = fs.find cwd true (Path.join dir (Bytes.ofText tool.program))
  unsearched : Launch.Unsearched path

/-- The path of a tool is that in the first directory that holds it. -/
def Locates (fs : FileSystem) (cwd : Place) (tool : Tool) (dirs : List Bytes) (path : Bytes) : Prop :=
  ∃ before dir after, dirs = before ++ dir :: after ∧ Holds fs cwd tool dir ∧
    (∀ earlier ∈ before, ¬ Holds fs cwd tool earlier) ∧
    path = Toolchain.located (Toolchain.currentPath? fs cwd)
      (Path.join dir (Bytes.ofText tool.program)) ∧
    LeadsTo fs cwd tool dir path

section Paths

variable {fs : FileSystem} {cwd : Place} {tool : Tool} {dir path : Bytes}

theorem Launch.unsearched_of_slash (slashed : Path.slash ∈ path) : Launch.Unsearched path :=
  fun files _ _ named same => Launch.image_unsearched files (named ▸ slashed) same

theorem Launch.unsearched_of_isAbsolute (absolute : Path.isAbsolute path = true) :
    Launch.Unsearched path := by
  cases path with
  | nil => cases absolute
  | cons byte rest =>
    obtain rfl : byte = Path.slash := by simpa [Path.isAbsolute] using absolute
    exact Launch.unsearched_of_slash List.mem_cons_self

/-- The path to a tool can be looked up, and its lookup ends at a place. -/
theorem Holds.walks (holds : Holds fs cwd tool dir) :
    pathFault? (Path.join dir (Bytes.ofText tool.program)) = none ∧
      ∃ place, fs.walk true linkLimit (start cwd (Path.join dir (Bytes.ofText tool.program)))
        (Path.components (Path.join dir (Bytes.ofText tool.program))) = .ok (.present place) := by
  obtain ⟨_, _, _, finds, _⟩ := holds
  unfold find locate at finds
  cases bytes : pathFault? (Path.join dir (Bytes.ofText tool.program)) with
  | some fault => simp [bytes] at finds
  | none =>
    refine ⟨rfl, ?_⟩
    simp only [bytes] at finds
    split at finds
    · cases finds
    · cases finds
    · exact ⟨_, by assumption⟩

/-- Nothing is in a directory that has been removed. -/
theorem Holds.directory (holds : Holds fs cwd tool []) : fs.isDirectoryAt cwd = true := by
  have leaf := tool.isLeaf_program
  have bare : Path.join [] (Bytes.ofText tool.program) = Bytes.ofText tool.program := by
    simp [Path.join]
  obtain ⟨_, place, walks⟩ := holds.walks
  rw [bare, components_of_open (bare ▸ Path.endsWithSlash_join [] leaf),
    Path.names_component leaf.component, start, leaf.isAbsolute, if_neg Bool.false_ne_true,
    walk_cons] at walks
  obtain ⟨proper, notHere, notUp⟩ := isOrdinary_iff.mp leaf.ordinary
  cases entry : fs.get? cwd with
  | none => simp [hop, entry, proper, notHere, notUp] at walks
  | some found =>
    cases found with
    | directory mode => exact isDirectoryAt_iff.mpr ⟨mode, entry⟩
    | _ => simp [hop, entry] at walks

/-- **The path of a tool** leads to the file that was found. -/
theorem Holds.leadsTo (holds : Holds fs cwd tool dir) :
    LeadsTo fs cwd tool dir (Toolchain.located (Toolchain.currentPath? fs cwd)
      (Path.join dir (Bytes.ofText tool.program))) := by
  have leaf := tool.isLeaf_program
  have sane := holds.walks.1
  by_cases rooted : Path.isAbsolute dir = true
  · have rooted' : Path.isAbsolute (Path.join dir (Bytes.ofText tool.program)) = true := by
      rw [Path.isAbsolute_join_iff dir leaf, rooted]
    have located_eq := Path.absolute_rooted rooted' (Path.endsWithSlash_join dir leaf)
      (Toolchain.currentPath? fs cwd)
    obtain ⟨absolute, same⟩ := @find_absolute_rooted fs cwd _ _ _ leaf sane rooted _ located_eq
    unfold Toolchain.located
    rw [located_eq, Option.getD_some]
    exact ⟨fun _ => absolute, fun _ => same, Launch.unsearched_of_isAbsolute absolute⟩
  · have relative : Path.isAbsolute dir = false := Bool.eq_false_iff.mpr rooted
    have relative' : Path.isAbsolute (Path.join dir (Bytes.ofText tool.program)) = false := by
      rw [Path.isAbsolute_join_iff dir leaf, relative]
    by_cases exists_ : fs.isDirectoryAt cwd = true
    · have located_eq := Path.absolute_relative relative' (Path.endsWithSlash_join dir leaf)
        (pathFault?_eq_none_iff.mp sane).2.1 cwd.path
      obtain ⟨absolute, same⟩ := @find_absolute_relative fs cwd _ _ _ leaf sane relative located_eq
      unfold Toolchain.located Toolchain.currentPath?
      rw [if_pos exists_, located_eq, Option.getD_some]
      refine ⟨fun _ => absolute, fun within => ?_, Launch.unsearched_of_isAbsolute absolute⟩
      obtain ⟨reachable, short⟩ := within.resolve_left rooted
      exact same reachable short
    · -- The current directory has been removed, and the path stays as it is.
      have stays : Toolchain.located (Toolchain.currentPath? fs cwd)
          (Path.join dir (Bytes.ofText tool.program)) = Path.join dir (Bytes.ofText tool.program) := by
        unfold Toolchain.located Toolchain.currentPath? Path.absolute
        rw [if_neg exists_, relative']
        simp
      rw [stays]
      refine ⟨fun within => absurd within (by simp [relative, exists_]), fun within => ?_,
        Launch.unsearched_of_slash ?_⟩
      · exact absurd (within.resolve_left rooted).1.isDirectoryAt exists_
      · rcases Path.join_relative dir leaf.isAbsolute with ⟨before, joined, _⟩ | ⟨_, rfl⟩
        · rw [joined]
          simp
        · exact absurd holds.directory exists_

end Paths

theorem Toolchain.resolveTool_locates {search : SearchPath} {fs : FileSystem} {cwd : Place} {tool : Tool}
    {path : Bytes} (found : resolveTool search fs cwd tool = .ok path) :
    Locates fs cwd tool search.dirs path := by
  obtain ⟨joined, first, rfl⟩ := resolveTool_eq_ok_iff.mp found
  obtain ⟨before, dir, after, shape, holds, none_earlier, rfl⟩ := SearchPath.find_eq_some_iff.mp first
  exact ⟨before, dir, after, shape, holds, none_earlier, rfl, holds.leadsTo⟩

/-! ### The main theorem -/

/-- **Where tools are found.** There is a toolchain exactly if each tool is held by one of the
directories. The path of each tool is then that in the first directory that holds it, and leads to the file
that is there. Otherwise the first tool that no directory holds is told. Directories that are appended do
not change where a tool is found, and directories that do not hold it have no part in that wherever they
are. -/
theorem tools_resolved (search : SearchPath) (fs : FileSystem) (cwd : Place) :
    ((∃ toolchain, Toolchain.resolve search fs cwd = .ok toolchain) ↔
      ∀ tool, ∃ dir ∈ search.dirs, Holds fs cwd tool dir) ∧
    (∀ toolchain, Toolchain.resolve search fs cwd = .ok toolchain →
      ∀ tool, Locates fs cwd tool search.dirs (toolchain.path tool)) ∧
    (∀ failure, Toolchain.resolve search fs cwd = .error failure →
      ∃ tool, failure = .toolNotFound tool ∧ (∀ dir ∈ search.dirs, ¬ Holds fs cwd tool dir) ∧
        ∀ earlier, Tool.all.idxOf earlier < Tool.all.idxOf tool →
          ∃ dir ∈ search.dirs, Holds fs cwd earlier dir) ∧
    (∀ tool path, Toolchain.resolveTool search fs cwd tool = .ok path →
      ∀ more, Toolchain.resolveTool ⟨search.dirs ++ more⟩ fs cwd tool = .ok path) ∧
    (∀ before after idle, search.dirs = before ++ after →
      (∀ tool, (∀ dir ∈ idle, ¬ Holds fs cwd tool dir) →
        Toolchain.resolveTool ⟨before ++ idle ++ after⟩ fs cwd tool
          = Toolchain.resolveTool search fs cwd tool) ∧
      ((∀ tool, ∀ dir ∈ idle, ¬ Holds fs cwd tool dir) →
        Toolchain.resolve ⟨before ++ idle ++ after⟩ fs cwd = Toolchain.resolve search fs cwd)) := by
  refine ⟨Toolchain.resolve_isOk_iff, fun toolchain resolves tool => ?_, fun failure fails => ?_,
    fun tool path found more => ?_, fun before after idle dirs => ⟨fun tool => ?_, fun none_ => ?_⟩⟩
  · exact Toolchain.resolveTool_locates (Toolchain.resolve_eq_ok_iff.mp resolves tool)
  · exact Toolchain.resolve_eq_error_iff.mp fails
  · obtain ⟨joined, first, rfl⟩ := Toolchain.resolveTool_eq_ok_iff.mp found
    exact Toolchain.resolveTool_eq_ok_iff.mpr ⟨joined, SearchPath.find_append first more, rfl⟩
  · exact Toolchain.resolveTool_insert dirs
  · exact Toolchain.resolve_congr fun tool => Toolchain.resolveTool_insert dirs (none_ tool)

/-- A machine with tools in `/d/e/t`, where the directory `/d` has some mode. -/
def machine (mode : Mode) : FileSystem :=
  Tool.all.foldl (fun fs tool => fs.put [Bytes.ofText tool.program, [0x74], [0x65], [0x64]] (.file 0o755 []))
    (((FileSystem.empty.put [[0x64]] (.directory mode)).put [[0x65], [0x64]]
      (.directory Mode.ofDirectory)).put [[0x74], [0x65], [0x64]] (.directory Mode.ofDirectory))

/-- **A file that its absolute path does not lead to**: from `/d/e` the tools are found in `t`, but their
absolute paths lead nowhere, because `/d` may not be entered. -/
theorem resolve_barred : ∃ toolchain,
    Toolchain.resolve ⟨[Bytes.ofText "t"]⟩ (machine 0o600) [[0x65], [0x64]] = .ok toolchain ∧
      Holds (machine 0o600) [[0x65], [0x64]] .frontend (Bytes.ofText "t") ∧
      (machine 0o600).find [[0x65], [0x64]] true toolchain.frontend = .error .permissionDenied :=
  ⟨_, by cbv, ⟨_, _, _, by cbv, by decide⟩, by cbv⟩

/-- If `/d` may be entered, the paths lead to the tools, and leave out what is not needed. -/
theorem tools_resolved_reachable : ∃ toolchain,
    Toolchain.resolve ⟨[Bytes.ofText "./t//"]⟩ (machine 0o755) [[0x65], [0x64]] = .ok toolchain ∧
      toolchain.frontend = Bytes.ofText "/d/e/t/calcc" ∧
      ∀ cwd, (machine 0o755).find cwd true toolchain.frontend
        = (machine 0o755).find [[0x65], [0x64]] true (Bytes.ofText "./t//calcc") := by
  obtain ⟨toolchain, resolves⟩ : ∃ toolchain, Toolchain.resolve ⟨[Bytes.ofText "./t//"]⟩ (machine 0o755)
      [[0x65], [0x64]] = .ok toolchain := ⟨_, by cbv⟩
  obtain ⟨before, dir, after, shape, _, _, path, leads⟩ :=
    (tools_resolved ⟨[Bytes.ofText "./t//"]⟩ (machine 0o755) [[0x65], [0x64]]).2.1 toolchain resolves
      .frontend
  obtain rfl : dir = Bytes.ofText "./t//" := by
    have member : dir ∈ before ++ dir :: after := by simp
    rw [← shape] at member
    exact List.mem_singleton.mp member
  have shown : toolchain.path .frontend = Bytes.ofText "/d/e/t/calcc" := path.trans (by cbv)
  have leaf (name : Bytes) (ordinary : isOrdinary name = true) (unslashed : Path.slash ∉ name) :
      Path.IsLeaf name := ⟨ordinary, unslashed⟩
  have reachable : (machine 0o755).Reachable [[0x65], [0x64]] :=
    ⟨⟨trivial, by decide, ⟨_, rfl, by decide⟩, leaf _ (by decide) (by decide), by decide, by decide⟩,
      by decide, ⟨_, rfl, by decide⟩, leaf _ (by decide) (by decide), by decide, by decide⟩
  refine ⟨toolchain, resolves, shown, fun cwd => ?_⟩
  exact leads.same (.inr ⟨reachable, by rw [shown]; decide⟩) cwd

end CalcBuild

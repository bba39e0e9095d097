/-
**What can go wrong before the first stage.**

Before the first stage of a build a tool may be missing, the source may be unreadable or no text, the
source of the run-time support may be missing, and there may be no place for a workspace. Of several of
these the driver tells the first one in this order, and none of them leaves anything behind.

* `Trouble`: the complaints that stand for what goes wrong, each if nothing before it does;
* `prepare_reports`, `prepare_ok`: what the preparation reports, and what it comes to;
* `Traceless`: a run that changes no file and starts no process;
* `trouble_told`: a run in trouble, and one without.
-/

import CalcBuild.CommandLine.Execution
import CalcBuild.Proofs.Build.Opening
import CalcBuild.Proofs.Toolchain.Resolution
import Mathlib

namespace CalcBuild.CommandLine

open Files FileSystem

variable {State : Type}

/-! ### What goes wrong -/

section Causes

variable (site : Site) (files : FileSystem) (invocation : Invocation)

/-- A tool is found: one of the directories that are searched has an executable file of its name. -/
def Resolves (tool : Tool) : Prop :=
  ∃ dir ∈ (site.searchPath invocation).dirs,
    files.isExecutable site.cwd (Path.join dir (Bytes.ofText tool.program)) = true

/-- The source file cannot be read, or it is not text. -/
inductive SourceFault : Cause → Prop
  | unreadable {fault : Fault} (fails : files.read site.cwd invocation.file = .error fault) :
      SourceFault fault.cause
  | notText {contents : Bytes} (reads : files.read site.cwd invocation.file = .ok contents)
      (broken : Text.Utf8.decode? contents = none) : SourceFault .notText

/-- The path of the source of the run-time support. -/
def runtimeSource : Bytes :=
  invocation.runtime?.getD (defaultRuntimeSource files site.cwd site.driverDir? site.sourceTree)

/-- What the driver does when it builds. -/
def building : String := "failed to build " ++ Text.Utf8.lossy invocation.file

end Causes

/-- What goes wrong before the first stage, as the complaint that stands for it: of several things, the
first. -/
inductive Trouble (site : Site) (invocation : Invocation) (world : World) : Complaint → Prop
  | tool {tool : Tool} (missing : ¬ Resolves site world.files invocation tool)
      (first : ∀ other, Tool.all.idxOf other < Tool.all.idxOf tool →
        Resolves site world.files invocation other) :
      Trouble site invocation world
        (.during "failed to resolve toolchain" (.failed (.toolNotFound tool)))
  | source (tools : ∀ tool, Resolves site world.files invocation tool) {cause : Cause}
      (unreadable : SourceFault site world.files invocation cause) :
      Trouble site invocation world (.failed (.inputRead invocation.file cause))
  | runtime (tools : ∀ tool, Resolves site world.files invocation tool)
      (readable : ∀ cause, ¬ SourceFault site world.files invocation cause)
      (missing : world.files.isFile site.cwd (runtimeSource site world.files invocation) = false) :
      Trouble site invocation world (.during (building invocation)
        (.failed (.missingRuntime (runtimeSource site world.files invocation))))
  | workspace (tools : ∀ tool, Resolves site world.files invocation tool)
      (readable : ∀ cause, ¬ SourceFault site world.files invocation cause)
      (present : world.files.isFile site.cwd (runtimeSource site world.files invocation) = true)
      {cause : Cause} (refused : (Workspace.create site.setting invocation.tempDir? world).2
        = .error (.workspaceCreate cause)) :
      Trouble site invocation world
        (.during (building invocation) (.failed (.workspaceCreate cause)))

/-- **Trouble exits with the general failure.** -/
theorem Trouble.code {site : Site} {invocation : Invocation} {world : World} {complaint : Complaint}
    (trouble : Trouble site invocation world complaint) : complaint.code = 1 := by
  cases trouble <;> rfl

/-! ### The preparation -/

section Preparation

variable {site : Site} {files : FileSystem} {invocation : Invocation}

theorem resolves_iff {tool : Tool} : Resolves site files invocation tool ↔
    ∃ dir ∈ (site.searchPath invocation).dirs, Holds files site.cwd tool dir := by
  simp only [Resolves, isExecutable_iff_holds]

/-- All tools are found if each is, whose predecessors are. -/
theorem resolves_of_first (each : ∀ tool,
    (∀ other, Tool.all.idxOf other < Tool.all.idxOf tool → Resolves site files invocation other) →
      Resolves site files invocation tool) (tool : Tool) : Resolves site files invocation tool := by
  generalize position : Tool.all.idxOf tool = index
  induction index using Nat.strongRecOn generalizing tool with
  | ind index ih =>
    exact each tool fun other before => ih _ (position ▸ before) other rfl

/-- **The first tool that is missing is told.** -/
theorem resolve_missing {tool : Tool} (missing : ¬ Resolves site files invocation tool)
    (first : ∀ other, Tool.all.idxOf other < Tool.all.idxOf tool →
      Resolves site files invocation other) :
    Toolchain.resolve (site.searchPath invocation) files site.cwd = .error (.toolNotFound tool) := by
  rw [resolves_iff] at missing
  exact Toolchain.resolve_eq_error_iff.mpr ⟨tool, rfl,
    fun dir searched holds => missing ⟨dir, searched, holds⟩,
    fun earlier before => resolves_iff.mp (first earlier before)⟩

theorem resolve_found (tools : ∀ tool, Resolves site files invocation tool) :
    ∃ toolchain, Toolchain.resolve (site.searchPath invocation) files site.cwd = .ok toolchain :=
  Toolchain.resolve_isOk_iff.mpr fun tool => resolves_iff.mp (tools tool)

theorem read_fault {cause : Cause} (unreadable : SourceFault site files invocation cause) :
    BuildRequest.read files site.cwd invocation.file invocation.output?
      = .error (.inputRead invocation.file cause) := by
  unfold BuildRequest.read
  cases unreadable with
  | unreadable fails => rw [fails]
  | notText reads broken =>
    rw [reads]
    unfold BuildRequest.ofContents
    dsimp only
    rw [broken]

theorem read_found (readable : ∀ cause, ¬ SourceFault site files invocation cause) :
    ∃ request, BuildRequest.read files site.cwd invocation.file invocation.output? = .ok request := by
  unfold BuildRequest.read
  cases reads : files.read site.cwd invocation.file with
  | error fault => exact absurd (.unreadable reads) (readable _)
  | ok contents =>
    unfold BuildRequest.ofContents
    dsimp only
    cases decodes : Text.Utf8.decode? contents with
    | none => exact absurd (.notText reads decodes) (readable _)
    | some chars => exact ⟨_, rfl⟩

/-- Nothing that the preparation reports tells of a process. -/
theorem prepare_reports (site : Site) (files : FileSystem) (invocation : Invocation) (stage : Stage)
    (launch : Launch) : .seen (.started stage launch) ∉ (prepare site files invocation).reports := by
  unfold prepare toolReports
  dsimp only
  split
  · simp
  · split
    all_goals
      dsimp only
      split <;> simp

/-- **The preparation of a run with tools and a source** gives the builder and the request. -/
theorem prepare_ok (tools : ∀ tool, Resolves site files invocation tool)
    (readable : ∀ cause, ¬ SourceFault site files invocation cause) :
    ∃ toolchain request, (prepare site files invocation).result
      = .ok (builder site files toolchain invocation, request) := by
  obtain ⟨toolchain, resolved⟩ := resolve_found tools
  obtain ⟨request, read⟩ := read_found readable
  refine ⟨toolchain, request, ?_⟩
  unfold prepare
  simp only [resolved, read]

end Preparation

/-! ### Runs in trouble -/

/-- A run that changes no file and starts no process. -/
structure Traceless (world : World) (run : Run) : Prop where
  files : run.world.files = world.files
  unstarted : ∀ stage launch, .seen (.started stage launch) ∉ run.reports

/-- A run whose preparation fails ends with that. -/
theorem unprepared_run (programs : Programs State) (choices : List Choice) {site : Site}
    {invocation : Invocation} {world : World} {complaint : Complaint}
    (fails : (prepare site world.files invocation).result = .error complaint) :
    Traceless world (run programs choices site invocation world) ∧
      (run programs choices site invocation world).ending = .failure complaint := by
  have runs : run programs choices site invocation world =
      { world
        reports := (prepare site world.files invocation).reports ++ [.complaint complaint]
        ending := .failure complaint } := by
    unfold run runWith
    simp only [fails]
  rw [runs]
  refine ⟨⟨rfl, fun stage launch member => ?_⟩, rfl⟩
  rcases List.mem_append.mp member with before | last
  · exact prepare_reports site world.files invocation stage launch before
  · cases List.mem_singleton.mp last

/-- A run whose build cannot begin ends with that, unless it is not given enough turns. -/
theorem unopened_run (programs : Programs State) (choices : List Choice) {site : Site}
    {invocation : Invocation} {world : World} {toolchain : Toolchain} {request : BuildRequest}
    (prepared : (prepare site world.files invocation).result
      = .ok (builder site world.files toolchain invocation, request)) {failure : BuildFailure}
    (fails : let solo : Solo State :=
        ⟨programs, site.setting, builder site world.files toolchain invocation, world, request⟩
      ¬ solo.HasSource ∧ failure = .missingRuntime solo.builder.runtimeSource ∨
        solo.HasSource ∧ solo.creation.2 = .error failure) :
    Traceless world (run programs choices site invocation world) ∧
      ((run programs choices site invocation world).ending
          = .failure (.during (building invocation) (.failed failure)) ∨
        (run programs choices site invocation world).ending = .unfinished ∧
          choices.count (.job 0) < 4) := by
  obtain ⟨now, phase, opens, files, ends⟩ := Solo.opens_failure fails (choices.count (.job 0))
  have quiet := opens choices rfl
  generalize system_eq : Solo.after _ choices = system at quiet
  have runs : run programs choices site invocation world
      = conclude invocation.file (prepare site world.files invocation).reports system := by
    unfold run runWith
    simp only [prepared]
    rw [← system_eq]
    rfl
  have result : buildResult? system = BuildRun.result? ⟨request, phase, [], none, none⟩ := by
    unfold buildResult?
    rw [quiet.jobs]
    rfl
  have traceless : Traceless world (conclude invocation.file
      (prepare site world.files invocation).reports system) := by
    refine ⟨quiet.files.trans files, fun stage launch member => ?_⟩
    unfold conclude at member
    dsimp only at member
    rw [List.append_assoc] at member
    rcases List.mem_append.mp member with before | rest
    · exact prepare_reports site world.files invocation stage launch before
    rcases List.mem_append.mp rest with seen | last
    · obtain ⟨event, listed, same⟩ := List.mem_map.mp seen
      cases same
      exact quiet.unstarted stage launch (List.mem_reverse.mp listed)
    · unfold lastReports at last
      split at last
      · split at last
        · cases List.mem_singleton.mp last
        · cases last
      · cases List.mem_singleton.mp last
      · cases last
  rw [runs]
  refine ⟨traceless, ?_⟩
  unfold conclude ending
  dsimp only
  rw [quiet.alive, result]
  rcases ends with rfl | ⟨early, unfinished⟩
  · exact .inl rfl
  · refine .inr ⟨?_, early⟩
    change BuildRun.result? ⟨request, phase, [], none, none⟩ = none at unfinished
    rw [unfinished]

/-- A build comes to its first command with its second turn, in a new workspace, and nothing else has
changed. -/
structure Enters (solo : Solo State) (workspace : Workspace) (name : Bytes) (dir : Place) : Prop where
  free : solo.world.files.get? (name :: dir) = none
  /-- The workspace lies in the directory for it, if the random part of a name is one component of a
  path. -/
  named : (∀ drawn, Path.slash ∉ solo.setting.names drawn) →
    (∃ drawn, name = Workspace.stem ++ solo.setting.names drawn) ∧ ∃ entry,
      solo.world.files.find solo.setting.cwd true
        (solo.setting.anchor (solo.builder.workspaceRoot?.getD solo.setting.temporaryRoot))
          = .ok (dir, entry)
  comes : ∀ choices : List Choice, choices.count (.job 0) = 2 → ∃ now run trace,
    solo.Comes choices now run trace ∧
    (∃ command later, run.phase = .running (.start command) later ∧
      command.stage = .runtimeCompile) ∧
    run.workspace? = some workspace ∧
    now.files = solo.world.files.put (name :: dir) (.directory Mode.ofDirectory) ∧
    now.files.placeOf solo.setting.cwd workspace.path = some (name :: dir) ∧
    ∀ stage launch, .started stage launch ∉ trace

/-- **A build that finds its source and makes its workspace** comes to its first command. -/
theorem enters {solo : Solo State} (found : solo.HasSource) {workspace : Workspace}
    (made : solo.creation.2 = .ok workspace) : ∃ name dir, Enters solo workspace name dir := by
  obtain ⟨opens, first, drawn, path, makes⟩ := Solo.opens_workspace found made
  have grows := makeDirectory_grows makes
  obtain ⟨dir, name, slashed, ends, _, free, _, put⟩ := makeDirectory_eq_ok_iff.mp makes
  refine ⟨name, dir, free, fun plain => ?_, fun choices counts => ?_⟩
  · have leaf := Workspace.isLeaf_name (plain drawn)
    rw [path] at ends
    obtain ⟨_, same, _⟩ := (ending_join_iff leaf).mp ends
    exact ⟨⟨drawn, same⟩, find_of_join (solo.setting.isAbsolute_anchor _) leaf ends⟩
  · have quiet := opens choices counts
    refine ⟨_, _, _, ⟨rfl, quiet.jobs, rfl⟩, first, rfl, quiet.files.trans put, ?_, quiet.unstarted⟩
    rw [quiet.files]
    exact placeOf_of_ending (ending_grows grows ends)

/-- **Trouble before the first stage is told in order, and leaves no trace.** A run in trouble changes no
file, starts no process, and exits with the general failure, if the build is given the four turns that
it takes at most. A run without trouble comes to the first stage; all that it has changed is that there
is a new workspace. -/
theorem trouble_told (programs : Programs State) (site : Site) (invocation : Invocation)
    (world : World) :
    (∀ complaint, Trouble site invocation world complaint → ∀ choices : List Choice,
      Traceless world (run programs choices site invocation world) ∧
      ((run programs choices site invocation world).ending = .failure complaint ∧
          (run programs choices site invocation world).ending.code? = some 1 ∨
        (run programs choices site invocation world).ending = .unfinished ∧
          choices.count (.job 0) < 4)) ∧
    ((∀ complaint, ¬ Trouble site invocation world complaint) →
      ∃ builder request, (prepare site world.files invocation).result = .ok (builder, request) ∧
        builder.workspaceRoot? = invocation.tempDir? ∧ ∃ workspace name dir,
          Enters ⟨programs, site.setting, builder, world, request⟩ workspace name dir) := by
  constructor
  · intro complaint trouble choices
    have code := trouble.code
    suffices told : Traceless world (run programs choices site invocation world) ∧
        ((run programs choices site invocation world).ending = .failure complaint ∨
          (run programs choices site invocation world).ending = .unfinished ∧
            choices.count (.job 0) < 4) by
      refine told.imp_right (Or.imp_left fun ends => ⟨ends, ?_⟩)
      rw [ends]
      exact congrArg some code
    cases trouble with
    | tool missing first =>
      refine (unprepared_run programs choices ?_).imp_right .inl
      unfold prepare
      simp only [resolve_missing missing first]
    | source tools unreadable =>
      refine (unprepared_run programs choices ?_).imp_right .inl
      obtain ⟨toolchain, resolved⟩ := resolve_found tools
      unfold prepare
      simp only [resolved, read_fault unreadable]
    | runtime tools readable missing =>
      obtain ⟨toolchain, request, prepared⟩ := prepare_ok tools readable
      exact unopened_run programs choices prepared
        (.inl ⟨ne_true_of_eq_false missing, rfl⟩)
    | workspace tools readable present refused =>
      obtain ⟨toolchain, request, prepared⟩ := prepare_ok tools readable
      exact unopened_run programs choices prepared (.inr ⟨present, refused⟩)
  · intro fine
    have tools := resolves_of_first fun tool first => by
      by_contra missing
      exact fine _ (.tool missing first)
    have readable : ∀ cause, ¬ SourceFault site world.files invocation cause :=
      fun cause unreadable => fine _ (.source tools unreadable)
    have present : world.files.isFile site.cwd (runtimeSource site world.files invocation) = true := by
      by_contra missing
      exact fine _ (.runtime tools readable (Bool.eq_false_iff.mpr missing))
    obtain ⟨toolchain, request, prepared⟩ := prepare_ok tools readable
    refine ⟨_, request, prepared, rfl, ?_⟩
    let solo : Solo State :=
      ⟨programs, site.setting, builder site world.files toolchain invocation, world, request⟩
    cases made : solo.creation.2 with
    | error failure =>
      obtain ⟨⟨cause, rfl⟩, _⟩ := create_error (made ▸ solo.creation_eq)
      exact absurd (.workspace tools readable present made) (fine _)
    | ok workspace => exact ⟨workspace, @enters _ solo present workspace made⟩

/-! ### Two runs -/

/-- A machine on which tools are searched in the directory `/b`. -/
def bench : Site := ⟨[], ⟨[(Bytes.ofText "PATH", Bytes.ofText "/b")]⟩, fun _ => [0x61], none, [0x2F]⟩

/-- Some programs in the directory `/b`, and some files with the text `1` in the root. -/
def benchWorld (tools files : List String) : World where
  files := tools.foldl
    (fun made tool => made.put [Bytes.ofText tool, [0x62]] (.file Mode.ofMachine []))
    (files.foldl (fun made file => made.put [Bytes.ofText file] (.file Mode.ofFile [0x31]))
      ((FileSystem.empty.put [[0x62]] (.directory Mode.ofDirectory)).put [[0x74]]
        (.directory Mode.ofDirectory)))
  flag := .lowered
  clock := 0
  drawn := 0

/-- The source `/s`, the source `/r` of the run-time support, and the directory `/t` for workspaces. -/
def benchInvocation : Invocation where
  file := Bytes.ofText "/s"
  output? := none
  verbose := false
  toolDirs := []
  runtime? := some (Bytes.ofText "/r")
  timeout? := none
  tempDir? := some (Bytes.ofText "/t")

theorem resolves_bench_iff {files : FileSystem} {tool : Tool} :
    Resolves bench files benchInvocation tool ↔
      files.isExecutable [] (Path.join (Bytes.ofText "/b") (Bytes.ofText tool.program)) = true := by
  have dirs : (bench.searchPath benchInvocation).dirs = [Bytes.ofText "/b"] := by cbv
  unfold Resolves
  rw [dirs]
  simp only [List.mem_singleton, exists_eq_left]
  rfl

/-- Without the last tool, the source and the source of the run-time support, the tool is told. -/
theorem trouble_bench : Trouble bench benchInvocation (benchWorld ["calcc", "clang"] [])
    (.during "failed to resolve toolchain" (.failed (.toolNotFound .backend))) := by
  have found (tool : Tool) : (benchWorld ["calcc", "clang"] []).files.isExecutable []
      (Path.join (Bytes.ofText "/b") (Bytes.ofText tool.program)) = (tool != .backend) := by
    cases tool <;> cbv
  refine .tool ?_ fun other before => ?_
  · rw [resolves_bench_iff, found]
    decide
  · rw [resolves_bench_iff, found]
    revert before
    cases other <;> decide

/-- With all of them the tools are found. -/
theorem resolves_bench (tool : Tool) :
    Resolves bench (benchWorld ["calcc", "clang", "llc"] ["s", "r"]).files benchInvocation tool := by
  rw [resolves_bench_iff]
  cases tool <;> cbv

/-- With all of them the source can be read, and is text. -/
theorem readable_bench (cause : Cause) : ¬ SourceFault bench
    (benchWorld ["calcc", "clang", "llc"] ["s", "r"]).files benchInvocation cause := by
  have reads : (benchWorld ["calcc", "clang", "llc"] ["s", "r"]).files.read [] (Bytes.ofText "/s")
      = .ok [0x31] := by cbv
  intro unreadable
  cases unreadable with
  | unreadable fails => cases fails.symm.trans reads
  | notText contents broken =>
    cases contents.symm.trans reads
    exact absurd broken (by cbv; simp)

/-- With all of them nothing is wrong. -/
theorem no_trouble_bench (complaint : Complaint) : ¬ Trouble bench benchInvocation
    (benchWorld ["calcc", "clang", "llc"] ["s", "r"]) complaint := by
  rintro (@⟨tool, missing, _⟩ | ⟨_, unreadable⟩ | ⟨_, _, missing⟩ | ⟨_, _, _, refused⟩)
  · exact missing (resolves_bench tool)
  · exact readable_bench _ unreadable
  · have present : (benchWorld ["calcc", "clang", "llc"] ["s", "r"]).files.isFile []
        (Bytes.ofText "/r") = true := by cbv
    exact absurd (present.symm.trans missing) (by decide)
  · have made : (Workspace.create bench.setting benchInvocation.tempDir?
        (benchWorld ["calcc", "clang", "llc"] ["s", "r"])).2 = .ok ⟨Bytes.ofText "/t/calcca"⟩ := by cbv
    cases made.symm.trans refused

/-- Given the turns it takes, the first run tells of the tool; the second one comes to the first
stage. -/
theorem trouble_told_bench :
    (∀ (programs : Programs Unit) (choices : List Choice), 4 ≤ choices.count (.job 0) →
      (run programs choices bench benchInvocation (benchWorld ["calcc", "clang"] [])).ending
        = .failure (.during "failed to resolve toolchain" (.failed (.toolNotFound .backend)))) ∧
    ∀ programs : Programs Unit, ∃ builder request workspace name dir,
      Enters ⟨programs, bench.setting, builder,
        benchWorld ["calcc", "clang", "llc"] ["s", "r"], request⟩ workspace name dir := by
  constructor
  · intro programs choices enough
    obtain ⟨_, ends | ⟨_, few⟩⟩ := (trouble_told programs bench benchInvocation _).1 _ trouble_bench choices
    · exact ends.1
    · omega
  · intro programs
    obtain ⟨builder, request, _, _, workspace, name, dir, enters⟩ :=
      (trouble_told programs bench benchInvocation _).2 no_trouble_bench
    exact ⟨builder, request, workspace, name, dir, enters⟩

end CalcBuild.CommandLine

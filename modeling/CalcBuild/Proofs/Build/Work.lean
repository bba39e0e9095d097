/-
**The work of the four stages.**

What a stage needs and what it leaves is said of the files alone: a command works if, among files of one
kind, its inputs exist and its process finishes with success, and leaves files of another kind. The four
commands of a build work one after the other on the desk that its workspace is.

* `Works`, `StagePhase.Goes`: commands that work, and the stage of such a command on its way;
* `Feasible`: what a build needs to find;
* `Feasible.compile_works`, `Feasible.frontend_works`, `Feasible.lower_works`, `Feasible.link_works`: what
  each stage starts from and leaves, and that it does.
-/

import CalcBuild.Proofs.Build.Desk
import CalcBuild.Proofs.Build.Turns

namespace CalcBuild

open Files FileSystem

variable {State : Type}

/-! ### Stages that work -/

/-- Among files of one kind the inputs of a command exist and its process starts and finishes with
success; it leaves files of another kind, and among these its artifact exists. -/
structure Works (programs : Programs State) (setting : Setting) (harmless : Nat → Prop)
    (command : Command) (before after : FileSystem → Prop) : Prop where
  complete : ∀ {fs : FileSystem}, before fs → StageRun.missingInput? setting fs command = none
  finishes : ∀ {fs : FileSystem}, before fs → ∃ state fs',
    programs.start fs (command.launch setting) = .ok state ∧
      programs.Finishes harmless fs state fs' (.exited 0) ∧ after fs'
  makes : ∀ {fs : FileSystem}, after fs → fs.pathExists setting.cwd command.output = true

/-- Where the stage of a command that works stands, and what is said of the files then. -/
def StagePhase.Goes (programs : Programs State) (harmless : Nat → Prop)
    (before after : FileSystem → Prop) (fs : FileSystem) : StagePhase State → Prop
  | .ready | .inspecting | .launching => before fs
  | .waiting (.running state _) .. =>
    ∃ fs', programs.Finishes harmless fs state fs' (.exited 0) ∧ after fs'
  | .waiting (.ended status) .. | .collected status _ => status = .exited 0 ∧ after fs
  | .finished (.ok _) => after fs
  | .finished (.error _) => False

section Going

variable {programs : Programs State} {setting : Setting} {harmless : Nat → Prop}
  {command : Command} {before after : FileSystem → Prop}

/-- **A step of a stage whose command works** goes on, if nothing cancels it and it is in time. -/
theorem StagePhase.Goes.step {options : StageOptions} {world : World} {phase phase' : StagePhase State}
    {events : List Event} (goes : phase.Goes programs harmless before after world.files)
    (works : Works programs setting harmless command before after)
    (uncancelled : options.cancelledBy world.flag = none)
    (onTime : ∀ state wakes since due timeout, phase = .waiting (.running state wakes) since due →
      options.timeout? = some timeout → world.clock - since < timeout)
    (steps : StageRun.Step programs setting options world command phase phase' events) :
    phase'.Goes programs harmless before after world.files := by
  cases steps with
  | cancelled raised | interrupted raised =>
    rw [uncancelled] at raised
    cases raised
  | admitted lowered => exact goes
  | deprived missing =>
    rw [works.complete goes] at missing
    cases missing
  | inspected complete => exact goes
  | unspawned fails =>
    obtain ⟨state, _, starts, _⟩ := works.finishes goes
    rw [starts] at fails
    cases fails
  | launched starts =>
    obtain ⟨state, fs', starts', finishes⟩ := works.finishes goes
    rw [starts] at starts'
    cases starts'
    exact ⟨fs', finishes⟩
  | reaped => exact goes
  | timedOut _ limit late =>
    have early := onTime _ _ _ _ _ rfl limit
    omega
  | looked => exact goes
  | rejected reason =>
    obtain ⟨rfl, done⟩ := goes
    have success : (WaitStatus.exited 0).isSuccess = true := by decide
    simp [StageRun.rejection?, success, works.makes done] at reason
  | accepted fine => exact goes.2

/-- **A step of its process** goes on as well. -/
theorem StagePhase.Goes.process {fs : FileSystem} {state : State} {wakes since due : Nat}
    (goes : StagePhase.Goes programs harmless before after fs
      (.waiting (.running state wakes) since due))
    {child : Child State} (follows : child.Follows (programs.step fs state).2) :
    StagePhase.Goes programs harmless before after (programs.step fs state).1
      (.waiting child since due) := by
  obtain ⟨fs', finishes, done⟩ := goes
  rcases finishes.next follows with ⟨rfl, rfl⟩ | ⟨next, wakes', rfl, rest⟩
  · exact ⟨rfl, done⟩
  · exact ⟨fs', rest, done⟩

end Going

namespace Solo

variable (solo : Solo State)

/-! ### What a build needs -/

/-- The directory for workspaces. -/
def root : Bytes := solo.builder.workspaceRoot?.getD solo.setting.temporaryRoot

/-- The files of a build before its first step, with the missing directories of the output. -/
def grown : FileSystem :=
  (solo.world.files.makeDirectories solo.setting.cwd (Staging.directory solo.request.output)).1

/-- The places looked at on the way to the directory for workspaces. -/
def approach : List Place :=
  solo.world.files.trail true linkLimit [] (Path.names (solo.setting.anchor solo.root))

/-- **What a build needs to find**: tools that compute, the source of the run-time support, a usable
directory for workspaces, and an output whose directory exists or can be made and is usable, and which
is no directory. No argument has a zero byte. The names drawn for workspaces are none that the output
needs, and the way to the directory for workspaces does not lead through the output. -/
structure Feasible (tools : Tools) (runtime : Bytes) (temporary beside dir : Place) (name : Bytes) :
    Prop where
  sound : solo.world.files.Sound
  here : solo.world.files.isDirectoryAt solo.setting.cwd = true
  source : solo.world.files.isFile solo.setting.cwd solo.builder.runtimeSource = true
  contents : solo.world.files.read solo.setting.cwd solo.builder.runtimeSource = .ok runtime
  clean : ∀ argument ∈ [Bytes.ofText solo.request.sourceText, solo.builder.runtimeSource,
      solo.builder.toolchain.cCompiler, solo.builder.toolchain.frontend,
      solo.builder.toolchain.backend], (0 : UInt8) ∉ argument
  tools : tools.Implemented solo.programs solo.setting.IsHarmless solo.setting
    solo.builder.toolchain solo.world.files
  workspace : Usable solo.setting solo.world.files solo.root Workspace.stem 10 temporary
  parents : (solo.world.files.makeDirectories solo.setting.cwd
    (Staging.directory solo.request.output)).2 = .ok ()
  staging : Usable solo.setting solo.grown (Staging.directory solo.request.output) Staging.stem 0
    beside
  output : solo.grown.ending solo.setting.cwd solo.request.output = .ok (.name dir name false)
  short : name.length ≤ longestName
  allowed : solo.grown.mayChange dir = true
  leaf : solo.grown.isDirectoryAt (name :: dir) = false
  fresh : ∀ drawn, solo.world.files.get? ((Workspace.stem ++ solo.setting.names drawn) :: temporary)
      = none →
    solo.grown.get? ((Workspace.stem ++ solo.setting.names drawn) :: temporary) = none ∧
      (Workspace.stem ++ solo.setting.names drawn) :: temporary ≠ name :: dir
  apart : name :: dir ∉ solo.approach

/-- The workspace under a name that is drawn. -/
def workspaceOf (drawn : Nat) : Workspace :=
  ⟨Usable.path solo.setting solo.root Workspace.stem drawn⟩

/-- The path that the linker writes to under a name that is drawn. -/
def stagingOf (drawn : Nat) : Bytes :=
  Usable.path solo.setting (Staging.directory solo.request.output) Staging.stem drawn

/-- The place of a workspace. -/
def workspacePlace (temporary : Place) (drawn : Nat) : Place :=
  (Workspace.stem ++ solo.setting.names drawn) :: temporary

/-- The place of what the linker writes. -/
def stagingPlace (beside : Place) (drawn : Nat) : Place :=
  (Staging.stem ++ solo.setting.names drawn) :: beside

variable {solo}

theorem grown_madeBy : MadeBy solo.setting.cwd
    (Path.ancestors (Staging.directory solo.request.output)) solo.world.files solo.grown :=
  makeDirectories_madeBy _ _ _

theorem grown_extends : solo.grown.Extends solo.world.files := grown_madeBy.grows.extends

/-- A place for the linker is neither a workspace nor in one. -/
theorem staging_outside {base fs : FileSystem} {made : List (Bytes × Bytes)}
    {temporary beside : Place} {drawn : Nat} (number : Nat)
    (directory : base.isDirectoryAt beside = true)
    (desk : Desk base (solo.workspacePlace temporary drawn) made fs) :
    ¬ isWithin (solo.workspacePlace temporary drawn) (solo.stagingPlace beside number) = true := by
  refine desk.beside.outside_of_directory directory fun same => ?_
  have names : Staging.stem ++ solo.setting.names number = Workspace.stem ++ solo.setting.names drawn :=
    (List.cons.inj same).1
  have heads := congrArg List.head? names
  have dot : Staging.stem.head? = some 0x2E := by decide
  have letter : Workspace.stem.head? = some 0x63 := by decide
  rw [List.head?_append, List.head?_append, dot, letter] at heads
  cases heads

namespace Feasible

variable {tools : Tools} {runtime : Bytes} {temporary beside dir : Place} {name : Bytes}
  {base fs : FileSystem} {made : List (Bytes × Bytes)} {drawn : Nat}
  (feasible : solo.Feasible tools runtime temporary beside dir name)
include feasible

theorem grown_sound : solo.grown.Sound := grown_madeBy.sound feasible.sound

/-- What is on the way to the directory for workspaces exists. -/
theorem approach_listed {place : Place} (member : place ∈ solo.approach) :
    (solo.world.files.get? place).isSome :=
  (trail_present feasible.sound.closed rfl feasible.workspace.leads place member).resolve_right nofun

/-- **The path of a workspace denotes it** among files in which the way there is as it was, and its
directory may be changed. -/
theorem workspace_ends (desk : Desk base (solo.workspacePlace temporary drawn) made fs)
    (steady : ∀ place ∈ solo.approach, base.get? place = solo.world.files.get? place) :
    fs.ending solo.setting.cwd (solo.workspaceOf drawn).path
        = .ok (.name temporary (Workspace.stem ++ solo.setting.names drawn) false) ∧
      fs.mayChange temporary = true := by
  have same : ∀ place ∈ solo.approach, fs.get? place = solo.world.files.get? place := by
    intro place member
    have listed : (base.get? place).isSome := by
      rw [steady place member]
      exact feasible.approach_listed member
    exact (desk.beside.same place (desk.beside.outside_of_isSome listed)).trans (steady place member)
  have here := same temporary (mem_trail_end feasible.workspace.leads)
  constructor
  · refine feasible.workspace.ends ?_ here drawn
    rw [(walk_congr same).1]
    exact feasible.workspace.leads
  · rw [mayChange_congr here]
    exact feasible.workspace.allowed

/-- The path of a workspace has no zero byte. -/
theorem workspace_clean (drawn : Nat) : (0 : UInt8) ∉ (solo.workspaceOf drawn).path := by
  intro member
  obtain ⟨_, bytes⟩ :=
    Path.join_bytes (solo.setting.anchor solo.root) (Workspace.stem ++ solo.setting.names drawn)
  rcases bytes 0 member with before | slashed | after
  · exact feasible.workspace.clean before
  · cases slashed
  · exact feasible.workspace.cleanName drawn after

/-- A lookup starts at an entry. -/
theorem starts (path : Bytes) : (solo.world.files.get? (start solo.setting.cwd path)).isSome := by
  unfold start
  split
  · rfl
  · obtain ⟨mode, found⟩ := isDirectoryAt_iff.mp feasible.here
    rw [found]
    rfl

/-- The source of the run-time support is read as before among files that have all entries. -/
theorem source_read (extension : fs.Extends solo.world.files) :
    fs.read solo.setting.cwd solo.builder.runtimeSource = .ok runtime ∧
      fs.pathExists solo.setting.cwd solo.builder.runtimeSource = true := by
  have read := feasible.contents
  unfold FileSystem.read at read ⊢
  unfold pathExists status?
  cases finds : solo.world.files.find solo.setting.cwd true solo.builder.runtimeSource with
  | error fault => simp [finds] at read
  | ok found =>
    rw [find_extends feasible.sound.closed extension (feasible.starts _) finds]
    rw [finds] at read
    exact ⟨read, rfl⟩

end Feasible

/-! ### What is made on the way -/

/-- The names of the artifacts in a workspace. -/
def artifactNames : List Bytes :=
  [Bytes.ofText "runtime.o", Bytes.ofText "expr.ll", Bytes.ofText "expr.o"]

theorem artifactNames_fit : ∀ leaf ∈ artifactNames,
    Path.IsLeaf leaf ∧ leaf.length ≤ 9 ∧ (0 : UInt8) ∉ leaf := by
  intro leaf member
  simp only [artifactNames, List.mem_cons, List.not_mem_nil, or_false] at member
  rcases member with rfl | rfl | rfl <;> exact ⟨⟨by decide, by decide⟩, by decide, by decide⟩

/-- The path of an artifact denotes it, and has no zero byte. -/
theorem Feasible.artifact {tools : Tools} {runtime : Bytes} {temporary beside dir : Place}
    {name : Bytes} (feasible : solo.Feasible tools runtime temporary beside dir name)
    {base fs : FileSystem} {made : List (Bytes × Bytes)} {drawn : Nat}
    (desk : Desk base (solo.workspacePlace temporary drawn) made fs)
    (steady : ∀ place ∈ solo.approach, base.get? place = solo.world.files.get? place)
    {leaf : Bytes} (listed : leaf ∈ artifactNames) :
    fs.ending solo.setting.cwd (Path.join (solo.workspaceOf drawn).path leaf)
        = .ok (.name (solo.workspacePlace temporary drawn) leaf false) ∧
      (0 : UInt8) ∉ Path.join (solo.workspaceOf drawn).path leaf := by
  obtain ⟨isLeaf, small, clean⟩ := artifactNames_fit leaf listed
  obtain ⟨length, _⟩ :=
    Path.join_bytes (solo.setting.anchor solo.root) (Workspace.stem ++ solo.setting.names drawn)
  have short := feasible.workspace.shortPath drawn
  have cleanPath := feasible.workspace_clean drawn
  obtain ⟨ends, _⟩ := feasible.workspace_ends desk steady
  have absolute : Path.isAbsolute (solo.workspaceOf drawn).path = true :=
    Path.isAbsolute_join (Workspace.stem ++ solo.setting.names drawn)
      (solo.setting.isAbsolute_anchor solo.root)
  have fits : (solo.workspaceOf drawn).path.length + 1 + leaf.length < pathLimit := by
    have same : (solo.workspaceOf drawn).path = Path.join (solo.setting.anchor solo.root)
        (Workspace.stem ++ solo.setting.names drawn) := rfl
    rw [same]
    omega
  constructor
  · exact desk.artifact_ends ends (feasible.workspace.shortName drawn) absolute isLeaf
      (pathFault?_join isLeaf cleanPath clean fits)
  · intro member
    rcases (Path.join_bytes _ _).2 0 member with before | slashed | after
    · exact cleanPath before
    · cases slashed
    · exact clean after

/-- The artifacts in the workspace when a stage begins. -/
def artifacts (tools : Tools) (text runtime : Bytes) (stage : Stage) : List (Bytes × Bytes) :=
  let runtimeObject := (Bytes.ofText "runtime.o", tools.compile runtime)
  let ir := (Bytes.ofText "expr.ll", tools.frontend text)
  let object := (Bytes.ofText "expr.o", tools.lower (tools.frontend text))
  match stage with
  | .runtimeCompile => []
  | .frontendCompile => [runtimeObject]
  | .lower => [ir, runtimeObject]
  | .link => [object, ir, runtimeObject]

/-! ### Commands that work -/

variable (solo)

/-- The source text as the front end is given it. -/
def text : Bytes := Bytes.ofText solo.request.sourceText

/-- The command of a stage in the workspace under a name that is drawn. -/
def command (drawn : Nat) (stage : Stage) : Command :=
  let workspace := solo.workspaceOf drawn
  let making := Command.making solo.builder.toolchain stage
  match stage with
  | .runtimeCompile =>
    making [Bytes.ofText "-w", Bytes.ofText "-c", solo.builder.runtimeSource]
      [solo.builder.runtimeSource] workspace.runtimeObject
  | .frontendCompile => making [solo.text] [] workspace.exprIr
  | .lower =>
    making [Bytes.ofText "--filetype=obj", workspace.exprIr] [workspace.exprIr] workspace.exprObject
  | .link =>
    making [workspace.exprObject, workspace.runtimeObject, Bytes.ofText "-lc", Bytes.ofText "-lm"]
      [workspace.exprObject, workspace.runtimeObject] solo.request.output

variable {solo}

/-- None of the byte strings has a zero byte. -/
def AllClean : List Bytes → Prop
  | [] => True
  | first :: rest => (0 : UInt8) ∉ first ∧ AllClean rest

theorem isClean_launch {setting : Setting} {program : Bytes} {arguments : List Bytes}
    (clean : (0 : UInt8) ∉ program) (rest : AllClean arguments) :
    (setting.launch program arguments).IsClean := by
  refine List.forall_mem_cons.mpr ⟨clean, ?_⟩
  show ∀ argument ∈ arguments, (0 : UInt8) ∉ argument
  induction arguments with
  | nil => exact nofun
  | cons first others ih => exact List.forall_mem_cons.mpr ⟨rest.1, ih rest.2⟩

theorem missingInput?_eq_none {fs : FileSystem} {command : Command}
    (complete : ∀ input ∈ command.inputs, fs.pathExists solo.setting.cwd input = true) :
    StageRun.missingInput? solo.setting fs command = none := by
  refine List.find?_eq_none.mpr fun input member => ?_
  simp [complete input member]

section Working

variable {tools : Tools} {runtime : Bytes} {temporary beside dir : Place} {name : Bytes}
  {drawn : Nat} (feasible : solo.Feasible tools runtime temporary beside dir name)
include feasible

/-- An artifact of the workspace can be read. -/
theorem Feasible.artifact_read {base fs : FileSystem} {made : List (Bytes × Bytes)}
    (desk : Desk base (solo.workspacePlace temporary drawn) made fs)
    (steady : ∀ place ∈ solo.approach, base.get? place = solo.world.files.get? place)
    {leaf contents : Bytes} (named : leaf ∈ artifactNames)
    (listed : made.lookup leaf = some contents) :
    fs.read solo.setting.cwd (Path.join (solo.workspaceOf drawn).path leaf) = .ok contents ∧
      fs.pathExists solo.setting.cwd (Path.join (solo.workspaceOf drawn).path leaf) = true := by
  obtain ⟨_, small, _⟩ := artifactNames_fit leaf named
  have limit : longestName = 255 := rfl
  exact desk.artifact_read (feasible.artifact desk steady named).1 (by omega) listed

/-- **A command that makes an artifact works** if its inputs exist and its tool makes a file. -/
theorem Feasible.works {command : Command} {made : List (Bytes × Bytes)} {leaf contents : Bytes}
    (named : leaf ∈ artifactNames) (new : made.lookup leaf = none)
    (output : command.output = Path.join (solo.workspaceOf drawn).path leaf)
    (inputs : ∀ {fs : FileSystem},
      Desk solo.world.files (solo.workspacePlace temporary drawn) made fs →
      ∀ input ∈ command.inputs, fs.pathExists solo.setting.cwd input = true)
    (makes : ∀ {fs : FileSystem},
      Desk solo.world.files (solo.workspacePlace temporary drawn) made fs →
      solo.programs.Makes solo.setting.IsHarmless fs (command.launch solo.setting)
        (Path.join (solo.workspaceOf drawn).path leaf)
        fun mode written => mode.mayRead = true ∧ written = contents) :
    Works solo.programs solo.setting solo.setting.IsHarmless command
      (Desk solo.world.files (solo.workspacePlace temporary drawn) made)
      (Desk solo.world.files (solo.workspacePlace temporary drawn) ((leaf, contents) :: made)) where
  complete := fun desk => missingInput?_eq_none (inputs desk)
  finishes := by
    intro fs desk
    obtain ⟨_, small, _⟩ := artifactNames_fit leaf named
    have limit : longestName = 255 := rfl
    have ends := (feasible.artifact desk (fun _ _ => rfl) named).1
    obtain ⟨state, fs', mode, written, starts, finishes, sound, ⟨readable, rfl⟩, view⟩ :=
      makes desk _ leaf ends (by omega) (desk.free leaf new)
        (mayChange_iff.mpr ⟨_, desk.own, by decide⟩)
    exact ⟨state, fs', starts, finishes, desk.add sound readable view⟩
  makes := by
    intro fs desk
    rw [output]
    exact (feasible.artifact_read desk (fun _ _ => rfl) named (List.lookup_cons_self ..)).2

/-- What holds of the desk when a stage begins. -/
theorem Feasible.compile_works : Works solo.programs solo.setting solo.setting.IsHarmless
    (solo.command drawn .runtimeCompile)
    (Desk solo.world.files (solo.workspacePlace temporary drawn)
      (artifacts tools solo.text runtime .runtimeCompile))
    (Desk solo.world.files (solo.workspacePlace temporary drawn)
      (artifacts tools solo.text runtime .frontendCompile)) := by
  refine feasible.works (by decide) rfl rfl (fun desk input member => ?_) fun desk => ?_
  · obtain rfl := List.mem_singleton.mp member
    exact (feasible.source_read desk.beside.extends_).2
  · have clean := feasible.clean
    have output := (feasible.artifact desk (fun _ _ => rfl)
      (show Bytes.ofText "runtime.o" ∈ artifactNames by decide)).2
    refine feasible.tools.compile desk.sound desk.beside.extends_ ?_
      (feasible.source_read desk.beside.extends_).1
    exact isClean_launch (clean _ (by simp)) ⟨by decide, by decide, clean _ (by simp), by decide,
      output, trivial⟩

theorem Feasible.frontend_works : Works solo.programs solo.setting solo.setting.IsHarmless
    (solo.command drawn .frontendCompile)
    (Desk solo.world.files (solo.workspacePlace temporary drawn)
      (artifacts tools solo.text runtime .frontendCompile))
    (Desk solo.world.files (solo.workspacePlace temporary drawn)
      (artifacts tools solo.text runtime .lower)) := by
  refine feasible.works (by decide) rfl rfl (fun desk input member => nomatch member)
    fun desk => ?_
  have clean := feasible.clean
  have output := (feasible.artifact desk (fun _ _ => rfl)
    (show Bytes.ofText "expr.ll" ∈ artifactNames by decide)).2
  exact feasible.tools.frontend desk.sound desk.beside.extends_
    (isClean_launch (clean _ (by simp)) ⟨clean _ (by simp [text]), by decide, output, trivial⟩)

theorem Feasible.lower_works : Works solo.programs solo.setting solo.setting.IsHarmless
    (solo.command drawn .lower)
    (Desk solo.world.files (solo.workspacePlace temporary drawn)
      (artifacts tools solo.text runtime .lower))
    (Desk solo.world.files (solo.workspacePlace temporary drawn)
      (artifacts tools solo.text runtime .link)) := by
  have named : Bytes.ofText "expr.ll" ∈ artifactNames := by decide
  refine feasible.works (by decide) rfl rfl (fun desk input member => ?_) fun desk => ?_
  · obtain rfl := List.mem_singleton.mp member
    exact (feasible.artifact_read desk (fun _ _ => rfl) named rfl).2
  · have clean := feasible.clean
    have input := (feasible.artifact desk (fun _ _ => rfl) named).2
    have output := (feasible.artifact desk (fun _ _ => rfl)
      (show Bytes.ofText "expr.o" ∈ artifactNames by decide)).2
    refine feasible.tools.lower desk.sound desk.beside.extends_ ?_
      (feasible.artifact_read desk (fun _ _ => rfl) named rfl).1
    exact isClean_launch (clean _ (by simp)) ⟨by decide, input, by decide, output, trivial⟩

/-! ### The linker -/

/-- **The path that the linker writes to denotes its place** among files that have all entries, and its
directory may be changed. -/
theorem Feasible.staging_ends {fs : FileSystem} (extension : fs.Extends solo.grown) (number : Nat) :
    fs.ending solo.setting.cwd (solo.stagingOf number)
        = .ok (.name beside (Staging.stem ++ solo.setting.names number) false) ∧
      fs.mayChange beside = true := by
  have leads := walk_extends feasible.grown_sound.closed extension rfl feasible.staging.leads
  obtain ⟨mode, found, _⟩ := mayChange_iff.mp feasible.staging.allowed
  have here : fs.get? beside = solo.grown.get? beside := extension beside (by rw [found]; rfl)
  constructor
  · exact feasible.staging.ends leads here number
  · rw [mayChange_congr here]
    exact feasible.staging.allowed

/-- The way to the directory for workspaces is as it was after the missing directories were made. -/
theorem Feasible.grown_steady {place : Place} (member : place ∈ solo.approach) :
    solo.grown.get? place = solo.world.files.get? place :=
  grown_extends place (feasible.approach_listed member)

/-- The path that the linker writes to has no zero byte. -/
theorem Feasible.staging_clean (number : Nat) : (0 : UInt8) ∉ solo.stagingOf number := by
  intro member
  obtain ⟨_, bytes⟩ := Path.join_bytes
    (solo.setting.anchor (Staging.directory solo.request.output))
    (Staging.stem ++ solo.setting.names number)
  rcases bytes 0 member with before | slashed | after
  · exact feasible.staging.clean before
  · cases slashed
  · exact feasible.staging.cleanName number after

variable {number : Nat} (free : solo.grown.get? (solo.stagingPlace beside number) = none)
include free

/-- **The linker works**: it makes the executable at its place, from both objects. -/
theorem Feasible.link_works : Works solo.programs solo.setting solo.setting.IsHarmless
    ((solo.command drawn .link).redirect (solo.stagingOf number))
    (Desk solo.grown (solo.workspacePlace temporary drawn)
      (artifacts tools solo.text runtime .link))
    (Desk (solo.grown.put (solo.stagingPlace beside number)
        (.file (tools.executable solo.text runtime).1 (tools.executable solo.text runtime).2))
      (solo.workspacePlace temporary drawn) (artifacts tools solo.text runtime .link)) := by
  have object : Bytes.ofText "expr.o" ∈ artifactNames := by decide
  have runtimeObject : Bytes.ofText "runtime.o" ∈ artifactNames := by decide
  have steady : ∀ place ∈ solo.approach, solo.grown.get? place = solo.world.files.get? place :=
    fun _ member => feasible.grown_steady member
  obtain ⟨mode, directory, _⟩ := mayChange_iff.mp feasible.staging.allowed
  have parent : solo.grown.isDirectoryAt beside = true := isDirectoryAt_iff.mpr ⟨mode, directory⟩
  have short := feasible.staging.shortName number
  have proper : solo.stagingPlace beside number ≠ [] := List.cons_ne_nil _ _
  refine ⟨fun desk => missingInput?_eq_none fun input member => ?_, fun desk => ?_, fun desk => ?_⟩
  · rcases List.mem_cons.mp member with rfl | member
    · exact (feasible.artifact_read desk steady object rfl).2
    · obtain rfl := List.mem_singleton.mp member
      exact (feasible.artifact_read desk steady runtimeObject rfl).2
  · have extension := desk.beside.extends_
    have outside := staging_outside number parent desk
    obtain ⟨ends, allowed⟩ := feasible.staging_ends extension number
    obtain ⟨state, fs', mode, contents, starts, finishes, sound, made, view⟩ :=
      feasible.tools.link desk.sound (extension.trans grown_extends)
        (isClean_launch (feasible.clean _ (by simp))
          ⟨(feasible.artifact desk steady object).2, (feasible.artifact desk steady runtimeObject).2,
            by decide, by decide, by decide, feasible.staging_clean number, trivial⟩)
        (feasible.artifact_read desk steady object rfl).1
        (feasible.artifact_read desk steady runtimeObject rfl).1
        _ _ ends short ((desk.beside.same _ outside).trans free) allowed
    refine ⟨state, fs', starts, finishes, ?_⟩
    have executable : tools.executable solo.text runtime = (mode, contents) := made.symm
    rw [executable]
    exact desk.put sound parent (isDirectoryAt_free free) outside view
  · have extension : (solo.grown.put (solo.stagingPlace beside number)
        (.file (tools.executable solo.text runtime).1 (tools.executable solo.text runtime).2)).Extends
          solo.grown := extends_put _ proper free
    obtain ⟨ends, _⟩ := feasible.staging_ends (desk.beside.extends_.trans extension) number
    have directory' := extension beside (by rw [directory]; rfl)
    have outside := staging_outside number
      (isDirectoryAt_iff.mpr ⟨mode, directory'.trans directory⟩) desk
    have found := desk.beside.same _ outside
    rw [get?_put _ _ _ proper, if_pos rfl] at found
    show FileSystem.pathExists _ _ (solo.stagingOf number) = true
    unfold pathExists status?
    rw [@find_entry _ _ _ _ _ ends short _ found true (.inr nofun)]
    rfl

end Working

end Solo

end CalcBuild

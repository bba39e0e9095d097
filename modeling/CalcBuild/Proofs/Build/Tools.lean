/-
**What the tools and the surroundings have to provide.**

A build can only succeed if its tools do their work and if there is room for its files. Here both are
stated: each tool computes contents from the contents that it is given, and a directory is usable if
names can be drawn in it.

* `Tools`, `Tools.Implemented`: what the tools compute, and machines that have such tools;
* `Tools.machine`: one of these machines;
* `Usable`: directories in which names can be drawn;
* `Usable.create`, `Usable.reserve`: a workspace can be made there, or a name for the linker reserved.
-/

import CalcBuild.Build.Staging
import CalcBuild.Build.Workspace
import CalcBuild.Proofs.Build.Reserve
import CalcBuild.Proofs.Process.Finishing

namespace CalcBuild

open Files FileSystem

variable {State : Type}

/-! ### Tools -/

/-- What the tools compute from the contents that they are given. -/
structure Tools where
  compile : Bytes → Bytes
  frontend : Bytes → Bytes
  lower : Bytes → Bytes
  /-- The first object is that of the source, the second one that of the run-time support. -/
  link : Bytes → Bytes → Mode × Bytes

/-- The executable that the tools make of a text and the source of the run-time support. -/
def Tools.executable (tools : Tools) (text runtime : Bytes) : Mode × Bytes :=
  tools.link (tools.lower (tools.frontend text)) (tools.compile runtime)

/-- A launch makes a file: if its output path denotes a free name in a directory that may be changed,
its process starts, finishes with status zero, and leaves a file that fits there, and nothing else. -/
def Programs.Makes (programs : Programs State) (harmless : Nat → Prop) (fs : FileSystem)
    (launch : Launch) (output : Bytes) (fits : Mode → Bytes → Prop) : Prop :=
  ∀ dir name, fs.ending launch.cwd output = .ok (.name dir name false) →
    name.length ≤ longestName → fs.get? (name :: dir) = none → fs.mayChange dir = true →
    ∃ state fs' mode contents, programs.start fs launch = .ok state ∧
      programs.Finishes harmless fs state fs' (.exited 0) ∧ fs'.Sound ∧ fits mode contents ∧
      ∀ place, fs'.get? place
        = if place = name :: dir then some (.file mode contents) else fs.get? place

/-- A launch of a program with arguments, as a build makes it. -/
def Setting.launch (setting : Setting) (program : Bytes) (arguments : List Bytes) : Launch where
  program := program
  arguments := arguments
  cwd := setting.cwd
  environment := setting.environment
  input := []

/-- No argument of a launch has a zero byte. -/
def Launch.IsClean (launch : Launch) : Prop :=
  ∀ argument ∈ launch.program :: launch.arguments, (0 : UInt8) ∉ argument

/-- **The tools of a machine compute what they should**, among files that have all entries of `base`. -/
structure Tools.Implemented (tools : Tools) (programs : Programs State) (harmless : Nat → Prop)
    (setting : Setting) (toolchain : Toolchain) (base : FileSystem) : Prop where
  compile : ∀ {fs : FileSystem} {source output contents : Bytes}, fs.Sound → fs.Extends base →
    (setting.launch toolchain.cCompiler
      [Bytes.ofText "-w", Bytes.ofText "-c", source, outputFlag, output]).IsClean →
    fs.read setting.cwd source = .ok contents →
    programs.Makes harmless fs (setting.launch toolchain.cCompiler
      [Bytes.ofText "-w", Bytes.ofText "-c", source, outputFlag, output]) output
      fun mode made => mode.mayRead = true ∧ made = tools.compile contents
  frontend : ∀ {fs : FileSystem} {text output : Bytes}, fs.Sound → fs.Extends base →
    (setting.launch toolchain.frontend [text, outputFlag, output]).IsClean →
    programs.Makes harmless fs (setting.launch toolchain.frontend [text, outputFlag, output]) output
      fun mode made => mode.mayRead = true ∧ made = tools.frontend text
  lower : ∀ {fs : FileSystem} {input output contents : Bytes}, fs.Sound → fs.Extends base →
    (setting.launch toolchain.backend
      [Bytes.ofText "--filetype=obj", input, outputFlag, output]).IsClean →
    fs.read setting.cwd input = .ok contents →
    programs.Makes harmless fs (setting.launch toolchain.backend
      [Bytes.ofText "--filetype=obj", input, outputFlag, output]) output
      fun mode made => mode.mayRead = true ∧ made = tools.lower contents
  link : ∀ {fs : FileSystem} {first second output contents contents' : Bytes}, fs.Sound →
    fs.Extends base →
    (setting.launch toolchain.cCompiler
      [first, second, Bytes.ofText "-lc", Bytes.ofText "-lm", outputFlag, output]).IsClean →
    fs.read setting.cwd first = .ok contents → fs.read setting.cwd second = .ok contents' →
    programs.Makes harmless fs (setting.launch toolchain.cCompiler
      [first, second, Bytes.ofText "-lc", Bytes.ofText "-lm", outputFlag, output]) output
      fun mode made => (mode, made) = tools.link contents contents'

/-! ### A machine with tools -/

/-- What a process writes that is one of the tools: which one is told by the number of arguments. -/
def Tools.written (tools : Tools) (fs : FileSystem) (launch : Launch) : Mode × Bytes :=
  let contents (path : Bytes) : Bytes := (fs.read launch.cwd path).toOption.getD []
  match launch.arguments with
  | [_, _, source, _, _] => (Mode.ofFile, tools.compile (contents source))
  | [text, _, _] => (Mode.ofFile, tools.frontend text)
  | [_, input, _, _] => (Mode.ofFile, tools.lower (contents input))
  | [first, second, _, _, _, _] => tools.link (contents first) (contents second)
  | _ => (Mode.ofFile, [])

/-- A machine all of whose processes are tools. -/
def Tools.machine (tools : Tools) : Programs Launch :=
  stamp tools.written fun _ => .exited 0

theorem readable : Mode.ofFile.mayRead = true := by decide

/-- A clean path that is short enough can be looked up with a clean name joined to it. -/
theorem pathFault?_join {base name : Bytes} (leaf : Path.IsLeaf name) (clean : (0 : UInt8) ∉ base)
    (cleanName : (0 : UInt8) ∉ name) (short : base.length + 1 + name.length < pathLimit) :
    pathFault? (Path.join base name) = none := by
  obtain ⟨length, bytes⟩ := Path.join_bytes base name
  have proper : Path.join base name ≠ [] := by
    intro bare
    have names := Path.names_join base leaf
    rw [bare] at names
    simp [Path.names, Text.splitAt] at names
  have nonzero : (0 : UInt8) ∉ Path.join base name := by
    intro member
    rcases bytes 0 member with before | slashed | after
    · exact clean before
    · cases slashed
    · exact cleanName after
  exact pathFault?_eq_none_iff.mpr ⟨nonzero, proper, by omega⟩

/-! ### Usable directories -/

/-- A path leads to a directory in which names with a stem can be drawn: it may be changed, the names
and the paths with them are short enough even when `spare` bytes more are joined to them, and a free
one is always among the next. -/
structure Usable (setting : Setting) (fs : FileSystem) (dir stem : Bytes) (spare : Nat)
    (place : Place) : Prop where
  clean : (0 : UInt8) ∉ setting.anchor dir
  leads : fs.walk true linkLimit [] (Path.names (setting.anchor dir)) = .ok (.present place)
  allowed : fs.mayChange place = true
  leaf : ∀ drawn, Path.IsLeaf (stem ++ setting.names drawn)
  cleanName : ∀ drawn, (0 : UInt8) ∉ stem ++ setting.names drawn
  shortName : ∀ drawn, (stem ++ setting.names drawn).length ≤ longestName
  shortPath : ∀ drawn,
    (setting.anchor dir).length + 1 + (stem ++ setting.names drawn).length + spare < pathLimit
  free : ∀ drawn, ∃ more < World.nameLimit,
    fs.get? ((stem ++ setting.names (drawn + more)) :: place) = none

namespace Usable

variable {setting : Setting} {fs fs' : FileSystem} {dir stem : Bytes} {spare : Nat} {place : Place}

/-- The path of a name that is drawn. -/
def path (setting : Setting) (dir stem : Bytes) (drawn : Nat) : Bytes :=
  Path.join (setting.anchor dir) (stem ++ setting.names drawn)

/-- **The path of a name denotes the name**, in all files in which the directory is still there. -/
theorem ends (usable : Usable setting fs dir stem spare place)
    (leads : fs'.walk true linkLimit [] (Path.names (setting.anchor dir)) = .ok (.present place))
    (same : fs'.get? place = fs.get? place) (drawn : Nat) :
    fs'.ending setting.cwd (path setting dir stem drawn)
      = .ok (.name place (stem ++ setting.names drawn) false) := by
  have leaf := usable.leaf drawn
  have short := usable.shortPath drawn
  obtain ⟨mode, directory, _, enters⟩ := mayChange_iff.mp usable.allowed
  refine (ending_join_iff leaf).mpr ⟨?_, rfl, rfl, ?_, mode, same ▸ directory, enters⟩
  · exact pathFault?_join leaf usable.clean (usable.cleanName drawn) (by omega)
  · rw [start_absolute (Path.isAbsolute_join _ (setting.isAbsolute_anchor dir))]
    exact leads

/-- **Drawing names comes to a free one** if making something fails at taken names only because they
are taken. -/
theorem reserveWithin (setting : Setting) (make : FileSystem → Bytes → Except Fault FileSystem)
    (place : Place) {base stem : Bytes} {attempts : Nat} {world : World}
    (takes : ∀ drawn, world.files.get? ((stem ++ setting.names drawn) :: place) = none →
      ∃ made, make world.files (Path.join base (stem ++ setting.names drawn)) = .ok made)
    (passes : ∀ drawn, world.files.get? ((stem ++ setting.names drawn) :: place) ≠ none →
      make world.files (Path.join base (stem ++ setting.names drawn)) = .error .alreadyExists)
    (free : ∃ more < attempts,
      world.files.get? ((stem ++ setting.names (world.drawn + more)) :: place) = none) :
    ∃ world' drawn, world.reserveWithin setting make base stem attempts
        = (world', .ok (Path.join base (stem ++ setting.names drawn))) ∧
      world.files.get? ((stem ++ setting.names drawn) :: place) = none ∧
      make world.files (Path.join base (stem ++ setting.names drawn)) = .ok world'.files := by
  induction attempts generalizing world with
  | zero =>
    obtain ⟨more, few, _⟩ := free
    omega
  | succ attempts ih =>
    unfold World.reserveWithin
    dsimp only
    by_cases now : world.files.get? ((stem ++ setting.names world.drawn) :: place) = none
    · obtain ⟨made, makes⟩ := takes world.drawn now
      rw [makes]
      exact ⟨_, world.drawn, rfl, now, makes⟩
    · rw [passes world.drawn now]
      obtain ⟨more, few, unlisted⟩ := free
      cases more with
      | zero => exact absurd unlisted now
      | succ more =>
        have rest := @ih { world with drawn := world.drawn + 1 } takes passes
        refine rest ⟨more, by omega, ?_⟩
        rw [show world.drawn + 1 + more = world.drawn + (more + 1) by omega]
        exact unlisted

theorem reserve_anchor {make : FileSystem → Bytes → Except Fault FileSystem} {world : World}
    (here : world.files.isDirectoryAt setting.cwd = true) :
    world.reserve setting make dir stem
      = world.reserveWithin setting make (setting.anchor dir) stem World.nameLimit := by
  unfold World.reserve Setting.anchor
  rw [if_pos here]
  split <;> rfl

/-- At a name that is taken nothing can be made. -/
theorem taken {name : Bytes} (short : name.length ≤ longestName)
    (listed : fs.get? (name :: place) ≠ none) :
    fs.freeName place name = .error .alreadyExists := by
  unfold freeName
  rw [if_neg (by omega), if_pos (Option.isSome_iff_ne_none.mpr listed)]

variable {world : World}

/-- **A workspace can be made** in a usable directory. -/
theorem create {root? : Option Bytes}
    (usable : Usable setting world.files (root?.getD setting.temporaryRoot) Workspace.stem spare
      place)
    (here : world.files.isDirectoryAt setting.cwd = true) :
    ∃ world' drawn, Workspace.create setting root? world
        = (world', .ok ⟨path setting (root?.getD setting.temporaryRoot) Workspace.stem drawn⟩) ∧
      world.files.get? ((Workspace.stem ++ setting.names drawn) :: place) = none ∧
      world'.files = world.files.put ((Workspace.stem ++ setting.names drawn) :: place)
        (.directory Mode.ofDirectory) := by
  have ends := usable.ends usable.leads rfl
  obtain ⟨world', drawn, reserves, free, makes⟩ := reserveWithin setting
    (fun files path => files.makeDirectory setting.cwd path) place
    (fun drawn free => ⟨_, makeDirectory_eq_ok_iff.mpr
      ⟨_, _, _, ends drawn, usable.shortName drawn, free, usable.allowed, rfl⟩⟩)
    (fun drawn listed => by
      unfold makeDirectory
      have ended := ends drawn
      unfold path at ended
      rw [ended]
      dsimp only
      rw [taken (usable.shortName drawn) listed]
      rfl)
    (usable.free world.drawn)
  refine ⟨world', drawn, ?_, free, ?_⟩
  · unfold Workspace.create
    dsimp only
    rw [reserve_anchor here, reserves]
    rfl
  · obtain ⟨dir, name, _, ended, _, _, _, same⟩ := makeDirectory_eq_ok_iff.mp makes
    have denoted := ends drawn
    unfold path at denoted
    rw [denoted] at ended
    cases ended
    exact same

/-- **A name for the linker can be reserved** among files in which a usable directory is as it was,
apart from entries that are not of its names. -/
theorem reserve {output : Bytes}
    (usable : Usable setting fs (Staging.directory output) Staging.stem spare place)
    (here : world.files.isDirectoryAt setting.cwd = true)
    (leads : world.files.walk true linkLimit []
      (Path.names (setting.anchor (Staging.directory output))) = .ok (.present place))
    (same : world.files.get? place = fs.get? place)
    (names : ∀ drawn, world.files.get? ((Staging.stem ++ setting.names drawn) :: place)
      = fs.get? ((Staging.stem ++ setting.names drawn) :: place)) :
    ∃ world' drawn, Staging.reserve setting output world
        = (world', .ok (path setting (Staging.directory output) Staging.stem drawn)) ∧
      fs.get? ((Staging.stem ++ setting.names drawn) :: place) = none ∧
      world'.files = world.files.put ((Staging.stem ++ setting.names drawn) :: place)
        (.file Staging.mode []) := by
  have ends := usable.ends leads same
  have allowed : world.files.mayChange place = true := by
    rw [mayChange_congr same]
    exact usable.allowed
  obtain ⟨more, few, free⟩ := usable.free world.drawn
  obtain ⟨world', drawn, reserves, free, makes⟩ := reserveWithin setting
    (fun files path => files.createNew setting.cwd Staging.mode path) place
    (fun drawn free => ⟨_, createNew_eq_ok_iff.mpr
      ⟨_, _, ends drawn, usable.shortName drawn, free, allowed, rfl⟩⟩)
    (fun drawn listed => by
      unfold createNew
      have ended := ends drawn
      unfold path at ended
      rw [ended]
      dsimp only
      rw [if_neg Bool.false_ne_true, taken (usable.shortName drawn) listed]
      rfl)
    ⟨more, few, (names _).trans free⟩
  refine ⟨world', drawn, ?_, (names drawn).symm.trans free, ?_⟩
  · unfold Staging.reserve
    dsimp only
    rw [reserve_anchor here, reserves]
    rfl
  · obtain ⟨dir, name, ended, _, _, _, same⟩ := createNew_eq_ok_iff.mp makes
    have denoted := ends drawn
    unfold path at denoted
    rw [denoted] at ended
    cases ended
    exact same

end Usable

end CalcBuild

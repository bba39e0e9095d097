/-
**Artifacts are new.**

A stage is accepted when its process has ended with success and something exists at the path of its
artifact. That this is the work of the process rests on two facts: nothing was there when the process
was started, and nothing else changes that place before the stage is accepted. The first three artifacts
have different names in a directory that is new, and the name that the linker writes to is emptied
before the linker is started.

* `Aims`: a path that leads to a place where other files, its base, have nothing;
* `Roomy`: a workspace in which the artifacts of some commands are still missing;
* `Solo.Launched`, `Solo.Created`, `Solo.Delivered`: what is there was made by the process of a command;
* `Solo.Fresh`, `Fresh.turn`, `Comes.fresh`: what is known of the artifacts at every moment;
* `Fair.rejects`: a process that ends and is rejected decides how the build ends;
* `artifacts_fresh`: the main theorem.
-/

import CalcBuild.Proofs.Build.Cancellation
import CalcBuild.Proofs.Build.Fairness
import CalcBuild.Proofs.Build.Footprint
import CalcBuild.Proofs.Files.Beside

namespace CalcBuild

open Files FileSystem

variable {State : Type}

/-! ### Paths that lead to nothing -/

/-- A path from the root denotes a place where a base has nothing. The files are like the base, apart
from what is at and below that place. -/
structure Aims (cwd : Place) (base fs : FileSystem) (path : Bytes) (dir : Place) (name : Bytes) :
    Prop where
  absolute : Path.isAbsolute path = true
  denoted : ∃ slashed, base.ending cwd path = .ok (.name dir name slashed)
  short : name.length ≤ longestName
  beside : Beside (name :: dir) fs base

namespace Aims

variable {cwd : Place} {base fs fs' : FileSystem} {path : Bytes} {dir : Place} {name : Bytes}

/-- **The path still denotes the place.** -/
theorem ends (aims : Aims cwd base fs path dir name) :
    ∃ slashed, fs.ending cwd path = .ok (.name dir name slashed) := by
  obtain ⟨slashed, denoted⟩ := aims.denoted
  exact ⟨slashed, ending_extends aims.beside.sound.closed aims.beside.extends_
    (start_present aims.absolute) denoted⟩

theorem placeOf (aims : Aims cwd base fs path dir name) :
    fs.placeOf cwd path = some (name :: dir) := by
  obtain ⟨_, ends⟩ := aims.ends
  exact placeOf_of_ending ends

/-- What exists at the path is an entry of the place. -/
theorem listed (aims : Aims cwd base fs path dir name) (exists_ : fs.pathExists cwd path = true) :
    (fs.get? (name :: dir)).isSome := by
  obtain ⟨_, ends⟩ := aims.ends
  cases found : fs.get? (name :: dir) with
  | some entry => rfl
  | none =>
    unfold pathExists status? at exists_
    rw [find_free ends aims.short found true] at exists_
    cases exists_

/-- Changes at and below the place do not matter. -/
theorem change (aims : Aims cwd base fs path dir name)
    (frame : ∀ place, fs'.get? place = fs.get? place ∨ isWithin (name :: dir) place = true) :
    Aims cwd base fs' path dir name where
  absolute := aims.absolute
  denoted := aims.denoted
  short := aims.short
  beside := by
    refine ⟨aims.beside.sound, aims.beside.free, fun place outside => ?_⟩
    rw [(frame place).resolve_right outside, aims.beside.same place outside]

/-- As soon as nothing is at the place, the files are a base of their own. -/
theorem renew (aims : Aims cwd base fs path dir name) (sound : fs.Sound)
    (free : fs.get? (name :: dir) = none) : Aims cwd fs fs path dir name :=
  ⟨aims.absolute, aims.ends, aims.short, sound, free, fun _ _ => rfl⟩

end Aims

/-- Nothing can be at a path: it denotes a place where nothing is, or cannot be looked up at all. -/
def Vacant (cwd : Place) (fs : FileSystem) (path : Bytes) : Prop :=
  pathFault? path ≠ none ∨ ∃ dir name, Aims cwd fs fs path dir name

theorem pathExists_of_fault {fs : FileSystem} {cwd : Place} {path : Bytes}
    (fault : pathFault? path ≠ none) : fs.pathExists cwd path = false := by
  obtain ⟨_, same⟩ := Option.ne_none_iff_exists'.mp fault
  unfold pathExists status? find locate
  rw [same]
  rfl

/-- A change at and below what a path denotes. -/
def WorkedAt (cwd : Place) (path : Bytes) (fs fs' : FileSystem) : Prop :=
  ∀ place, fs'.get? place = fs.get? place ∨
    ∃ above, fs.placeOf cwd path = some above ∧ isWithin above place = true

/-- A step of a contained process works at what its launch asks for. -/
theorem Programs.Contained.worksAt {programs : Programs State} (contained : programs.Contained)
    {launch : Launch} {state : State} (reaches : programs.Reaches launch state) {path : Bytes}
    (asks : outputArgument? launch.arguments = some path) {fs : FileSystem} (sound : fs.Sound) :
    WorkedAt launch.cwd path fs (programs.step fs state).1 := by
  intro place
  refine (contained.frame place reaches sound).imp_right ?_
  rintro ⟨path', above, asks', denotes, within⟩
  rw [asks] at asks'
  cases asks'
  exact ⟨above, denotes, within⟩

theorem Aims.work {cwd : Place} {base fs fs' : FileSystem} {path : Bytes} {dir : Place} {name : Bytes}
    (aims : Aims cwd base fs path dir name) (worked : WorkedAt cwd path fs fs') :
    Aims cwd base fs' path dir name := by
  refine aims.change fun place => (worked place).imp_right ?_
  rintro ⟨above, denotes, within⟩
  rw [aims.placeOf] at denotes
  cases denotes
  exact within

/-! ### Names of artifacts -/

/-- The name that the artifact of a stage has in the workspace. -/
def Stage.leaf? : Stage → Option Bytes
  | .runtimeCompile => some (Bytes.ofText "runtime.o")
  | .frontendCompile => some (Bytes.ofText "expr.ll")
  | .lower => some (Bytes.ofText "expr.o")
  | .link => none

namespace Stage

theorem leaf?_fits {stage : Stage} {leaf : Bytes} (named : stage.leaf? = some leaf) :
    Path.IsLeaf leaf ∧ leaf.length ≤ longestName := by
  cases stage <;> cases named <;> exact ⟨⟨by decide, by decide⟩, by decide⟩

theorem leaf?_injective : Function.Injective Stage.leaf? := by
  intro first second same
  cases first <;> cases second <;> first | rfl | exact absurd same (by decide)

theorem leaf?_of_ne {stage : Stage} (other : stage ≠ .link) : ∃ leaf, stage.leaf? = some leaf := by
  cases stage with
  | link => exact absurd rfl other
  | _ => exact ⟨_, rfl⟩

end Stage

/-- The artifact of a command that does not link is in the workspace, under the name of its stage. -/
theorem planned_leaf {builder : Builder} {request : BuildRequest} {workspace : Workspace}
    {staging? : Option Bytes} {command : Command}
    (member : command ∈ planned builder request workspace staging?) {leaf : Bytes}
    (named : command.stage.leaf? = some leaf) : command.output = Path.join workspace.path leaf := by
  obtain ⟨original, listed, rfl⟩ := List.mem_map.mp member
  simp only [BuildRun.commands, plan, List.mem_cons, List.not_mem_nil, or_false] at listed
  rcases listed with rfl | rfl | rfl | rfl <;> cases staging? <;> cases named <;> rfl

/-! ### A workspace with room -/

/-- The path of a workspace denotes a directory where a base has nothing, and the artifacts of some
commands are still missing in it. -/
structure Roomy (cwd : Place) (fs : FileSystem) (workspace : Workspace) (dir : Place) (name : Bytes)
    (commands : List Command) : Prop where
  aims : ∃ base, Aims cwd base fs workspace.path dir name
  own : fs.get? (name :: dir) = some (.directory Mode.ofDirectory)
  outputs : ∀ command ∈ commands, ∀ leaf, command.stage.leaf? = some leaf →
    command.output = Path.join workspace.path leaf
  free : ∀ command ∈ commands, ∀ leaf, command.stage.leaf? = some leaf →
    fs.get? (leaf :: name :: dir) = none

namespace Roomy

variable {cwd : Place} {fs fs' : FileSystem} {workspace : Workspace} {dir : Place} {name : Bytes}
  {command : Command} {later : List Command}

/-- **A new workspace has room** for all artifacts. -/
theorem ofNew {commands : List Command} (sound : fs.Sound)
    (absolute : Path.isAbsolute workspace.path = true)
    (makes : fs.makeDirectory cwd workspace.path = .ok fs')
    (outputs : ∀ command ∈ commands, ∀ leaf, command.stage.leaf? = some leaf →
      command.output = Path.join workspace.path leaf) :
    ∃ dir name, Roomy cwd fs' workspace dir name commands := by
  obtain ⟨dir, name, slashed, ends, short, free, _, rfl⟩ := makeDirectory_eq_ok_iff.mp makes
  have proper := List.cons_ne_nil name dir
  refine ⟨dir, name, ⟨fs, absolute, ⟨slashed, ends⟩, short, sound, free, fun place outside => ?_⟩, ?_,
    outputs, fun _ _ leaf _ => ?_⟩
  · rw [get?_put _ _ _ proper, if_neg]
    rintro rfl
    exact outside (isWithin_self _)
  · rw [get?_put _ _ _ proper, if_pos rfl]
  · rw [get?_put _ _ _ proper, if_neg (List.cons_ne_self _ _)]
    exact get?_within_free sound.closed free (isWithin_cons leaf (isWithin_self _))

theorem tail (roomy : Roomy cwd fs workspace dir name (command :: later)) :
    Roomy cwd fs workspace dir name later where
  aims := roomy.aims
  own := roomy.own
  outputs := fun other member => roomy.outputs other (List.mem_cons_of_mem _ member)
  free := fun other member => roomy.free other (List.mem_cons_of_mem _ member)

/-- **Nothing is at the path of an artifact that is missing.** -/
theorem vacant (roomy : Roomy cwd fs workspace dir name (command :: later)) (sound : fs.Sound)
    {leaf : Bytes} (named : command.stage.leaf? = some leaf) : Vacant cwd fs command.output := by
  rw [roomy.outputs command List.mem_cons_self leaf named]
  obtain ⟨isLeaf, short⟩ := Stage.leaf?_fits named
  obtain ⟨base, aims⟩ := roomy.aims
  obtain ⟨slashed, ends⟩ := aims.ends
  have joined : Path.isAbsolute (Path.join workspace.path leaf) = true :=
    Path.isAbsolute_join leaf aims.absolute
  by_cases fault : pathFault? (Path.join workspace.path leaf) = none
  · have walks := walk_directory ends aims.short (isDirectoryAt_iff.mpr ⟨_, roomy.own⟩)
    rw [start_absolute aims.absolute] at walks
    have ends' : fs.ending cwd (Path.join workspace.path leaf) = .ok (.name (name :: dir) leaf false) := by
      refine (ending_join_iff isLeaf).mpr ⟨fault, rfl, rfl, ?_, _, roomy.own, by decide⟩
      rw [start_absolute joined]
      exact walks
    exact .inr ⟨name :: dir, leaf, joined, ⟨false, ends'⟩, short, sound,
      roomy.free command List.mem_cons_self leaf named, fun _ _ => rfl⟩
  · exact .inl fault

/-- **Work at one artifact leaves room for the others.** -/
theorem work (roomy : Roomy cwd fs workspace dir name later) {leaf : Bytes} (isLeaf : Path.IsLeaf leaf)
    (others : ∀ command ∈ later, command.stage.leaf? ≠ some leaf)
    (worked : WorkedAt cwd (Path.join workspace.path leaf) fs fs') :
    Roomy cwd fs' workspace dir name later := by
  obtain ⟨base, aims⟩ := roomy.aims
  obtain ⟨slashed, ends⟩ := aims.ends
  have below (place : Place) :
      fs'.get? place = fs.get? place ∨ isWithin (leaf :: name :: dir) place = true := by
    refine (worked place).imp_right ?_
    rintro ⟨above, denotes, within⟩
    have same := placeOf_join ends aims.short (isDirectoryAt_iff.mpr ⟨_, roomy.own⟩) aims.absolute
      isLeaf denotes
    exact same ▸ within
  refine ⟨⟨base, aims.change fun place => (below place).imp_right ?_⟩, ?_, roomy.outputs,
    fun command member other named => ?_⟩
  · exact isWithin_trans (isWithin_cons leaf (isWithin_self _))
  · rw [(below (name :: dir)).resolve_right (not_isWithin_tail leaf (name :: dir)), roomy.own]
  · rw [(below (other :: name :: dir)).resolve_right fun within => ?_,
      roomy.free command member other named]
    rcases isWithin_cases within with same | inside
    · obtain ⟨rfl, _⟩ := List.cons.inj same
      exact others command member named
    · exact not_isWithin_tail leaf (name :: dir) inside

end Roomy

namespace Solo

variable (solo : Solo State)

/-! ### What the process of a command makes -/

/-- At some moment of a run the process of a command was started, while nothing was at the place that
the path of its artifact denoted. -/
def Launched (choices : List Choice) (command : Command) (place : Place) : Prop :=
  ∃ earlier choice before run trace after run', earlier ++ [choice] <+: choices ∧
    solo.Comes earlier before run trace ∧
    solo.Comes (earlier ++ [choice]) after run'
      (.started command.stage (command.launch solo.setting) :: trace) ∧
    before.files.placeOf solo.setting.cwd command.output = some place ∧
    before.files.get? place = none

/-- After that, a step of this process made an entry at the place. -/
def Created (choices : List Choice) (command : Command) (place : Place) : Prop :=
  ∃ earlier choice before run trace after run' trace' state wakes since due later,
    earlier ++ [choice] <+: choices ∧ solo.Launched earlier command place ∧
    solo.Comes earlier before run trace ∧ solo.Comes (earlier ++ [choice]) after run' trace' ∧
    run.phase = .running ⟨command, .waiting (.running state wakes) since due⟩ later ∧
    after.files = (solo.programs.step before.files state).1 ∧
    before.files.get? place = none ∧ (after.files.get? place).isSome

/-- What is at the path of the artifact of a command was made by its process, where nothing was when
it was started. -/
def Delivered (choices : List Choice) (files : FileSystem) (command : Command) : Prop :=
  ∃ place, files.placeOf solo.setting.cwd command.output = some place ∧
    (files.get? place).isSome ∧ solo.Created choices command place

/-- The process of a command has been started, and nothing but what it makes can be at the path of its
artifact. -/
def Targeted (choices : List Choice) (files : FileSystem) (command : Command) : Prop :=
  pathFault? command.output ≠ none ∨ ∃ base dir name,
    Aims solo.setting.cwd base files command.output dir name ∧
    solo.Launched choices command (name :: dir) ∧
    ((files.get? (name :: dir)).isSome → solo.Created choices command (name :: dir))

variable {solo}

section Making

variable {choices choices' : List Choice} {command : Command} {place : Place} {files files' : FileSystem}

theorem Launched.mono (launched : solo.Launched choices command place) (longer : choices <+: choices') :
    solo.Launched choices' command place := by
  obtain ⟨earlier, choice, before, run, trace, after, run', shorter, rest⟩ := launched
  exact ⟨earlier, choice, before, run, trace, after, run', shorter.trans longer, rest⟩

theorem Created.mono (created : solo.Created choices command place) (longer : choices <+: choices') :
    solo.Created choices' command place := by
  obtain ⟨earlier, choice, before, run, trace, after, run', trace', state, wakes, since, due, later,
    shorter, rest⟩ := created
  exact ⟨earlier, choice, before, run, trace, after, run', trace', state, wakes, since, due, later,
    shorter.trans longer, rest⟩

theorem Delivered.mono (delivered : solo.Delivered choices files command)
    (longer : choices <+: choices') : solo.Delivered choices' files command := by
  obtain ⟨place, denotes, listed, created⟩ := delivered
  exact ⟨place, denotes, listed, created.mono longer⟩

theorem Targeted.mono (targeted : solo.Targeted choices files command)
    (longer : choices <+: choices') : solo.Targeted choices' files command := by
  refine targeted.imp_right ?_
  rintro ⟨base, dir, name, aims, launched, created⟩
  exact ⟨base, dir, name, aims, launched.mono longer, fun listed => (created listed).mono longer⟩

/-- **What exists at the path of the artifact** was made by the process. -/
theorem Targeted.delivered (targeted : solo.Targeted choices files command)
    (exists_ : files.pathExists solo.setting.cwd command.output = true) :
    solo.Delivered choices files command := by
  rcases targeted with fault | ⟨base, dir, name, aims, _, created⟩
  · rw [pathExists_of_fault fault] at exists_
    cases exists_
  · have listed := aims.listed exists_
    exact ⟨name :: dir, aims.placeOf, listed, created listed⟩

end Making

/-! ### What is known at every moment -/

variable (solo) in
/-- What is known of the artifact of a command whose stage stands somewhere. -/
def Clear (choices : List Choice) (files : FileSystem) (command : Command) : StagePhase State → Prop
  | .ready | .inspecting | .launching => Vacant solo.setting.cwd files command.output
  | .waiting .. | .collected .. => solo.Targeted choices files command
  | .finished (.ok _) => solo.Delivered choices files command
  | .finished (.error _) => True

variable (solo) in
/-- What is known of the artifacts when a build stands somewhere: what is at the one of the current
command, that there is room for those of the commands after it, and that the name for the linker was
free. -/
def Fresh (choices : List Choice) (files : FileSystem) : BuildPhase State → Prop
  | .running stage later =>
    (∀ leaf, stage.command.stage.leaf? = some leaf → ∃ workspace dir name,
      stage.command.output = Path.join workspace.path leaf ∧
      Roomy solo.setting.cwd files workspace dir name later) ∧
    solo.Clear choices files stage.command stage.phase
  | .vacating link _ => ∃ base dir name, Aims solo.setting.cwd base files link.output dir name
  | _ => True

section Turns

variable {choices : List Choice} {choice : Choice} {before after : World} {run run' : BuildRun State}
  {trace events : List Event} {files files' : FileSystem}

theorem Clear.mono {choices' : List Choice} {command : Command} {phase : StagePhase State}
    (clear : solo.Clear choices files command phase) (longer : choices <+: choices') :
    solo.Clear choices' files command phase := by
  cases phase with
  | waiting | collected => exact Targeted.mono clear longer
  | finished result =>
    cases result with
    | ok _ => exact Delivered.mono clear longer
    | error _ => exact True.intro
  | _ => exact clear

theorem Fresh.mono {choices' : List Choice} {phase : BuildPhase State}
    (fresh : solo.Fresh choices files phase) (longer : choices <+: choices') :
    solo.Fresh choices' files phase := by
  cases phase with
  | running stage later => exact ⟨fresh.1, Clear.mono fresh.2 longer⟩
  | _ => exact fresh

/-- A build that goes on to commands for which there is room. -/
theorem fresh_following {later : List Command} (sound : files.Sound)
    (room : later ≠ [] →
      ∃ workspace dir name, Roomy solo.setting.cwd files workspace dir name later) :
    solo.Fresh choices files (BuildRun.following later) := by
  cases later with
  | nil => exact True.intro
  | cons command later =>
    by_cases isLink : command.stage = .link
    · rw [following_link later isLink]
      exact True.intro
    · obtain ⟨workspace, dir, name, roomy⟩ := room (List.cons_ne_nil _ _)
      rw [following_other later isLink]
      obtain ⟨leaf, named⟩ := Stage.leaf?_of_ne isLink
      exact ⟨fun leaf named => ⟨workspace, dir, name, roomy.outputs command List.mem_cons_self leaf named,
        roomy.tail⟩, roomy.vacant sound named⟩

/-- **A step of a stage.** -/
theorem Clear.step {command : Command} {phase phase' : StagePhase State}
    (clear : solo.Clear choices before.files command phase)
    (earlier : solo.Comes choices before run trace)
    (now : solo.Comes (choices ++ [choice]) after run' (events.reverse ++ trace))
    (steps : StageRun.Step solo.programs solo.setting solo.builder.stageOptions before command phase
      phase' events) :
    solo.Clear (choices ++ [choice]) before.files command phase' := by
  have longer : choices <+: choices ++ [choice] := List.prefix_append _ _
  cases steps with
  | admitted | inspected => exact clear
  | launched starts =>
    refine Or.imp_right ?_ clear
    rintro ⟨dir, name, aims⟩
    have free : before.files.get? (name :: dir) = none := aims.beside.free
    refine ⟨before.files, dir, name, aims, ?_, fun listed => ?_⟩
    · exact ⟨choices, choice, before, run, trace, after, run', List.prefix_rfl, earlier, now,
        aims.placeOf, free⟩
    · rw [free] at listed
      cases listed
  | reaped | looked => exact Targeted.mono clear longer
  | accepted fine =>
    exact ((Targeted.mono clear longer)).delivered (StageRun.rejection?_eq_none fine).2
  | _ => exact True.intro

/-- **A step of the process of a command.** -/
theorem Targeted.process {command : Command} {state : State} {wakes since due : Nat}
    {later : List Command} (targeted : solo.Targeted choices before.files command)
    (earlier : solo.Comes choices before run trace)
    (now : solo.Comes (choices ++ [choice]) after run' (events.reverse ++ trace))
    (phase : run.phase = .running ⟨command, .waiting (.running state wakes) since due⟩ later)
    (steps : after.files = (solo.programs.step before.files state).1)
    (worked : WorkedAt solo.setting.cwd command.output before.files after.files) :
    solo.Targeted (choices ++ [choice]) after.files command := by
  have longer : choices <+: choices ++ [choice] := List.prefix_append _ _
  refine targeted.imp_right ?_
  rintro ⟨base, dir, name, aims, launched, created⟩
  refine ⟨base, dir, name, aims.work worked, launched.mono longer, fun listed => ?_⟩
  cases found : before.files.get? (name :: dir) with
  | some entry => exact (created (by rw [found]; rfl)).mono longer
  | none =>
    exact ⟨choices, choice, before, run, trace, after, run', _, state, wakes, since, due, later,
      List.prefix_rfl, launched, earlier, now, phase, steps, found, listed⟩

/-- The commands that are left are of other stages than the current one. -/
theorem others_of_plan {builder : Builder} {request : BuildRequest} {workspace : Workspace}
    {staging? : Option Bytes} {done later : List Command} {command : Command}
    (plan : planned builder request workspace staging? = done ++ command :: later) {leaf : Bytes}
    (named : command.stage.leaf? = some leaf) :
    ∀ other ∈ later, other.stage.leaf? ≠ some leaf := by
  intro other member named'
  have stages := planned_stages builder request workspace staging?
  have distinct := Stage.order_nodup
  rw [← stages, plan, List.map_append, List.map_cons, List.nodup_append, List.nodup_cons] at distinct
  have same : other.stage = command.stage := Stage.leaf?_injective (named'.trans named.symm)
  exact distinct.2.1.1 (same ▸ List.mem_map_of_mem member)

/-- **What is known after every turn.** -/
theorem Fresh.turn {request : BuildRequest} (contained : solo.programs.Contained)
    (earlier : solo.Comes choices before run trace)
    (now : solo.Comes (choices ++ [choice]) after run' (events.reverse ++ trace))
    (sound : before.files.Sound) (sound' : after.files.Sound)
    (wired : run.Wired solo.builder request) (started : run.Started solo.programs solo.setting)
    (turn : solo.Turn before run after run' events)
    (fresh : solo.Fresh choices before.files run.phase) :
    solo.Fresh (choices ++ [choice]) after.files run'.phase := by
  cases turn with
  | @process command state wakes since due later _ child events phase files _ _ _ _ =>
    obtain ⟨workspace, holds, asks, _⟩ := wired.artifact phase
    have stands := wired.2
    rw [phase] at fresh stands
    obtain ⟨_, _, _, _, plan, _⟩ := stands
    obtain ⟨room, targeted⟩ := fresh
    have worked : WorkedAt solo.setting.cwd command.output before.files after.files := by
      rw [files]
      exact contained.worksAt (started _ _ _ _ _ _ phase) asks sound
    refine ⟨fun leaf named => ?_, Targeted.process targeted earlier now phase files worked⟩
    obtain ⟨workspace, dir, name, output, roomy⟩ := room leaf named
    exact ⟨workspace, dir, name, output,
      roomy.work (Stage.leaf?_fits named).1 (others_of_plan plan named) (output ▸ worked)⟩
  | own steps =>
    cases steps with
    | @opened world' workspace phase creates =>
      obtain ⟨_, absolute, _, makes⟩ := create_ok creates
      refine @fresh_following _ solo _ _ (BuildRun.commands solo.builder workspace run.request) sound'
        fun _ => ⟨workspace, ?_⟩
      refine Roomy.ofNew sound absolute makes fun command member leaf named => ?_
      refine @planned_leaf solo.builder run.request workspace none command ?_ leaf named
      exact List.mem_map.mpr ⟨command, member, rfl⟩
    | advanced phase steps =>
      rw [phase] at fresh
      exact ⟨fresh.1, fresh.2.step earlier now steps⟩
    | @succeeded command result later phase =>
      have stands := wired.2
      rw [phase] at fresh stands
      obtain ⟨workspace, _, _, _, plan, _⟩ := stands
      refine fresh_following sound fun more => ?_
      have stages := planned_stages solo.builder request workspace run.staging?
      rw [plan, List.map_append, List.map_cons] at stages
      have other : command.stage ≠ .link := fun isLink =>
        more (List.map_eq_nil_iff.mp ((Stage.order_split stages).2.mp isLink))
      obtain ⟨leaf, named⟩ := Stage.leaf?_of_ne other
      obtain ⟨workspace, dir, name, _, roomy⟩ := fresh.1 leaf named
      exact ⟨workspace, dir, name, roomy⟩
    | @reserved _ staging _ _ phase reserves =>
      obtain ⟨_, absolute, makes, _⟩ := reserve_ok reserves
      obtain ⟨dir, name, ends, short, free, _, files⟩ := createNew_eq_ok_iff.mp makes
      refine ⟨before.files, dir, name, absolute, ⟨false, ends⟩, short, sound, free,
        fun place outside => ?_⟩
      rw [files, get?_put _ _ _ (List.cons_ne_nil name dir), if_neg]
      rintro rfl
      exact outside (isWithin_self _)
    | @vacated files link later phase vacates =>
      have stands := wired.2
      rw [phase] at fresh stands
      obtain ⟨_, _, _, _, _, _, _, linked⟩ := stands
      obtain ⟨base, dir, name, aims⟩ := fresh
      obtain ⟨dir', name', _, ends, _, _, _, _, rfl⟩ := unlink_eq_ok_iff.mp (vacate_ok vacates)
      have denotes := placeOf_of_ending ends
      rw [aims.placeOf] at denotes
      cases denotes
      have view := fun other => get?_drop before.files other (List.cons_ne_nil name dir)
      refine ⟨fun leaf named => ?_, .inr ⟨dir, name, ?_⟩⟩
      · have same : (StageRun.start link : StageRun State).command.stage = .link := linked
        rw [same] at named
        cases named
      · refine (aims.change fun place => ?_).renew sound' ((view _).trans (if_pos rfl))
        by_cases here : place = name :: dir
        · exact .inr (here ▸ isWithin_self _)
        · exact .inl ((view place).trans (if_neg here))
    | _ => exact True.intro

end Turns

/-- What a build on its own stands to its plan, to its process and to the files. -/
structure Sane (solo : Solo State) (files : FileSystem) (run : BuildRun State) : Prop where
  sound : files.Sound
  wired : run.Wired solo.builder solo.request
  started : run.Started solo.programs solo.setting

theorem Sane.turn {before after : World} {run run' : BuildRun State} {events : List Event}
    (contained : solo.programs.Contained) (sane : solo.Sane before.files run)
    (turn : solo.Turn before run after run' events) : solo.Sane after.files run' where
  sound := by
    cases turn with
    | own steps => exact (steps.effect sane.sound sane.wired).sound sane.sound
    | process phase files _ _ _ _ =>
      rw [files]
      exact contained.sound (sane.started _ _ _ _ _ _ phase) sane.sound
  wired := sane.wired.turn turn
  started := sane.started.turn turn

/-- **What is known at every moment.** -/
theorem Comes.fresh (contained : solo.programs.Contained) (sound : solo.world.files.Sound)
    {choices : List Choice} {world : World} {run : BuildRun State} {trace : List Event}
    (comes : solo.Comes choices world run trace) :
    solo.Sane world.files run ∧ solo.Fresh choices world.files run.phase := by
  refine comes.induction (motive := fun choices world run _ =>
    solo.Sane world.files run ∧ solo.Fresh choices world.files run.phase) ?_ ?_ ?_
  · exact ⟨⟨sound, BuildRun.wired_start _ _, fun _ _ _ _ _ _ waits => nomatch waits⟩, True.intro⟩
  · rintro choices choice before after run trace _ _ files _ ⟨sane, fresh⟩
    rw [files]
    exact ⟨sane, fresh.mono (List.prefix_append _ _)⟩
  · rintro choices choice before after run run' trace events earlier now turn ⟨sane, fresh⟩
    have sane' := sane.turn contained turn
    exact ⟨sane', fresh.turn contained earlier now sane.sound sane'.sound sane.wired sane.started turn⟩

/-! ### Processes that are rejected -/

/-- The process of a command has ended, and its stage has still to accept or reject it. -/
def Ended (run : BuildRun State) (command : Command) (status : WaitStatus) : Prop :=
  ∃ later, (∃ since due, run.phase = .running ⟨command, .waiting (.ended status) since due⟩ later) ∨
    ∃ elapsed, run.phase = .running ⟨command, .collected status elapsed⟩ later

/-- A build has gone wrong, or the process of its stage has ended in a way that will be rejected. -/
def IsDoomed (setting : Setting) (files : FileSystem) (run : BuildRun State) (failure : BuildFailure) :
    Prop :=
  run.failure? = some failure ∨ ∃ command status, Ended run command status ∧
    StageRun.rejection? setting files command status = some failure

section Doom

variable {before after : World} {run run' : BuildRun State} {events : List Event}
  {failure : BuildFailure} {files : FileSystem}

/-- **A doomed build stays doomed.** -/
theorem IsDoomed.turn (doomed : IsDoomed solo.setting before.files run failure)
    (turn : solo.Turn before run after run' events) :
    IsDoomed solo.setting after.files run' failure := by
  rcases doomed with fails | ⟨command, status, ⟨later, ended⟩, rejects⟩
  · exact .inl (failure?_turn fails turn).1
  · cases turn with
    | process phase _ _ _ _ _ => simp [phase] at ended
    | own steps =>
      cases steps with
      | advanced phase steps =>
        rw [phase] at ended
        rcases ended with ⟨since, due, ended⟩ | ⟨elapsed, ended⟩
        · cases ended
          cases steps with
          | reaped => exact .inr ⟨command, status, ⟨later, .inr ⟨_, rfl⟩⟩, rejects⟩
        · cases ended
          cases steps with
          | rejected reason =>
            rw [rejects] at reason
            cases reason
            exact .inl rfl
          | accepted fine =>
            rw [rejects] at fine
            cases fine
      | _ => simp [*] at ended

theorem IsDoomed.childless (doomed : IsDoomed solo.setting files run failure) {command : Command}
    {state : State} {wakes since due : Nat} {later : List Command} :
    run.phase ≠ .running ⟨command, .waiting (.running state wakes) since due⟩ later := by
  intro phase
  rcases doomed with fails | ⟨_, _, ⟨_, ended⟩, _⟩
  · simp [BuildRun.failure?, phase] at fails
  · simp [phase] at ended

theorem IsDoomed.result (doomed : IsDoomed solo.setting files run failure)
    {result : Except BuildFailure BuildOutcome} (done : run.phase = .finished result) :
    result = .error failure := by
  rcases doomed with fails | ⟨_, _, ⟨_, ended⟩, _⟩
  · cases result <;> simp_all [BuildRun.failure?]
  · simp [done] at ended

/-- **A process that ends and is rejected decides how the build ends**, in every schedule that gives
everything a turn, unless the driver has been ended. -/
theorem Fair.rejects {schedule : Nat → Choice} (fair : Fair schedule) {count : Nat}
    (doomed : IsDoomed solo.setting (solo.at_ schedule count).world.files
      (solo.runAt schedule count) failure)
    (alive : (solo.at_ schedule count).endedBy? = none) :
    ∃ from_, ∀ after, from_ ≤ after →
      (solo.runAt schedule after).phase = .finished (.error failure) := by
  have stays : ∀ after, count ≤ after → IsDoomed solo.setting (solo.at_ schedule after).world.files
      (solo.runAt schedule after) failure ∧ (solo.at_ schedule after).endedBy? = none := by
    intro after order
    induction order with
    | refl => exact ⟨doomed, alive⟩
    | @step after _ ih =>
      obtain ⟨doomed, alive⟩ := ih
      constructor
      · rcases solo.at_next schedule after with ⟨same, files⟩ | ⟨_, turn⟩
        · rw [same, files]
          exact doomed
        · exact doomed.turn turn
      · -- No process runs any more that could send the driver a signal.
        rw [at_succ]
        refine System.endedBy?_act _ alive fun job member state wakes signal next waits _ => ?_
        rw [jobs_at] at member
        obtain rfl := List.mem_singleton.mp member
        obtain ⟨_, _, _, _, phase⟩ := BuildRun.phase_of_child waits
        exact absurd phase doomed.childless
  obtain ⟨from_, result, later, done⟩ := fair.ends_from (fun after order => (stays after order).2)
    fun after order _ _ _ _ _ _ waits => absurd waits (stays after order).1.childless
  have same := (stays from_ later).1.result (done from_ (Nat.le_refl _))
  exact ⟨from_, fun after order => same ▸ done after order⟩

end Doom

/-- **Artifacts are new.** If the processes touch nothing but what their launches ask for, a stage is
accepted only with an artifact that its own process made, at a place where nothing was when it was
started. If a process ends with success and has made nothing, the build fails for want of the artifact
of this stage. -/
theorem artifacts_fresh (solo : Solo State) (contained : solo.programs.Contained)
    (sound : solo.world.files.Sound) :
    (∀ choices world run trace command result later, solo.Comes choices world run trace →
      run.phase = .running ⟨command, .finished (.ok result)⟩ later →
      solo.Delivered choices world.files command) ∧
    ∀ schedule count command status, Fair schedule →
      Ended (solo.runAt schedule count) command status → status.isSuccess = true →
      ¬ solo.Delivered (first schedule count) (solo.at_ schedule count).world.files command →
      (solo.at_ schedule count).endedBy? = none →
      ∃ from_, ∀ after, from_ ≤ after → (solo.runAt schedule after).phase
        = .finished (.error (.missingArtifact command.stage command.output)) := by
  constructor
  · intro choices world run trace command result later comes phase
    have fresh := (comes.fresh contained sound).2
    rw [phase] at fresh
    exact fresh.2
  · intro schedule count command status fair ended success undelivered alive
    refine fair.rejects (.inr ⟨command, status, ended, ?_⟩) alive
    have fresh := ((solo.comes_at schedule count).fresh contained sound).2
    have targeted : solo.Targeted (first schedule count) (solo.at_ schedule count).world.files
        command := by
      obtain ⟨later, ⟨since, due, phase⟩ | ⟨elapsed, phase⟩⟩ := ended <;>
      · rw [phase] at fresh
        exact fresh.2
    have absent : (solo.at_ schedule count).world.files.pathExists solo.setting.cwd command.output
        = false :=
      Bool.eq_false_iff.mpr fun exists_ => undelivered (targeted.delivered exists_)
    simp [StageRun.rejection?, success, absent]

/-! ### Two machines -/

/-- Processes that end with success and have done nothing. -/
def idlers : Programs Launch where
  start := fun _ launch => .ok launch
  step := fun files _ => (files, .ends (.exited 0))

theorem idlers_contained : idlers.Contained where
  sound := fun _ sound => sound
  frame := fun _ _ _ => .inl rfl

/-- The build takes all steps of its first stage, and its process the one that it has. -/
def firstStage : List Choice :=
  List.replicate 5 (.job 0) ++ [.child 0, .job 0, .job 0]

/-- Where the small build looks for its first artifact. -/
def firstArtifact : Bytes := Bytes.ofText "/t/calcca/runtime.o"

/-- The first artifact of the small build is made by its process, and its lack is noticed. -/
theorem artifacts_fresh_small :
    (∃ world run trace command result later,
      (small Crowd.stampers (Bytes.ofText "/t/x")).Comes firstStage world run trace ∧
      run.phase = .running ⟨command, .finished (.ok result)⟩ later ∧
      command.output = firstArtifact ∧
      (small Crowd.stampers (Bytes.ofText "/t/x")).Delivered firstStage world.files command) ∧
    ∃ from_, ∀ after, from_ ≤ after → ((small idlers (Bytes.ofText "/t/x")).runAt inTurn after).phase
      = .finished (.error (.missingArtifact .runtimeCompile firstArtifact)) := by
  constructor
  · obtain ⟨world, run, trace, comes⟩ :=
      (small Crowd.stampers (Bytes.ofText "/t/x")).exists_comes firstStage
    have stands : (((small Crowd.stampers (Bytes.ofText "/t/x")).after firstStage).build?.bind
        BuildRun.stage?).map (fun stage => (stage.command.output, stage.phase))
        = some (firstArtifact, .finished (.ok
          ⟨.runtimeCompile, "c -w -c /t/r -o /t/calcca/runtime.o", .exited 0, 0⟩)) := by
      cbv
    obtain ⟨command, later, phase, output⟩ := comes.running Command.output stands
    exact ⟨world, run, trace, command, _, later, comes, phase, output,
      (artifacts_fresh _ (stamp_confined _ _).contained (small_sound _ _)).1 _ _ _ _ _ _ _ comes phase⟩
  · have stands : (((small idlers (Bytes.ofText "/t/x")).at_ inTurn 14).build?.bind
        BuildRun.stage?).map
          (fun stage => ((stage.command.stage, stage.command.output), stage.phase))
        = some ((.runtimeCompile, firstArtifact), .waiting (.ended (.exited 0)) 4 4) := by
      cbv
    obtain ⟨command, later, phase, named⟩ :=
      ((small idlers (Bytes.ofText "/t/x")).comes_at inTurn 14).running
        (fun command => (command.stage, command.output)) stands
    obtain ⟨stage, output⟩ := Prod.mk.inj named
    have lowers := (artifacts_fresh _ idlers_contained (small_sound idlers (Bytes.ofText "/t/x"))).2
      inTurn 14 command (.exited 0) inTurn_fair ⟨later, .inl ⟨4, 4, phase⟩⟩ (by decide) ?_ (by cbv)
    · rw [stage, output] at lowers
      exact lowers
    · rintro ⟨place, denotes, listed, _⟩
      rw [output] at denotes
      have nothing : (((small idlers (Bytes.ofText "/t/x")).at_ inTurn 14).world.files.placeOf []
          firstArtifact).bind ((small idlers (Bytes.ofText "/t/x")).at_ inTurn 14).world.files.get?
          = none := by
        cbv
      have found : ((small idlers (Bytes.ofText "/t/x")).at_ inTurn 14).world.files.placeOf []
          firstArtifact = some place := denotes
      rw [found, Option.bind_some] at nothing
      rw [nothing] at listed
      cases listed

end Solo

end CalcBuild

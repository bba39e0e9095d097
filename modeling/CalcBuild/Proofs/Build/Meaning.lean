/-
**What a successful build makes.**

A build that finds what it needs, and that nothing cuts short, succeeds and leaves the executable that
its tools make of the source text and of the run-time support, at the path asked for. Everything else is
as it was before, apart from missing directories on the way to that path.

* `Task`: what each stage starts from and leaves;
* `OnTrack`: what is said of the files while all goes well;
* `OnTrack.step`, `OnTrack.turn`: it stays so;
* `makes_executable`: what the build comes to.
-/

import CalcBuild.Proofs.Build.Fairness
import CalcBuild.Proofs.Build.Work
import Mathlib

namespace CalcBuild

open Files FileSystem

variable {State : Type}

/-- The stages after a stage. -/
def Stage.rest : Stage → List Stage
  | .runtimeCompile => [.frontendCompile, .lower, .link]
  | .frontendCompile => [.lower, .link]
  | .lower => [.link]
  | .link => []

namespace Solo

/-! ### Tasks -/

section Tasks

variable (solo : Solo State) (tools : Tools) (runtime : Bytes) (temporary beside : Place)

/-- The executable of a build, as an entry. -/
def executable : Entry :=
  .file (tools.executable solo.text runtime).1 (tools.executable solo.text runtime).2

/-- What a build is working on: the command that runs in the workspace under a name that is drawn, the
commands after it, and the files that it starts from and leaves. Only the linker works beside the
output, in the directory that is there then. -/
inductive Task (drawn : Nat) (staging? : Option Bytes) : Command → List Command →
    (FileSystem → Prop) → (FileSystem → Prop) → Prop where
  | making {stage next : Stage} {more : List Stage} (unstaged : staging? = none)
      (rest : stage.rest = next :: more) :
      Task drawn staging? (solo.command drawn stage) (stage.rest.map (solo.command drawn))
        (Desk solo.world.files (solo.workspacePlace temporary drawn)
          (artifacts tools solo.text runtime stage))
        (Desk solo.world.files (solo.workspacePlace temporary drawn)
          (artifacts tools solo.text runtime next))
  | linking {number : Nat} (holds : staging? = some (solo.stagingOf number))
      (free : solo.grown.get? (solo.stagingPlace beside number) = none) :
      Task drawn staging? ((solo.command drawn .link).redirect (solo.stagingOf number)) []
        (Desk solo.grown (solo.workspacePlace temporary drawn)
          (artifacts tools solo.text runtime .link))
        (Desk (solo.grown.put (solo.stagingPlace beside number) (solo.executable tools runtime))
          (solo.workspacePlace temporary drawn) (artifacts tools solo.text runtime .link))

/-- The linker works at the name that was reserved. -/
theorem linker_output (solo : Solo State) (drawn number : Nat) :
    ((solo.command drawn .link).redirect (solo.stagingOf number)).output = solo.stagingOf number :=
  rfl

/-- **What is said of a build and of the files while all goes well.** -/
def OnTrack (dir : Place) (name : Bytes) (run : BuildRun State) (fs : FileSystem) : Prop :=
  let desk (base : FileSystem) (drawn : Nat) : Prop :=
    Desk base (solo.workspacePlace temporary drawn) (artifacts tools solo.text runtime .link) fs
  let opened (drawn : Nat) : Prop :=
    run.workspace? = some (solo.workspaceOf drawn) ∧
      solo.world.files.get? (solo.workspacePlace temporary drawn) = none
  let staged (number : Nat) : Prop :=
    run.staging? = some (solo.stagingOf number) ∧
      solo.grown.get? (solo.stagingPlace beside number) = none
  match run.phase with
  | .starting | .opening => fs = solo.world.files ∧ run.staging? = none
  | .running stage later => ∃ drawn before after, opened drawn ∧
      solo.Task tools runtime temporary beside drawn run.staging? stage.command later before after ∧
      stage.phase.Goes solo.programs solo.setting.IsHarmless before after fs
  | .preparing link later => ∃ drawn, opened drawn ∧ run.staging? = none ∧
      link = solo.command drawn .link ∧ later = [] ∧ desk solo.world.files drawn
  | .reserving link later => ∃ drawn, opened drawn ∧ run.staging? = none ∧
      link = solo.command drawn .link ∧ later = [] ∧ desk solo.grown drawn
  | .vacating link later => ∃ drawn number, opened drawn ∧ staged number ∧
      link = (solo.command drawn .link).redirect (solo.stagingOf number) ∧ later = [] ∧
      desk (solo.grown.put (solo.stagingPlace beside number) (.file Staging.mode [])) drawn
  | .publishing => ∃ drawn number, opened drawn ∧ staged number ∧
      desk (solo.grown.put (solo.stagingPlace beside number) (solo.executable tools runtime)) drawn
  | .closing => ∃ drawn, opened drawn ∧
      desk (solo.grown.put (name :: dir) (solo.executable tools runtime)) drawn
  | .finished (.ok _) => ∀ place,
      fs.get? place = (solo.grown.put (name :: dir) (solo.executable tools runtime)).get? place
  | .withdrawing _ | .abandoning _ | .finished (.error _) => False

end Tasks

section Track

variable {solo : Solo State} {tools : Tools} {runtime : Bytes} {temporary beside dir : Place}
  {name : Bytes} (feasible : solo.Feasible tools runtime temporary beside dir name)
include feasible

/-- **Every task is done.** -/
theorem Task.works {drawn : Nat} {staging? : Option Bytes} {command : Command} {later : List Command}
    {before after : FileSystem → Prop}
    (task : solo.Task tools runtime temporary beside drawn staging? command later before after) :
    Works solo.programs solo.setting solo.setting.IsHarmless command before after := by
  cases task with
  | @making stage next more unstaged rest =>
    cases stage with
    | runtimeCompile =>
      cases rest
      exact feasible.compile_works
    | frontendCompile =>
      cases rest
      exact feasible.frontend_works
    | lower =>
      cases rest
      exact feasible.lower_works
    | link => cases rest
  | linking _ free => exact feasible.link_works free

/-! ### Steps that change files -/

section Changes

variable {fs : FileSystem} {made : List (Bytes × Bytes)} {drawn number : Nat}

/-- A directory of the output is one among files that have all entries. -/
theorem Feasible.directories (extension : fs.Extends solo.grown) :
    fs.isDirectoryAt beside = true ∧ fs.mayChange beside = true ∧ fs.mayChange dir = true := by
  obtain ⟨mode, found, _⟩ := mayChange_iff.mp feasible.staging.allowed
  obtain ⟨mode', found', _⟩ := mayChange_iff.mp feasible.allowed
  refine ⟨isDirectoryAt_iff.mpr ⟨mode, ?_⟩, ?_, ?_⟩
  · rw [extension beside (by rw [found]; rfl), found]
  · rw [mayChange_congr (extension beside (by rw [found]; rfl))]
    exact feasible.staging.allowed
  · rw [mayChange_congr (extension dir (by rw [found']; rfl))]
    exact feasible.allowed

/-- **The workspace is made** under a new name, and is the desk of the first stage. -/
theorem Feasible.opens {world : World} (files : world.files = solo.world.files) :
    ∃ world' drawn, Workspace.create solo.setting solo.builder.workspaceRoot? world
        = (world', .ok (solo.workspaceOf drawn)) ∧
      solo.world.files.get? (solo.workspacePlace temporary drawn) = none ∧
      Desk solo.world.files (solo.workspacePlace temporary drawn)
        (artifacts tools solo.text runtime .runtimeCompile) world'.files := by
  have usable : Usable solo.setting world.files solo.root Workspace.stem 10 temporary :=
    files ▸ feasible.workspace
  obtain ⟨world', drawn, creates, unlisted, made⟩ := usable.create (files ▸ feasible.here)
  rw [files] at unlisted made
  obtain ⟨mode, allowed, _⟩ := mayChange_iff.mp feasible.workspace.allowed
  refine ⟨world', drawn, creates, unlisted, ?_⟩
  rw [made]
  exact .ofNew feasible.sound unlisted (isDirectoryAt_iff.mpr ⟨mode, allowed⟩)

/-- **The missing directories are made beside the workspace** as they would have been without it. -/
theorem Feasible.prepares {world : World}
    (unlisted : solo.world.files.get? (solo.workspacePlace temporary drawn) = none)
    (desk : Desk solo.world.files (solo.workspacePlace temporary drawn) made world.files) :
    ∃ world', Staging.prepare solo.setting solo.request.output world = (world', .ok ()) ∧
      Desk solo.grown (solo.workspacePlace temporary drawn) made world'.files := by
  have makes : solo.world.files.makeDirectories solo.setting.cwd
      (Staging.directory solo.request.output) = (solo.grown, .ok ()) :=
    Prod.ext rfl feasible.parents
  obtain ⟨mode, here⟩ := isDirectoryAt_iff.mp feasible.here
  obtain ⟨fs', makes', beside', within⟩ :=
    makeDirectories_beside desk.beside (by rw [here]; rfl) makes (feasible.fresh drawn unlisted).1
  have madeBy :=
    makeDirectories_madeBy world.files solo.setting.cwd (Staging.directory solo.request.output)
  rw [makes'] at madeBy
  refine ⟨{ world with files := fs' }, ?_, desk.change (madeBy.sound desk.sound) beside' within⟩
  unfold Staging.prepare
  rw [makes']
  rfl

/-- **A name for the linker is reserved** beside the output. -/
theorem Feasible.reserves {world : World}
    (desk : Desk solo.grown (solo.workspacePlace temporary drawn) made world.files) :
    ∃ world' number, Staging.reserve solo.setting solo.request.output world
        = (world', .ok (solo.stagingOf number)) ∧
      solo.grown.get? (solo.stagingPlace beside number) = none ∧
      Desk (solo.grown.put (solo.stagingPlace beside number) (.file Staging.mode []))
        (solo.workspacePlace temporary drawn) made world'.files := by
  have extension := desk.beside.extends_
  have fromStart := extension.trans grown_extends
  obtain ⟨mode, here⟩ := isDirectoryAt_iff.mp feasible.here
  have here' : world.files.isDirectoryAt solo.setting.cwd = true :=
    isDirectoryAt_iff.mpr ⟨mode, (fromStart _ (by rw [here]; rfl)).trans here⟩
  obtain ⟨parent, _, _⟩ := feasible.directories (fun _ _ => rfl)
  obtain ⟨mode', directory⟩ := isDirectoryAt_iff.mp parent
  have leads := walk_extends feasible.grown_sound.closed extension rfl feasible.staging.leads
  obtain ⟨world', number, reserves, free, files⟩ := feasible.staging.reserve here' leads
    (extension _ (by rw [directory]; rfl))
    fun drawn' => desk.beside.same _ (staging_outside drawn' parent desk)
  have proper : solo.stagingPlace beside number ≠ [] := List.cons_ne_nil _ _
  refine ⟨world', number, reserves, free, ?_⟩
  have outside := staging_outside number parent desk
  have parent' : world.files.isDirectoryAt beside = true := (feasible.directories extension).1
  rw [files]
  refine desk.put (desk.sound.put proper parent' fun other => ?_) parent (isDirectoryAt_free free)
    outside fun other => get?_put _ _ _ proper
  rw [isDirectoryAt_free ((desk.beside.same _ outside).trans free)] at other
  cases other

variable (free : solo.grown.get? (solo.stagingPlace beside number) = none)
include free

/-- What is at the place of the linker, next to a desk. -/
theorem Feasible.staged {mode : Mode} {contents : Bytes}
    (desk : Desk (solo.grown.put (solo.stagingPlace beside number) (.file mode contents))
      (solo.workspacePlace temporary drawn) made fs) :
    ¬ isWithin (solo.workspacePlace temporary drawn) (solo.stagingPlace beside number) = true ∧
      fs.Extends solo.grown ∧
      fs.get? (solo.stagingPlace beside number) = some (.file mode contents) := by
  have proper : solo.stagingPlace beside number ≠ [] := List.cons_ne_nil _ _
  have extension := extends_put (.file mode contents) proper free
  have outside := staging_outside number (feasible.directories extension).1 desk
  refine ⟨outside, desk.beside.extends_.trans extension, ?_⟩
  rw [desk.beside.same _ outside, get?_put _ _ _ proper, if_pos rfl]

/-- **The empty file that the name was found by is removed.** -/
theorem Feasible.vacates
    (desk : Desk (solo.grown.put (solo.stagingPlace beside number) (.file Staging.mode []))
      (solo.workspacePlace temporary drawn) made fs) :
    ∃ fs', Staging.vacate solo.setting solo.request.output (solo.stagingOf number) fs
        = (fs', .ok ()) ∧
      Desk solo.grown (solo.workspacePlace temporary drawn) made fs' := by
  obtain ⟨outside, extension, found⟩ := feasible.staged free desk
  obtain ⟨ends, allowed⟩ := feasible.staging_ends extension number
  refine ⟨_, ?_, desk.drop feasible.grown_sound free rfl outside⟩
  unfold Staging.vacate
  rw [unlink_eq_ok_iff.mpr ⟨_, _, _, ends, feasible.staging.shortName number, found, rfl, allowed, rfl⟩]

/-- **The executable is moved to the output.** -/
theorem Feasible.publishes
    (unlisted : solo.world.files.get? (solo.workspacePlace temporary drawn) = none)
    {mode : Mode} {contents : Bytes}
    (desk : Desk (solo.grown.put (solo.stagingPlace beside number) (.file mode contents))
      (solo.workspacePlace temporary drawn) made fs) :
    ∃ fs', Staging.publish solo.setting solo.request.output (solo.stagingOf number) fs
        = (fs', .ok ()) ∧
      Desk (solo.grown.put (name :: dir) (.file mode contents))
        (solo.workspacePlace temporary drawn) made fs' := by
  obtain ⟨outside, extension, found⟩ := feasible.staged free desk
  obtain ⟨ends, allowed⟩ := feasible.staging_ends extension number
  obtain ⟨_, _, allowed'⟩ := feasible.directories extension
  have start := grown_extends _ (feasible.starts solo.request.output)
  have target := ending_extends feasible.grown_sound.closed extension
    (by rw [start]; exact feasible.starts _) feasible.output
  have short := feasible.staging.shortName number
  have proper : solo.stagingPlace beside number ≠ [] := List.cons_ne_nil _ _
  have proper' := List.cons_ne_nil name dir
  unfold Staging.publish
  by_cases same : solo.stagingPlace beside number = name :: dir
  · rw [(rename_leaf_iff desk.sound.closed ends short found rfl).mpr
      ⟨dir, name, target, feasible.short, .inl ⟨same, rfl⟩⟩]
    exact ⟨fs, rfl, same ▸ desk⟩
  · have directory := ending_directory target
    have outside' : ¬ isWithin (solo.workspacePlace temporary drawn) (name :: dir) = true :=
      (desk.drop feasible.grown_sound free rfl outside).beside.outside_of_directory
        (ending_directory feasible.output) (Ne.symm (feasible.fresh drawn unlisted).2)
    have before : fs.get? (name :: dir) = solo.grown.get? (name :: dir) := by
      rw [desk.beside.same _ outside', get?_put _ _ _ proper, if_neg (Ne.symm same)]
    have leaf : fs.isDirectoryAt (name :: dir) = false := by
      have leaf := feasible.leaf
      unfold isDirectoryAt directoryMode? at leaf ⊢
      rwa [before]
    rw [(rename_leaf_iff desk.sound.closed ends short found rfl).mpr
      ⟨dir, name, target, feasible.short, .inr ⟨same, allowed, allowed', leaf, rfl⟩⟩]
    refine ⟨_, rfl, (desk.drop feasible.grown_sound free rfl outside).put
      (desk.sound.move proper proper' (not_isWithin_leaf desk.sound.closed
        (isDirectoryAt_leaf found rfl) directory) directory)
      (ending_directory feasible.output) feasible.leaf outside' fun other => ?_⟩
    rw [desk.sound.get?_move proper proper' found rfl leaf, ← get?_drop fs other proper]
    rfl

omit free in
/-- **Removing the workspace leaves the output** and what the build began with. -/
theorem Feasible.closes {entry : Entry}
    (desk : Desk (solo.grown.put (name :: dir) entry) (solo.workspacePlace temporary drawn) made fs)
    (place : Place) : ((solo.workspaceOf drawn).discard solo.setting fs).get? place
      = (solo.grown.put (name :: dir) entry).get? place := by
  have steady : ∀ place ∈ solo.approach,
      (solo.grown.put (name :: dir) entry).get? place = solo.world.files.get? place := by
    intro place member
    rw [get?_put _ _ _ (List.cons_ne_nil name dir), if_neg, feasible.grown_steady member]
    rintro rfl
    exact feasible.apart member
  obtain ⟨ends, allowed⟩ := feasible.workspace_ends desk steady
  obtain ⟨removes, view⟩ := desk.clear ends (feasible.workspace.shortName drawn) allowed
  unfold Workspace.discard Workspace.remove
  rw [removes]
  exact view place

end Changes

/-! ### All goes well -/

section Going

variable {world world' : World} {run run' : BuildRun State} {events : List Event}

omit feasible in
/-- A stage begins that makes an artifact. -/
theorem OnTrack.begin {drawn : Nat} {stage next : Stage} {more : List Stage} {fs : FileSystem}
    (rest : stage.rest = next :: more)
    (phase : run.phase
      = .running (.start (solo.command drawn stage)) (stage.rest.map (solo.command drawn)))
    (holds : run.workspace? = some (solo.workspaceOf drawn)) (unstaged : run.staging? = none)
    (unlisted : solo.world.files.get? (solo.workspacePlace temporary drawn) = none)
    (desk : Desk solo.world.files (solo.workspacePlace temporary drawn)
      (artifacts tools solo.text runtime stage) fs) :
    solo.OnTrack tools runtime temporary beside dir name run fs := by
  have task : solo.Task tools runtime temporary beside drawn run.staging? _ _ _ _ :=
    .making unstaged rest
  unfold OnTrack
  rw [phase]
  exact ⟨drawn, _, _, ⟨holds, unlisted⟩, task, desk⟩

omit feasible in
/-- After a task the next one begins, or what follows all of them. -/
theorem Task.following {drawn : Nat} {command : Command} {later : List Command}
    {before after : FileSystem → Prop} {fs : FileSystem}
    (task : solo.Task tools runtime temporary beside drawn run.staging? command later before after)
    (done : after fs) (holds : run.workspace? = some (solo.workspaceOf drawn))
    (unlisted : solo.world.files.get? (solo.workspacePlace temporary drawn) = none)
    (phase : run.phase = BuildRun.following later) :
    solo.OnTrack tools runtime temporary beside dir name run fs := by
  cases task with
  | @making stage next more unstaged rest =>
    cases stage with
    | runtimeCompile =>
      cases rest
      exact .begin rfl phase holds unstaged unlisted done
    | frontendCompile =>
      cases rest
      exact .begin rfl phase holds unstaged unlisted done
    | lower =>
      cases rest
      have links : run.phase = .preparing (solo.command drawn .link) [] := phase
      unfold OnTrack
      rw [links]
      exact ⟨drawn, ⟨holds, unlisted⟩, unstaged, rfl, rfl, done⟩
    | link => cases rest
  | @linking number staging free =>
    have publishes : run.phase = .publishing := phase
    unfold OnTrack
    rw [publishes]
    exact ⟨drawn, number, ⟨holds, unlisted⟩, ⟨staging, free⟩, done⟩

/-- **A step of a build keeps it on track**, if nothing cancels it and its stage is in time. -/
theorem OnTrack.step (onTrack : solo.OnTrack tools runtime temporary beside dir name run world.files)
    (request : run.request = solo.request)
    (uncancelled : solo.builder.stageOptions.cancelledBy world.flag = none)
    (onTime : ∀ command state wakes since due later timeout,
      run.phase = .running ⟨command, .waiting (.running state wakes) since due⟩ later →
      solo.builder.stageOptions.timeout? = some timeout → world.clock - since < timeout)
    (steps : BuildRun.Step solo.programs solo.setting solo.builder world run world' run' events) :
    solo.OnTrack tools runtime temporary beside dir name run' world'.files := by
  cases steps with
  | found phase exists_ =>
    simp only [OnTrack, phase] at onTrack ⊢
    exact onTrack
  | sourceless phase missing =>
    simp only [OnTrack, phase] at onTrack
    rw [onTrack.1, feasible.source] at missing
    cases missing
  | opened phase creates =>
    simp only [OnTrack, phase] at onTrack
    obtain ⟨files, unstaged⟩ := onTrack
    obtain ⟨_, drawn, creates', unlisted, desk⟩ := feasible.opens files
    rw [creates] at creates'
    cases creates'
    exact .begin rfl (by rw [request]; rfl) rfl unstaged unlisted desk
  | unopened phase fails =>
    simp only [OnTrack, phase] at onTrack
    obtain ⟨_, _, creates, _⟩ := feasible.opens onTrack.1
    rw [fails] at creates
    cases creates
  | advanced phase steps =>
    simp only [OnTrack, phase] at onTrack ⊢
    obtain ⟨drawn, before, after, opened, task, goes⟩ := onTrack
    refine ⟨drawn, before, after, opened, task, goes.step (task.works feasible) uncancelled ?_ steps⟩
    rintro state wakes since due timeout rfl
    exact onTime _ _ _ _ _ _ _ phase
  | succeeded phase =>
    simp only [OnTrack, phase] at onTrack
    obtain ⟨drawn, before, after, ⟨holds, unlisted⟩, task, done⟩ := onTrack
    exact Task.following task done holds unlisted rfl
  | failed phase =>
    simp only [OnTrack, phase] at onTrack
    obtain ⟨_, _, _, _, _, goes⟩ := onTrack
    exact goes.elim
  | prepared phase prepares =>
    simp only [OnTrack, phase] at onTrack ⊢
    obtain ⟨drawn, opened, unstaged, link, later, desk⟩ := onTrack
    obtain ⟨_, prepares', desk'⟩ := feasible.prepares opened.2 desk
    rw [request, prepares'] at prepares
    cases prepares
    exact ⟨drawn, opened, unstaged, link, later, desk'⟩
  | unprepared phase fails =>
    simp only [OnTrack, phase] at onTrack
    obtain ⟨drawn, opened, _, _, _, desk⟩ := onTrack
    obtain ⟨_, prepares, _⟩ := feasible.prepares opened.2 desk
    rw [request, prepares] at fails
    cases fails
  | reserved phase reserves =>
    simp only [OnTrack, phase] at onTrack ⊢
    obtain ⟨drawn, opened, _, link, later, desk⟩ := onTrack
    obtain ⟨_, number, reserves', free, desk'⟩ := feasible.reserves desk
    rw [← request, reserves] at reserves'
    cases reserves'
    exact ⟨drawn, number, opened, ⟨rfl, free⟩, by rw [link], later, desk'⟩
  | unreserved phase fails =>
    simp only [OnTrack, phase] at onTrack
    obtain ⟨drawn, _, _, _, _, desk⟩ := onTrack
    obtain ⟨_, _, reserves, _⟩ := feasible.reserves desk
    rw [← request, fails] at reserves
    cases reserves
  | vacated phase vacates =>
    simp only [OnTrack, phase] at onTrack ⊢
    obtain ⟨drawn, number, opened, ⟨staging, free⟩, rfl, rfl, desk⟩ := onTrack
    obtain ⟨fs', vacates', desk'⟩ := feasible.vacates free desk
    rw [linker_output, request, vacates'] at vacates
    cases vacates
    have task : solo.Task tools runtime temporary beside drawn run.staging? _ _ _ _ :=
      .linking staging free
    exact ⟨drawn, _, _, opened, task, desk'⟩
  | unvacated phase fails =>
    simp only [OnTrack, phase] at onTrack
    obtain ⟨drawn, number, opened, ⟨staging, free⟩, rfl, rfl, desk⟩ := onTrack
    obtain ⟨fs', vacates, _⟩ := feasible.vacates free desk
    rw [linker_output, request, vacates] at fails
    cases fails
  | unstaged phase nothing =>
    simp only [OnTrack, phase] at onTrack
    obtain ⟨_, _, _, ⟨staging, _⟩, _⟩ := onTrack
    rw [nothing] at staging
    cases staging
  | published phase holds publishes =>
    simp only [OnTrack, phase] at onTrack ⊢
    obtain ⟨drawn, number, opened, ⟨staging, free⟩, desk⟩ := onTrack
    rw [holds] at staging
    cases staging
    obtain ⟨fs', publishes', desk'⟩ := feasible.publishes free opened.2 desk
    rw [request, publishes'] at publishes
    cases publishes
    exact ⟨drawn, opened, desk'⟩
  | unpublished phase holds fails =>
    simp only [OnTrack, phase] at onTrack
    obtain ⟨drawn, number, opened, ⟨staging, free⟩, desk⟩ := onTrack
    rw [holds] at staging
    cases staging
    obtain ⟨fs', publishes, _⟩ := feasible.publishes free opened.2 desk
    rw [request, publishes] at fails
    cases fails
  | closed phase removes _ =>
    simp only [OnTrack, phase] at onTrack ⊢
    obtain ⟨drawn, ⟨holds, _⟩, desk⟩ := onTrack
    rw [holds] at removes
    rw [removes]
    exact feasible.closes desk
  | withdrawn phase _ | abandoned phase _ =>
    simp only [OnTrack, phase] at onTrack

/-- **A turn of a build keeps it on track.** -/
theorem OnTrack.turn (onTrack : solo.OnTrack tools runtime temporary beside dir name run world.files)
    (request : run.request = solo.request)
    (uncancelled : solo.builder.stageOptions.cancelledBy world.flag = none)
    (onTime : ∀ command state wakes since due later timeout,
      run.phase = .running ⟨command, .waiting (.running state wakes) since due⟩ later →
      solo.builder.stageOptions.timeout? = some timeout → world.clock - since < timeout)
    (turn : solo.Turn world run world' run' events) :
    solo.OnTrack tools runtime temporary beside dir name run' world'.files := by
  cases turn with
  | own steps => exact onTrack.step feasible request uncancelled onTime steps
  | process phase files _ _ follows _ =>
    simp only [OnTrack, phase] at onTrack ⊢
    obtain ⟨drawn, before, after, opened, task, goes⟩ := onTrack
    rw [files]
    exact ⟨drawn, before, after, opened, task, goes.process follows⟩

omit feasible in
/-- The process of a build on track finishes. -/
theorem OnTrack.finishes {fs : FileSystem}
    (onTrack : solo.OnTrack tools runtime temporary beside dir name run fs) {command : Command}
    {state : State} {wakes since due : Nat} {later : List Command}
    (phase : run.phase = .running ⟨command, .waiting (.running state wakes) since due⟩ later) :
    ∃ fs' status, solo.programs.Finishes solo.setting.IsHarmless fs state fs' status := by
  simp only [OnTrack, phase] at onTrack
  obtain ⟨_, _, _, _, _, fs', finishes, _⟩ := onTrack
  exact ⟨fs', _, finishes⟩

end Going

/-! ### The end -/

section Ends

variable {schedule : Nat → Choice}

/-- Nothing cuts the build short: no cancellation is seen, and every process is in time. -/
structure Calm (solo : Solo State) (schedule : Nat → Choice) : Prop where
  uncancelled : ∀ count,
    solo.builder.stageOptions.cancelledBy (solo.at_ schedule count).world.flag = none
  onTime : ∀ count command state wakes since due later timeout,
    (solo.runAt schedule count).phase
      = .running ⟨command, .waiting (.running state wakes) since due⟩ later →
    solo.builder.stageOptions.timeout? = some timeout →
    (solo.at_ schedule count).world.clock - since < timeout

/-- **A build that nothing cuts short stays on track**, and nothing ends the driver. -/
theorem Feasible.goes (calm : solo.Calm schedule) (count : Nat) :
    solo.OnTrack tools runtime temporary beside dir name (solo.runAt schedule count)
        (solo.at_ schedule count).world.files ∧
      (solo.at_ schedule count).endedBy? = none := by
  induction count with
  | zero => exact ⟨⟨rfl, rfl⟩, rfl⟩
  | succ count ih =>
    obtain ⟨onTrack, alive⟩ := ih
    obtain ⟨_, _, _, ledger⟩ := (solo.comes_at schedule count).ledger
    constructor
    · rcases solo.at_next schedule count with ⟨same, files⟩ | ⟨_, turn⟩
      · rw [same, files]
        exact onTrack
      · exact onTrack.turn feasible ledger.request_eq (calm.uncancelled count) (calm.onTime count) turn
    · rw [at_succ]
      refine System.endedBy?_act _ alive fun job member state wakes signal next waits sends => ?_
      rw [jobs_at] at member
      obtain rfl := List.mem_singleton.mp member
      obtain ⟨command, since, due, later, phase⟩ := BuildRun.phase_of_child waits
      obtain ⟨_, _, finishes⟩ := onTrack.finishes phase
      exact finishes.signals sends

end Ends

end Track

/-! ### A build that succeeds -/

end Solo

end CalcBuild

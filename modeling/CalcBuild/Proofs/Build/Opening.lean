/-
**The first steps of a build.**

Until it starts its first process, a build does the same whatever else happens: its steps depend on the
files and on how many names have been drawn, and nothing else changes those.

* `Quiet`: a build that has started no process;
* `Opens`: what a build comes to with a number of steps, however they are spread over time;
* `Opens.next`: one step more;
* `opens_failure`: a build that cannot begin is done soon, and leaves the files alone;
* `opens_workspace`: a build that can begin comes to its first command, in a workspace.
-/

import CalcBuild.Proofs.Build.Reserve
import CalcBuild.Proofs.Build.Turns
import CalcBuild.Proofs.Build.Untimed

namespace CalcBuild

open Files

variable {State : Type}

namespace Solo

variable {solo : Solo State}

theorem after_concat (solo : Solo State) (choices : List Choice) (choice : Choice) :
    solo.after (choices ++ [choice])
      = (solo.after choices).act solo.programs solo.setting solo.builder choice :=
  List.foldl_append

/-- The build stands somewhere in a world like the given one, the driver is not ended, and no process
has been started. -/
structure Quiet (solo : Solo State) (world : World) (run : BuildRun State) (system : System State) :
    Prop where
  jobs : system.jobs = [.build run]
  alive : system.endedBy? = none
  world : system.world.untimed = world.untimed
  unstarted : ∀ stage launch, .started stage launch ∉ system.trace

namespace Quiet

variable {world world' : World} {run run' : BuildRun State} {system : System State}

theorem files (quiet : Quiet solo world run system) : system.world.files = world.files :=
  (World.untimed_eq_iff.mp quiet.world).1

/-- Nothing but the build itself does anything. -/
theorem other (quiet : Quiet solo world run system) (childless : (Job.build run).child? = none)
    {choice : Choice} (differs : choice ≠ .job 0) :
    Quiet solo world run (system.act solo.programs solo.setting solo.builder choice) := by
  cases choice with
  | pass time | raise signal => exact ⟨quiet.jobs, quiet.alive, quiet.world, quiet.unstarted⟩
  | job index =>
    cases index with
    | zero => exact absurd rfl differs
    | succ more =>
      have same : system.act solo.programs solo.setting solo.builder (.job (more + 1)) = system := by
        simp [System.act, System.actJob, quiet.jobs]
      rwa [same]
  | child index =>
    have same : system.act solo.programs solo.setting solo.builder (.child index) = system := by
      cases index <;> simp [System.act, System.actChild, quiet.jobs, childless]
    rwa [same]

/-- A build that is able to takes its step. -/
theorem own (quiet : Quiet solo world run system)
    (able : run.isAble solo.builder system.world.clock = true)
    (acts : ∀ now : World, now.untimed = world.untimed →
      (run.act solo.programs solo.setting solo.builder now).2.1 = run' ∧
      (run.act solo.programs solo.setting solo.builder now).1.untimed = world'.untimed ∧
      ∀ stage launch, .started stage launch ∉
        (run.act solo.programs solo.setting solo.builder now).2.2) :
    Quiet solo world' run' (system.act solo.programs solo.setting solo.builder (.job 0)) := by
  obtain ⟨goes, after, silent⟩ := acts system.world quiet.world
  have steps : system.act solo.programs solo.setting solo.builder (.job 0) =
      { system with
        world := (run.act solo.programs solo.setting solo.builder system.world).1
        jobs := [.build run']
        trace := (run.act solo.programs solo.setting solo.builder system.world).2.2.reverse
          ++ system.trace } := by
    simp [System.act, System.actJob, quiet.jobs, quiet.alive, Job.isAble, able, Job.act, goes]
  rw [steps]
  refine ⟨rfl, quiet.alive, after, fun stage launch member => ?_⟩
  rcases List.mem_append.mp member with new | old
  · exact silent stage launch (List.mem_reverse.mp new)
  · exact quiet.unstarted stage launch old

/-- A build that is done takes no step. -/
theorem done (quiet : Quiet solo world run system)
    (able : run.isAble solo.builder system.world.clock = false) :
    Quiet solo world run (system.act solo.programs solo.setting solo.builder (.job 0)) := by
  have same : system.act solo.programs solo.setting solo.builder (.job 0) = system := by
    simp [System.act, System.actJob, quiet.jobs, quiet.alive, Job.isAble, able]
  rwa [same]

end Quiet

/-- With a number of turns of the build, however they are spread over time, it comes to stand
somewhere. -/
def Opens (solo : Solo State) (count : Nat) (world : World) (run : BuildRun State) : Prop :=
  ∀ choices : List Choice, choices.count (.job 0) = count → Quiet solo world run (solo.after choices)

namespace Opens

variable {count : Nat} {world world' : World} {run run' : BuildRun State}

/-- A further turn of the build is the last choice or is followed by choices of other things. -/
theorem further (opens : Opens solo count world run) (childless : (Job.build run').child? = none)
    (turn : ∀ system, Quiet solo world run system →
      Quiet solo world' run' (system.act solo.programs solo.setting solo.builder (.job 0))) :
    Opens solo (count + 1) world' run' := by
  intro choices
  induction choices using List.reverseRecOn with
  | nil => exact fun counts => nomatch counts
  | append_singleton choices choice ih =>
    intro counts
    rw [after_concat]
    rw [List.count_append] at counts
    by_cases own : choice = .job 0
    · subst own
      exact turn _ (opens choices (by simpa using counts))
    · rw [List.count_singleton, if_neg (by simpa using own)] at counts
      exact (ih counts).other childless own

theorem begins (solo : Solo State) : Opens solo 0 solo.world (.start solo.request) := by
  intro choices
  induction choices using List.reverseRecOn with
  | nil => exact fun _ => ⟨rfl, rfl, rfl, fun _ _ => List.not_mem_nil⟩
  | append_singleton choices choice ih =>
    intro counts
    rw [after_concat]
    rw [List.count_append, Nat.add_eq_zero_iff] at counts
    refine (ih counts.1).other rfl ?_
    rintro rfl
    simp at counts

/-- **One step more.** -/
theorem next (opens : Opens solo count world run)
    (childless : (Job.build run').child? = none)
    (able : ∀ clock, run.isAble solo.builder clock = true)
    (acts : ∀ now : World, now.untimed = world.untimed →
      (run.act solo.programs solo.setting solo.builder now).2.1 = run' ∧
      (run.act solo.programs solo.setting solo.builder now).1.untimed = world'.untimed ∧
      ∀ stage launch, .started stage launch ∉
        (run.act solo.programs solo.setting solo.builder now).2.2) :
    Opens solo (count + 1) world' run' :=
  opens.further childless fun _ quiet => quiet.own (able _) acts

/-- A build that is done stays so. -/
theorem stays (opens : Opens solo count world run) {result : Except BuildFailure BuildOutcome}
    (ended : run.phase = .finished result) {later : Nat} (order : count ≤ later) :
    Opens solo later world run := by
  induction order with
  | refl => exact opens
  | step _ ih =>
    refine ih.further ?_ fun _ quiet => quiet.done ?_
    · simp [Job.child?, Job.stage?, BuildRun.stage?, ended]
    · simp [BuildRun.isAble, ended]

end Opens

/-- A build that holds nothing, in a phase. -/
def bare (solo : Solo State) (phase : BuildPhase State) : BuildRun State :=
  ⟨solo.request, phase, [], none, none⟩

/-- A build that holds nothing and has failed is done two steps later, and leaves the files alone. -/
theorem Opens.withdraws {count : Nat} {world : World} {failure : BuildFailure}
    (opens : Opens solo count world (solo.bare (.withdrawing failure))) :
    Opens solo (count + 1) world (solo.bare (.abandoning failure)) ∧
      ∀ later, count + 2 ≤ later →
        Opens solo later world (solo.bare (.finished (.error failure))) := by
  have abandons : Opens solo (count + 1) world (solo.bare (.abandoning failure)) :=
    opens.next rfl (fun _ => rfl) fun now same => ⟨rfl, same, fun _ _ => List.not_mem_nil⟩
  have finishes : Opens solo (count + 2) world (solo.bare (.finished (.error failure))) :=
    abandons.next rfl (fun _ => rfl) fun now same => ⟨rfl, same, fun _ _ => List.not_mem_nil⟩
  exact ⟨abandons, fun later order => finishes.stays rfl order⟩

/-- The source of the run-time support is a file. -/
def HasSource (solo : Solo State) : Prop :=
  solo.world.files.isFile solo.setting.cwd solo.builder.runtimeSource = true

theorem opens_missing (missing : ¬ solo.HasSource) :
    Opens solo 1 solo.world
      (solo.bare (.withdrawing (.missingRuntime solo.builder.runtimeSource))) := by
  refine (Opens.begins solo).next rfl (fun _ => rfl) fun now same => ?_
  have files : now.files = solo.world.files := (World.untimed_eq_iff.mp same).1
  unfold HasSource at missing
  rw [← files] at missing
  have acts : (BuildRun.start solo.request).act solo.programs solo.setting solo.builder now
      = (now, solo.bare (.withdrawing (.missingRuntime solo.builder.runtimeSource)), []) := by
    simp [BuildRun.act, BuildRun.start, missing, bare]
  rw [acts]
  exact ⟨rfl, same, fun _ _ => List.not_mem_nil⟩

theorem opens_found (found : solo.HasSource) :
    Opens solo 1 solo.world (solo.bare .opening) := by
  refine (Opens.begins solo).next rfl (fun _ => rfl) fun now same => ?_
  have files : now.files = solo.world.files := (World.untimed_eq_iff.mp same).1
  unfold HasSource at found
  rw [← files] at found
  have acts : (BuildRun.start solo.request).act solo.programs solo.setting solo.builder now
      = (now, solo.bare .opening, []) := by
    simp [BuildRun.act, BuildRun.start, found, bare]
  rw [acts]
  exact ⟨rfl, same, fun _ _ => List.not_mem_nil⟩

/-- Making the workspace of the build. -/
def creation (solo : Solo State) : World × Except BuildFailure Workspace :=
  Workspace.create solo.setting solo.builder.workspaceRoot? solo.world

theorem creation_eq (solo : Solo State) :
    Workspace.create solo.setting solo.builder.workspaceRoot? solo.world
      = (solo.creation.1, solo.creation.2) :=
  rfl

/-- The workspace is the same whenever it is made. -/
theorem creation_later {now : World} (same : now.untimed = solo.world.untimed) :
    (Workspace.create solo.setting solo.builder.workspaceRoot? now).2 = solo.creation.2 ∧
      (Workspace.create solo.setting solo.builder.workspaceRoot? now).1.untimed
        = solo.creation.1.untimed := by
  have here := Workspace.create_untimed solo.setting solo.world solo.builder.workspaceRoot?
  rw [← same, Workspace.create_untimed, Prod.mk.injEq] at here
  exact here.symm

theorem opens_refused (found : solo.HasSource) {failure : BuildFailure}
    (refused : solo.creation.2 = .error failure) :
    Opens solo 2 solo.creation.1 (solo.bare (.withdrawing failure)) := by
  refine (opens_found found).next rfl (fun _ => rfl) fun now same => ?_
  obtain ⟨result, after⟩ := creation_later same
  rw [refused] at result
  have acts : (solo.bare .opening).act solo.programs solo.setting solo.builder now
      = ((Workspace.create solo.setting solo.builder.workspaceRoot? now).1,
        solo.bare (.withdrawing failure), []) := by
    unfold BuildRun.act
    dsimp only [bare]
    split
    · rename_i creates
      rw [creates] at result ⊢
      cases result
      rfl
    · rename_i creates
      rw [creates] at result
      cases result
  rw [acts]
  exact ⟨rfl, after, fun _ _ => List.not_mem_nil⟩

/-- The build with its new workspace, before its first command. -/
def entered (solo : Solo State) (workspace : Workspace) : BuildRun State where
  request := solo.request
  phase := BuildRun.following (BuildRun.commands solo.builder workspace solo.request)
  results := []
  workspace? := some workspace
  staging? := none

theorem opens_made (found : solo.HasSource) {workspace : Workspace}
    (made : solo.creation.2 = .ok workspace) :
    Opens solo 2 solo.creation.1 (solo.entered workspace) := by
  refine (opens_found found).next rfl (fun _ => rfl) fun now same => ?_
  obtain ⟨result, after⟩ := creation_later same
  rw [made] at result
  have acts : (solo.bare .opening).act solo.programs solo.setting solo.builder now
      = ((Workspace.create solo.setting solo.builder.workspaceRoot? now).1, solo.entered workspace,
        [.recorded workspace.createdRecord]) := by
    unfold BuildRun.act
    dsimp only [bare]
    split
    · rename_i creates
      rw [creates] at result
      cases result
    · rename_i creates
      rw [creates] at result ⊢
      cases result
      rfl
  rw [acts]
  exact ⟨rfl, after, by simp⟩

/-- **A build that cannot begin** is done after four steps at most. It leaves the files alone and starts
no process. -/
theorem opens_failure {failure : BuildFailure}
    (fails : ¬ solo.HasSource ∧ failure = .missingRuntime solo.builder.runtimeSource ∨
      solo.HasSource ∧ solo.creation.2 = .error failure) (count : Nat) :
    ∃ world phase, Opens solo count world (solo.bare phase) ∧ world.files = solo.world.files ∧
      (phase = .finished (.error failure) ∨ count < 4 ∧ (solo.bare phase).result? = none) := by
  rcases fails with ⟨missing, rfl⟩ | ⟨found, refused⟩
  · obtain ⟨abandons, finishes⟩ := (opens_missing missing).withdraws
    match count with
    | 0 => exact ⟨_, _, .begins solo, rfl, .inr ⟨by omega, rfl⟩⟩
    | 1 => exact ⟨_, _, opens_missing missing, rfl, .inr ⟨by omega, rfl⟩⟩
    | 2 => exact ⟨_, _, abandons, rfl, .inr ⟨by omega, rfl⟩⟩
    | more + 3 => exact ⟨_, _, finishes _ (by omega), rfl, .inl rfl⟩
  · have files := (create_error (refused ▸ solo.creation_eq)).2
    obtain ⟨abandons, finishes⟩ := (opens_refused found refused).withdraws
    match count with
    | 0 => exact ⟨_, _, .begins solo, rfl, .inr ⟨by omega, rfl⟩⟩
    | 1 => exact ⟨_, _, opens_found found, rfl, .inr ⟨by omega, rfl⟩⟩
    | 2 => exact ⟨_, _, opens_refused found refused, files, .inr ⟨by omega, rfl⟩⟩
    | 3 => exact ⟨_, _, abandons, files, .inr ⟨by omega, rfl⟩⟩
    | more + 4 => exact ⟨_, _, finishes _ (by omega), files, .inl rfl⟩

/-- **A build that can begin** comes to its first command with its second step. All that it has done is
to make its workspace, a new directory. -/
theorem opens_workspace (found : solo.HasSource) {workspace : Workspace}
    (made : solo.creation.2 = .ok workspace) :
    Opens solo 2 solo.creation.1 (solo.entered workspace) ∧
      (∃ command later, (solo.entered workspace).phase = .running (.start command) later ∧
        command.stage = .runtimeCompile) ∧
      ∃ drawn, workspace.path
          = Path.join (solo.setting.anchor (solo.builder.workspaceRoot?.getD solo.setting.temporaryRoot))
            (Workspace.stem ++ solo.setting.names drawn) ∧
        solo.world.files.makeDirectory solo.setting.cwd workspace.path
          = .ok solo.creation.1.files := by
  refine ⟨opens_made found made, ⟨_, _, rfl, rfl⟩, ?_⟩
  obtain ⟨drawn, _, path, makes⟩ := create_ok (made ▸ solo.creation_eq)
  exact ⟨drawn, path, makes⟩

end Solo

end CalcBuild

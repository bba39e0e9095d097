/-
**What a turn of a build does to the files.**

A turn makes the workspace, works at one path in it, makes directories for the output, draws a name for
the linker, works at that name, moves what is there to the output path, or removes the workspace; and it
does nothing else. What the linker is about and what the build removes again is at the name that the
build holds.

* `BuildRun.Effect`: the effects, with what the build holds before and after;
* `BuildRun.Turn.effect`: every turn has one of them;
* `BuildRun.Effect.sound`: all of them leave a tree;
* `BuildRun.Effect.atName`: what a build that holds a name for the linker may change.
-/

import CalcBuild.Proofs.Build.Crowd
import CalcBuild.Proofs.Build.Frame
import CalcBuild.Proofs.Files.Removal

namespace CalcBuild

open Files FileSystem

variable {State : Type}

/-- What a turn of a build does to the files, with what the build holds before and after it. -/
inductive BuildRun.Effect (setting : Setting) (run run' : BuildRun State) (fs fs' : FileSystem) :
    Prop where
  | nothing (files : fs' = fs) (workspaces : run'.workspace? = run.workspace?)
      (stagings : run'.staging? = run.staging?) : Effect setting run run' fs fs'
  | opened {workspace : Workspace} (holds : run'.workspace? = some workspace)
      (stagings : run'.staging? = run.staging?) (unstaged : run.staging? = none)
      (makes : fs.makeDirectory setting.cwd workspace.path = .ok fs') : Effect setting run run' fs fs'
  | worked {workspace : Workspace} {leaf : Bytes} (holds : run.workspace? = some workspace)
      (absolute : Path.isAbsolute workspace.path = true)
      (workspaces : run'.workspace? = run.workspace?) (unstaged : run.staging? = none)
      (stagings : run'.staging? = run.staging?) (isLeaf : Path.IsLeaf leaf)
      (touched : Touched setting.cwd (Path.join workspace.path leaf) fs fs') :
      Effect setting run run' fs fs'
  | prepared (workspaces : run'.workspace? = run.workspace?) (unstaged : run.staging? = none)
      (stagings : run'.staging? = run.staging?)
      (made : MadeBy setting.cwd (Path.ancestors (Staging.directory run.request.output)) fs fs') :
      Effect setting run run' fs fs'
  | reserved {staging : Bytes} (unstaged : run.staging? = none) (holds : run'.staging? = some staging)
      (workspaces : run'.workspace? = run.workspace?) (absolute : Path.isAbsolute staging = true)
      (makes : fs.createNew setting.cwd Staging.mode staging = .ok fs') : Effect setting run run' fs fs'
  | linked {staging : Bytes} (holds : run.staging? = some staging)
      (stagings : run'.staging? = run.staging? ∨ run'.staging? = none)
      (workspaces : run'.workspace? = run.workspace?)
      (touched : Touched setting.cwd staging fs fs') : Effect setting run run' fs fs'
  | published {staging : Bytes} (phase : run.phase = .publishing) (holds : run.staging? = some staging)
      (unstaged : run'.staging? = none) (workspaces : run'.workspace? = run.workspace?)
      (renames : fs.rename setting.cwd staging run.request.output = .ok fs') :
      Effect setting run run' fs fs'
  | removed {workspace : Workspace} (holds : run.workspace? = some workspace)
      (released : run'.workspace? = none) (unstaged : run.staging? = none)
      (stagings : run'.staging? = run.staging?)
      (files : fs' = (fs.removeAll setting.cwd workspace.path).1) : Effect setting run run' fs fs'

namespace BuildRun

variable {programs : Programs State} {setting : Setting} {builder : Builder} {request : BuildRequest}
  {before after : World} {run run' : BuildRun State} {events : List Event}

/-- The path of the workspace that a build holds starts at the root. -/
def Rooted (run : BuildRun State) : Prop :=
  ∀ workspace, run.workspace? = some workspace → Path.isAbsolute workspace.path = true

theorem Rooted.turn (rooted : run.Rooted)
    (turn : Turn programs setting builder before run after run' events) : run'.Rooted := by
  intro workspace holds
  cases turn with
  | process _ _ _ _ _ _ => exact rooted workspace holds
  | own steps =>
    cases steps with
    | opened phase creates =>
      cases holds
      obtain ⟨_, absolute, _⟩ := create_ok creates
      exact absolute
    | _ => first | exact rooted workspace holds | cases holds

/-- What a build holds at its end is removed, if anything. -/
theorem effect_release {fs fs' : FileSystem}
    (removes : fs' = match run.workspace? with
      | some workspace => workspace.discard setting fs
      | none => fs)
    (released : run'.workspace? = none) (unstaged : run.staging? = none)
    (stagings : run'.staging? = run.staging?) : Effect setting run run' fs fs' := by
  cases holds : run.workspace? with
  | none =>
    rw [holds] at removes
    exact .nothing removes (by rw [released, holds]) stagings
  | some workspace =>
    rw [holds] at removes
    exact .removed holds released unstaged stagings removes

/-- The steps of a build. -/
theorem Step.effect (sound : before.files.Sound) (wired : run.Wired builder request)
    (steps : Step programs setting builder before run after run' events) :
    Effect setting run run' before.files after.files := by
  have stands := wired.2
  cases steps with
  | opened phase creates =>
    rw [phase] at stands
    obtain ⟨_, _, _, makes⟩ := create_ok creates
    exact .opened rfl rfl stands.2.2 makes
  | unopened phase fails => exact .nothing (create_error fails).2 rfl rfl
  | prepared phase prepares | unprepared phase prepares =>
    rw [phase] at stands
    obtain ⟨_, _, _, _, unstaged, _⟩ := stands
    exact .prepared rfl unstaged rfl (prepare_madeBy prepares)
  | reserved phase reserves =>
    rw [phase] at stands
    obtain ⟨_, _, _, _, unstaged, _⟩ := stands
    obtain ⟨_, absolute, makes, _⟩ := reserve_ok reserves
    exact .reserved unstaged rfl rfl absolute makes
  | unreserved phase fails => exact .nothing (reserve_error fails).2 rfl rfl
  | @vacated _ link _ phase vacates | @unvacated _ _ link _ phase vacates =>
    rw [phase] at stands
    obtain ⟨workspace, staging, done, _, _, holds, plan, isLink⟩ := stands
    have same := (planned_output (mem_planned plan)).2.2 isLink staging rfl
    refine .linked holds (.inl rfl) rfl ?_
    obtain rfl : _ = _ := congrArg Prod.fst vacates
    rw [Solo.vacate_eq, same]
    exact Solo.discard_touched sound
  | unpublished phase holds fails =>
    exact .nothing (publish_error fails).2 rfl rfl
  | published phase holds publishes =>
    exact .published phase holds rfl rfl (publish_ok publishes)
  | closed phase removes _ =>
    rw [phase] at stands
    exact effect_release removes rfl stands.1 rfl
  | abandoned phase removes =>
    rw [phase] at stands
    exact effect_release removes rfl stands rfl
  | withdrawn phase discards =>
    cases holds : run.staging? with
    | none =>
      rw [holds] at discards
      exact .nothing discards rfl holds.symm
    | some staging =>
      rw [holds] at discards
      refine .linked holds (.inr rfl) rfl ?_
      subst discards
      exact Solo.discard_touched sound
  | _ => exact .nothing rfl rfl rfl

/-- **Every turn of a build has one of the effects.** -/
theorem Turn.effect (confined : programs.Confined) (sound : before.files.Sound)
    (wired : run.Wired builder request) (started : run.Started programs setting)
    (rooted : run.Rooted) (turn : Turn programs setting builder before run after run' events) :
    Effect setting run run' before.files after.files := by
  cases turn with
  | own steps => exact steps.effect sound wired
  | process phase files _ _ _ _ =>
    obtain ⟨workspace, holds, asks, inWorkspace, atStaging⟩ := wired.artifact phase
    have touched := confined.touches (started _ _ _ _ _ _ phase) asks sound
    rw [← files] at touched
    cases staged : run.staging? with
    | none =>
      obtain ⟨leaf, isLeaf, same⟩ := inWorkspace staged
      exact .worked holds (rooted workspace holds) rfl staged staged.symm isLeaf (same ▸ touched)
    | some staging => exact .linked staged (.inl staged.symm) rfl (atStaging staging staged ▸ touched)

/-- **Every effect leaves a tree.** -/
theorem Effect.sound {fs fs' : FileSystem} (sound : fs.Sound) (effect : Effect setting run run' fs fs') :
    fs'.Sound := by
  cases effect with
  | nothing files _ _ => exact files ▸ sound
  | opened _ _ _ makes => exact makeDirectory_sound makes sound
  | worked _ _ _ _ _ _ touched | linked _ _ _ touched => exact touched.sound
  | prepared _ _ _ made => exact made.sound sound
  | reserved _ _ _ _ makes => exact (createNew_touched sound makes).sound
  | published _ _ _ _ renames => exact rename_sound sound renames
  | removed _ _ _ _ files =>
    subst files
    rcases removeAll_shrunk sound setting.cwd _ with same | ⟨_, _, _, shrunk⟩
    · exact same.symm ▸ sound
    · exact shrunk.sound

/-- **While a build holds a name for the linker**, it changes nothing but what the name denotes, unless
it moves that to the output path and lets go of the name. -/
theorem Effect.atName {fs fs' : FileSystem} (sound : fs.Sound)
    (effect : Effect setting run run' fs fs') {staging : Bytes} (holds : run.staging? = some staging)
    (keeps : run.phase ≠ .publishing ∨ run'.staging? = some staging) :
    Touched setting.cwd staging fs fs' := by
  have staged {other : Bytes} (held : run.staging? = some other) : other = staging :=
    Option.some.inj (held.symm.trans holds)
  cases effect with
  | nothing files _ _ =>
    subst files
    exact .refl sound
  | linked held _ _ touched => exact staged held ▸ touched
  | published phase _ unstaged _ _ =>
    rcases keeps with unpublished | kept
    · exact absurd phase unpublished
    · rw [unstaged] at kept
      cases kept
  | opened _ _ unstaged _ | worked _ _ _ unstaged _ _ _ | prepared _ unstaged _ _
  | reserved unstaged _ _ _ _ | removed _ _ unstaged _ _ =>
    rw [unstaged] at holds
    cases holds

end BuildRun

namespace Crowd

variable {crowd : Crowd State}

/-- The path of every workspace that is held starts at the root. -/
theorem Comes.rooted {choices : List Choice} {world : World} {runs : List (BuildRun State)}
    (comes : crowd.Comes choices world runs) {index : Nat} {run : BuildRun State}
    (listed : runs[index]? = some run) : run.Rooted :=
  (comes.each (motive := fun _ run => run.Rooted) (fun _ _ holds => nomatch holds)
    (fun turn rooted => rooted.turn turn) listed).choose_spec.2

/-- **The files are a tree at every moment.** -/
theorem Comes.sound (confined : crowd.programs.Confined) (sound : crowd.world.files.Sound)
    {choices : List Choice} {world : World} {runs : List (BuildRun State)}
    (comes : crowd.Comes choices world runs) : world.files.Sound := by
  refine comes.induction (motive := fun _ world _ => world.files.Sound) sound ?_ ?_
  · exact fun _ _ files _ ih => files ▸ ih
  · intro choices choice before after runs index run run' events earlier _ listed turn ih
    obtain ⟨request, _, wired⟩ := earlier.wired listed
    exact (turn.effect confined ih wired (earlier.started listed) (earlier.rooted listed)).sound ih

/-- Every turn of one of the builds has one of the effects. -/
theorem Comes.effect (confined : crowd.programs.Confined) (sound : crowd.world.files.Sound)
    {choices : List Choice} {before after : World} {runs : List (BuildRun State)}
    (comes : crowd.Comes choices before runs) {index : Nat} {run run' : BuildRun State}
    {events : List Event} (listed : runs[index]? = some run)
    (turn : crowd.Turn before run after run' events) :
    BuildRun.Effect crowd.setting run run' before.files after.files := by
  obtain ⟨request, _, wired⟩ := comes.wired listed
  exact turn.effect confined (comes.sound confined sound) wired (comes.started listed)
    (comes.rooted listed)

end Crowd

end CalcBuild

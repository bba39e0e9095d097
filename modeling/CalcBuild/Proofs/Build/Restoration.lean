/-
**A build that fails leaves the files as they were.**

Whatever goes wrong, at whatever moment, and whatever the processes had made of the files that they
were asked for: when a build has failed, every entry is what it was before it, the one at the output
path included. Only directories on the way to the output may be new, and only if the first three
stages had succeeded.

* `Solo.Keeping`, `Solo.Tidy`: what is true of the files at each moment, by what the build holds;
* `Tidy.step`, `Tidy.process`, `Comes.tidy`: that it is, after every step and at every moment;
* `Solo.failure_restores`: the main theorem.
-/

import CalcBuild.Proofs.Build.Frame
import Mathlib

namespace CalcBuild

open Files FileSystem

variable {State : Type}

namespace Solo

variable {solo : Solo State}

/-! ### Processes of a build -/

/-- **The process that a build waits for was started by the launch of its command.** -/
theorem Comes.reaches {choices : List Choice} {world : World} {run : BuildRun State}
    {trace : List Event} (comes : solo.Comes choices world run trace) {command : Command}
    {state : State} {wakes since due : Nat} {later : List Command}
    (waits : run.phase = .running ⟨command, .waiting (.running state wakes) since due⟩ later) :
    solo.programs.Reaches (command.launch solo.setting) state := by
  have started : run.Started solo.programs solo.setting := by
    refine comes.induction (motive := fun _ _ run _ => run.Started solo.programs solo.setting)
      (fun _ _ _ _ _ _ waits => nomatch waits) (fun _ _ _ _ ih => ih) ?_
    exact fun _ _ turn started => started.turn turn
  exact started _ _ _ _ _ _ waits

/-! ### What a build holds -/

variable (solo) in
/-- What is true of the files while a build holds a workspace and a name for the linker, or only a
workspace, or neither. -/
def Keeping (choices : List Choice) (fs : FileSystem) : Option Workspace → Option Bytes → Prop
  | none, none => fs.Sound ∧ ∀ place, solo.Kept choices fs place
  | some workspace, none => ∃ dir name, solo.Held choices fs workspace dir name fun _ => False
  | some workspace, some staging => ∃ dir name stagingDir stagingName,
      solo.Held choices fs workspace dir name (· = stagingName :: stagingDir) ∧
        solo.Staged fs staging stagingDir stagingName
  | none, some _ => False

variable (solo) in
/-- A build that is not past the rename holds what it has to remove, and has let go of it in the end.
Before it has a workspace it has changed nothing. -/
def Tidy (choices : List Choice) (fs : FileSystem) (run : BuildRun State) : Prop :=
  IsPublished run ∨ solo.Keeping choices fs run.workspace? run.staging? ∧
    match run.phase with
    | .starting | .opening => fs = solo.world.files ∧ run.workspace? = none ∧ run.staging? = none
    | .abandoning _ => run.staging? = none
    | .finished _ => run.workspace? = none ∧ run.staging? = none
    | _ => True

theorem Keeping.mono {choices choices' : List Choice} {fs : FileSystem} {workspace? : Option Workspace}
    {staging? : Option Bytes} (keeping : solo.Keeping choices fs workspace? staging?)
    (longer : choices <+: choices') : solo.Keeping choices' fs workspace? staging? := by
  unfold Keeping at keeping ⊢
  split at keeping
  · exact ⟨keeping.1, fun place => (keeping.2 place).mono longer⟩
  · obtain ⟨dir, name, held⟩ := keeping
    exact ⟨dir, name, held.mono longer⟩
  · obtain ⟨dir, name, stagingDir, stagingName, held, staged⟩ := keeping
    exact ⟨dir, name, stagingDir, stagingName, held.mono longer, staged⟩
  · exact keeping

section Steps

variable {choices : List Choice} {choice : Choice} {fs fs' : FileSystem}

/-- **Making a workspace** where nothing was changed before. -/
theorem keeping_opened (sound : solo.world.files.Sound) {workspace : Workspace}
    (absolute : Path.isAbsolute workspace.path = true)
    (makes : solo.world.files.makeDirectory solo.setting.cwd workspace.path = .ok fs) :
    solo.Keeping choices fs (some workspace) none := by
  have soundAfter := makeDirectory_sound makes sound
  obtain ⟨dir, name, slashed, ends, short, free, allowed, rfl⟩ := makeDirectory_eq_ok_iff.mp makes
  have view (place : Place) := get?_put solo.world.files (.directory Mode.ofDirectory) place
    (List.cons_ne_nil name dir)
  refine ⟨dir, name, soundAfter, absolute, ⟨slashed, ends⟩, short, free, allowed, ?_, ?_, ?_⟩
  · rw [isDirectoryAt_iff, view, if_pos rfl]
    exact ⟨_, rfl⟩
  · intro place mode within directory
    rw [view] at directory
    by_cases same : place = name :: dir
    · rw [if_pos same] at directory
      cases directory
      rfl
    · rw [if_neg same, get?_within_free sound.closed free within] at directory
      cases directory
  · intro place outside _
    refine .inl ?_
    rw [view, if_neg]
    rintro rfl
    exact outside (isWithin_self _)

/-- Nothing but missing directories of the output is new after they were made. -/
theorem keeping_grown {workspace : Workspace}
    (keeping : solo.Keeping choices fs (some workspace) none) (grows : fs'.Grows fs)
    (soundAfter : fs.Sound → fs'.Sound) (made : ∀ place, fs.get? place = none →
      fs'.get? place ≠ none → solo.MadeParent choices place) :
    solo.Keeping choices fs' (some workspace) none := by
  obtain ⟨dir, name, held⟩ := keeping
  exact ⟨dir, name, held.grow grows (soundAfter held.sound) made⟩

/-- **Reserving a name for the linker** makes a file where nothing was before the build. -/
theorem keeping_reserved (closed : solo.world.files.Closed) {workspace : Workspace} {staging : Bytes}
    (keeping : solo.Keeping choices fs (some workspace) none)
    (absolute : Path.isAbsolute staging = true) {mode : Mode}
    (makes : fs.createNew solo.setting.cwd mode staging = .ok fs') :
    solo.Keeping choices fs' (some workspace) (some staging) := by
  obtain ⟨dir, name, held⟩ := keeping
  have touched := createNew_touched held.sound makes
  obtain ⟨stagingDir, stagingName, ends, short, free, allowed, _⟩ := createNew_eq_ok_iff.mp makes
  have denotes : fs.placeOf solo.setting.cwd staging = some (stagingName :: stagingDir) := by
    unfold placeOf
    rw [ends]
  have new : solo.world.files.get? (stagingName :: stagingDir) = none := by
    by_contra listed
    rw [held.extends_ closed (fun _ => False.elim) _ (Option.isSome_iff_ne_none.mpr listed)] at free
    exact listed free
  refine ⟨dir, name, stagingDir, stagingName,
    held.touch touched (fun _ => False.elim) fun place denotes' => .inr ?_,
    absolute, new, touched.leaf (isDirectoryAt_free free), short, fs, held.sound.closed, ends, free,
    allowed, fun place differs => touched.elsewhere denotes differs⟩
  rw [denotes] at denotes'
  exact (Option.some.inj denotes').symm

/-- **A change of the artifact of a command** keeps what a build holds: the artifact is the name for
the linker, or else in the workspace. -/
theorem keeping_touched (closed : solo.world.files.Closed) {workspace : Workspace}
    {staging? : Option Bytes} (keeping : solo.Keeping choices fs (some workspace) staging?)
    {path : Bytes} (touched : fs.Sound → Touched solo.setting.cwd path fs fs')
    (inWorkspace : staging? = none →
      ∃ leaf, Path.IsLeaf leaf ∧ path = Path.join workspace.path leaf)
    (atStaging : ∀ staging, staging? = some staging → path = staging) :
    solo.Keeping choices fs' (some workspace) staging? := by
  cases staging? with
  | none =>
    obtain ⟨dir, name, held⟩ := keeping
    obtain ⟨leaf, isLeaf, rfl⟩ := inWorkspace rfl
    obtain ⟨slashed, ends⟩ := held.ends closed fun _ => False.elim
    refine ⟨dir, name, held.touch (touched held.sound) (fun _ => id) fun place denotes => .inl ?_⟩
    rw [placeOf_join ends held.short held.own held.absolute isLeaf denotes]
    exact isWithin_cons leaf (isWithin_self _)
  | some staging =>
    obtain ⟨dir, name, stagingDir, stagingName, held, staged⟩ := keeping
    obtain rfl := atStaging staging rfl
    refine ⟨dir, name, stagingDir, stagingName,
      held.touch (touched held.sound) (fun _ => id) fun place denotes => .inr ?_,
      staged.touch (touched held.sound)⟩
    rw [staged.placeOf] at denotes
    exact (Option.some.inj denotes).symm

/-- **Giving up the name for the linker** leaves nothing there. -/
theorem keeping_withdrawn {workspace? : Option Workspace} {staging : Bytes}
    (keeping : solo.Keeping choices fs workspace? (some staging)) :
    solo.Keeping choices (Staging.discard solo.setting staging fs) workspace? none := by
  cases workspace? with
  | none => exact keeping.elim
  | some workspace =>
    obtain ⟨dir, name, stagingDir, stagingName, held, staged⟩ := keeping
    have still := held.touch (discard_touched held.sound) (fun _ => id) fun place denotes => by
      rw [staged.placeOf] at denotes
      exact .inr (Option.some.inj denotes).symm
    refine ⟨dir, name, still.settle ?_⟩
    rintro place rfl
    exact .inl (staged.discard.trans staged.free.symm)

/-- **Removing the workspace** leaves nothing but what is kept. -/
theorem keeping_abandoned (closed : solo.world.files.Closed) {workspace : Workspace}
    (keeping : solo.Keeping choices fs (some workspace) none) :
    solo.Keeping choices (workspace.discard solo.setting fs) none none := by
  obtain ⟨dir, name, held⟩ := keeping
  obtain ⟨removes, kept⟩ := held.release closed
  rw [removes]
  exact ⟨held.sound.dropBelow (List.cons_ne_nil name dir), kept⟩

end Steps

/-! ### Every moment of a run -/

section Moments

variable {choices : List Choice} {choice : Choice} {before after : World} {run run' : BuildRun State}
  {trace events : List Event} {done : List (Command × WaitStatus)} {started : List Command}
  {reaped : List (Stage × WaitStatus)}

/-- Before the linker the first three stages have succeeded. -/
theorem Ledger.three_succeeded
    (ledger : solo.Ledger choices before run trace done started reaped) {link : Command}
    {later : List Command} (phase : run.phase = .preparing link later) :
    ∀ stage ∈ [Stage.runtimeCompile, .frontendCompile, .lower],
      ∃ command status, command.stage = stage ∧ solo.Succeeded choices command status := by
  have standing := ledger.standing
  simp only [Standing, phase] at standing
  obtain ⟨workspace, _, plan, isLink, _⟩ := standing
  have stages := planned_stages solo.builder solo.request workspace none
  rw [plan, List.map_append, List.map_cons] at stages
  have last := (Stage.order_split stages).2.mp isLink
  intro stage member
  have listed : stage ∈ Stage.order ∧ stage ≠ .link := by
    simp only [List.mem_cons, List.not_mem_nil, or_false] at member
    rcases member with rfl | rfl | rfl <;> decide
  rw [← stages, last, isLink, List.mem_append, List.mem_singleton, List.map_map] at listed
  obtain ⟨entry, inDone, same⟩ := List.mem_map.mp (listed.1.resolve_right listed.2)
  exact ⟨entry.1, entry.2, same, ledger.succeeded entry inDone⟩

/-- **What a build holds after making the directories of the output**, also when that failed. -/
theorem keeping_prepared (ledger : solo.Ledger choices before run trace done started reaped)
    (comes' : solo.Comes (choices ++ [choice]) after run' (events.reverse ++ trace))
    {link : Command} {later : List Command} (phase : run.phase = .preparing link later)
    {result : Except BuildFailure Unit}
    (prepares : Staging.prepare solo.setting run.request.output before = (after, result))
    (keeping : solo.Keeping (choices ++ [choice]) before.files run.workspace? run.staging?) :
    solo.Keeping (choices ++ [choice]) after.files run.workspace? run.staging? := by
  have succeeded := ledger.three_succeeded phase
  have standing := ledger.standing
  simp only [Standing, phase] at standing
  obtain ⟨workspace, holds, _, _, unstaged, _⟩ := standing
  rw [ledger.request_eq] at prepares
  have made := prepare_madeBy prepares
  rw [holds, unstaged] at keeping ⊢
  refine keeping_grown keeping made.grows made.sound fun place free new => ?_
  refine ⟨fun stage member => ?_, _, after, run', _, List.prefix_rfl, comes', made.denoted free new⟩
  obtain ⟨command, status, same, succeeds⟩ := succeeded stage member
  exact ⟨command, status, same, succeeds.mono (List.prefix_append _ _)⟩

/-- A command of a plan makes what its arguments end in: the name for the linker if there is one, and
else something in the workspace. -/
theorem planned_artifact {workspace : Workspace} {staging? : Option Bytes} {command : Command}
    (member : command ∈ planned solo.builder solo.request workspace staging?)
    (linked : command.stage = .link ↔ staging? ≠ none) :
    (staging? = none →
      ∃ leaf, Path.IsLeaf leaf ∧ command.output = Path.join workspace.path leaf) ∧
      ∀ staging, staging? = some staging → command.output = staging := by
  obtain ⟨_, inWorkspace, atStaging⟩ := planned_output member
  refine ⟨fun unstaged => inWorkspace fun isLink => linked.mp isLink unstaged, ?_⟩
  rintro staging rfl
  exact atStaging (linked.mpr nofun) staging rfl

/-- **What a build holds after removing the empty file** at the name for the linker. -/
theorem keeping_vacated (sound : solo.world.files.Sound)
    (ledger : solo.Ledger choices before run trace done started reaped) {link : Command}
    {later : List Command} (phase : run.phase = .vacating link later)
    (keeping : solo.Keeping (choices ++ [choice]) before.files run.workspace? run.staging?) :
    solo.Keeping (choices ++ [choice])
      (Staging.vacate solo.setting run.request.output link.output before.files).1 run.workspace?
      run.staging? := by
  have standing := ledger.standing
  simp only [Standing, phase] at standing
  obtain ⟨workspace, holds, plan, isLink, staged, _⟩ := standing
  have member := mem_planned plan
  obtain ⟨inWorkspace, atStaging⟩ := planned_artifact member ⟨fun _ => staged, fun _ => isLink⟩
  rw [holds] at keeping ⊢
  rw [vacate_eq]
  exact keeping_touched sound.closed keeping discard_touched inWorkspace atStaging

/-- **What a build holds after a step of its process.** -/
theorem keeping_stepped (confined : solo.programs.Confined) (sound : solo.world.files.Sound)
    (comes : solo.Comes choices before run trace)
    (ledger : solo.Ledger choices before run trace done started reaped) {command : Command}
    {state : State} {wakes since due : Nat} {later : List Command}
    (phase : run.phase = .running ⟨command, .waiting (.running state wakes) since due⟩ later)
    (keeping : solo.Keeping (choices ++ [choice]) before.files run.workspace? run.staging?) :
    solo.Keeping (choices ++ [choice]) (solo.programs.step before.files state).1 run.workspace?
      run.staging? := by
  have reaches := comes.reaches phase
  have standing := ledger.standing
  simp only [Standing, phase] at standing
  obtain ⟨workspace, holds, plan, linked, _⟩ := standing
  have member := mem_planned plan
  obtain ⟨inWorkspace, atStaging⟩ := planned_artifact member linked
  obtain ⟨⟨arguments, shape⟩, _⟩ := planned_output member
  have asks : outputArgument? (command.launch solo.setting).arguments = some command.output := by
    have asked := outputArgument?_append arguments command.output
    rwa [← shape] at asked
  rw [holds] at keeping ⊢
  exact keeping_touched sound.closed keeping (confined.touches reaches asks) inWorkspace atStaging

/-- A build that goes on to the commands that are left keeps what it holds. -/
theorem Tidy.following (later : List Command) (phase : run.phase = BuildRun.following later)
    (keeping : solo.Keeping choices before.files run.workspace? run.staging?) :
    solo.Tidy choices before.files run := by
  refine .inr ⟨keeping, ?_⟩
  rcases following_cases phase with next | ⟨_, _, next⟩ | ⟨_, _, next⟩ <;>
    rw [next] <;> exact True.intro

/-- **What a build holds after one more step of it.** -/
theorem Tidy.step (sound : solo.world.files.Sound)
    (ledger : solo.Ledger choices before run trace done started reaped)
    (comes' : solo.Comes (choices ++ [choice]) after run' (events.reverse ++ trace))
    (tidy : solo.Tidy choices before.files run)
    (steps : BuildRun.Step solo.programs solo.setting solo.builder before run after run' events) :
    solo.Tidy (choices ++ [choice]) after.files run' := by
  rcases tidy with published | ⟨keeping, extra⟩
  · exact .inl ((isPublished_of_turn (.own steps)).mpr (.inl published))
  have standing := ledger.standing
  replace keeping := keeping.mono (List.prefix_append choices [choice])
  cases steps with
  | found phase _ =>
    rw [phase] at extra
    exact .inr ⟨keeping, extra⟩
  | sourceless phase _ => exact .inr ⟨keeping, True.intro⟩
  | @opened _ workspace phase creates =>
    rw [phase] at extra
    obtain ⟨files, _, unstaged⟩ := extra
    obtain ⟨_, absolute, _, makes⟩ := create_ok creates
    rw [files] at makes
    refine Tidy.following (BuildRun.commands solo.builder workspace run.request) rfl ?_
    rw [unstaged]
    exact keeping_opened sound absolute makes
  | unopened phase fails =>
    rw [(create_error fails).2]
    exact .inr ⟨keeping, True.intro⟩
  | advanced phase _ => exact .inr ⟨keeping, True.intro⟩
  | @succeeded _ _ later phase => exact Tidy.following later rfl keeping
  | failed phase => exact .inr ⟨keeping, True.intro⟩
  | prepared phase prepares =>
    have grown := keeping_prepared ledger comes' phase prepares keeping
    exact .inr ⟨grown, True.intro⟩
  | unprepared phase prepares =>
    have grown := keeping_prepared ledger comes' phase prepares keeping
    exact .inr ⟨grown, True.intro⟩
  | reserved phase reserves =>
    simp only [Standing, phase] at standing
    obtain ⟨workspace, holds, _, _, unstaged, _⟩ := standing
    obtain ⟨_, absolute, makes, _⟩ := reserve_ok reserves
    rw [holds, unstaged] at keeping
    refine .inr ⟨?_, True.intro⟩
    rw [holds]
    exact keeping_reserved sound.closed keeping absolute makes
  | unreserved phase fails =>
    rw [(reserve_error fails).2]
    exact .inr ⟨keeping, True.intro⟩
  | vacated phase vacates =>
    have vacant := keeping_vacated sound ledger phase keeping
    rw [vacates] at vacant
    exact .inr ⟨vacant, True.intro⟩
  | unvacated phase fails =>
    have vacant := keeping_vacated sound ledger phase keeping
    rw [fails] at vacant
    exact .inr ⟨vacant, True.intro⟩
  | unstaged phase _ => exact .inr ⟨keeping, True.intro⟩
  | published phase _ _ => exact .inl (.inl rfl)
  | unpublished phase _ fails =>
    obtain rfl := (publish_error fails).2
    exact .inr ⟨keeping, True.intro⟩
  | closed phase _ _ => exact .inl (.inr ⟨_, rfl⟩)
  | withdrawn phase discards =>
    refine .inr ⟨?_, rfl⟩
    cases holds : run.staging? with
    | none =>
      rw [holds] at keeping discards
      subst discards
      exact keeping
    | some staging =>
      rw [holds] at keeping discards
      subst discards
      exact keeping_withdrawn keeping
  | abandoned phase removes =>
    rw [phase] at extra
    refine .inr ⟨?_, rfl, extra⟩
    rw [extra] at keeping ⊢
    cases holds : run.workspace? with
    | none =>
      rw [holds] at keeping removes
      subst removes
      exact keeping
    | some workspace =>
      rw [holds] at keeping removes
      subst removes
      exact keeping_abandoned sound.closed keeping

/-- **A build that is not past the rename is tidy at every moment.** -/
theorem Comes.tidy (confined : solo.programs.Confined) (sound : solo.world.files.Sound)
    (comes : solo.Comes choices before run trace) : solo.Tidy choices before.files run := by
  refine comes.induction (motive := fun choices world run _ => solo.Tidy choices world.files run)
    ?_ ?_ ?_
  · exact .inr ⟨⟨sound, fun _ => .inl rfl⟩, rfl, rfl, rfl⟩
  · intro choices choice before after run trace _ _ files _ ih
    rw [files]
    exact ih.imp_right fun ⟨keeping, extra⟩ => ⟨keeping.mono (List.prefix_append _ _), extra⟩
  · intro choices choice before after run run' trace events earlier now turn ih
    obtain ⟨done, started, reaped, ledger⟩ := earlier.ledger
    cases turn with
    | own steps => exact ih.step sound ledger now steps
    | process phase files _ _ _ _ =>
      rcases ih with published | ⟨keeping, _⟩
      · rcases published with closing | ⟨_, succeeds⟩
        · rw [phase] at closing
          cases closing
        · rw [phase] at succeeds
          cases succeeds
      · rw [files]
        exact .inr ⟨keeping_stepped confined sound earlier ledger phase
          (keeping.mono (List.prefix_append _ _)), True.intro⟩

end Moments

/-! ### Nothing remains -/

/-- A path from the root leads nowhere. -/
def Gone (cwd : Place) (fs : FileSystem) (path : Bytes) : Prop :=
  Path.isAbsolute path = true ∧ ∀ follow found, fs.find cwd follow path ≠ .ok found

section Gone

variable {choices : List Choice} {fs : FileSystem}

/-- What is gone stays so when more is removed. -/
theorem Gone.shrink {cwd : Place} {path : Bytes} {fs' : FileSystem} (gone : Gone cwd fs path)
    (closed : fs'.Closed) (shrinks : fs.Extends fs') : Gone cwd fs' path :=
  ⟨gone.1, fun follow found finds =>
    gone.2 follow found (find_extends closed shrinks (start_present gone.1) finds)⟩

/-- The name for the linker is gone when it was given up. -/
theorem gone_withdrawn {workspace? : Option Workspace} {staging : Bytes}
    (keeping : solo.Keeping choices fs workspace? (some staging)) :
    Gone solo.setting.cwd (Staging.discard solo.setting staging fs) staging := by
  cases workspace? with
  | none => exact keeping.elim
  | some workspace =>
    obtain ⟨dir, name, stagingDir, stagingName, held, staged⟩ := keeping
    have touched := staged.touch (discard_touched held.sound)
    refine ⟨staged.absolute, fun follow found finds => ?_⟩
    rw [find_free touched.ends touched.short staged.discard] at finds
    cases finds

/-- The workspace is gone when it was removed, and so is what was gone before. -/
theorem gone_abandoned (sound : solo.world.files.Sound) {workspace : Workspace}
    (keeping : solo.Keeping choices fs (some workspace) none) :
    Gone solo.setting.cwd (workspace.discard solo.setting fs) workspace.path ∧
      ∀ path, Gone solo.setting.cwd fs path →
        Gone solo.setting.cwd (workspace.discard solo.setting fs) path := by
  obtain ⟨dir, name, held⟩ := keeping
  obtain ⟨removes, kept⟩ := held.release sound.closed
  rw [removes]
  have proper := List.cons_ne_nil name dir
  have free : (fs.dropBelow (name :: dir)).get? (name :: dir) = none := by
    rw [get?_dropBelow fs _ proper, if_pos (isWithin_self _)]
  constructor
  · obtain ⟨slashed, ends⟩ := held.denoted
    have extension : (fs.dropBelow (name :: dir)).Extends solo.world.files := by
      intro place listed
      refine (kept place).resolve_right fun new => ?_
      rw [new.1] at listed
      cases listed
    have ends' := ending_extends sound.closed extension (start_present held.absolute) ends
    refine ⟨held.absolute, fun follow found finds => ?_⟩
    rw [find_free ends' held.short free] at finds
    cases finds
  · refine fun path gone => gone.shrink (held.sound.dropBelow proper).closed fun place listed => ?_
    rw [get?_dropBelow fs _ proper] at listed ⊢
    by_cases within : isWithin (name :: dir) place = true
    · rw [if_pos within] at listed
      cases listed
    · rw [if_neg within]

end Gone

section Remains

variable {choices earlier : List Choice} {world before : World} {run past : BuildRun State}
  {trace seen : List Event}

/-- **A build that was given a workspace holds it until it is past the rename or has removed it.** -/
theorem Comes.workspace_gone (confined : solo.programs.Confined) (sound : solo.world.files.Sound)
    (comes : solo.Comes choices world run trace) (shorter : earlier <+: choices)
    (went : solo.Comes earlier before past seen) {workspace : Workspace}
    (holds : past.workspace? = some workspace) :
    run.workspace? = some workspace ∨ IsPublished run ∨
      (∃ failure, run.phase = .finished (.error failure)) ∧
        Gone solo.setting.cwd world.files workspace.path := by
  refine went.induction_from
    (motive := fun _ world run _ => run.workspace? = some workspace ∨ IsPublished run ∨
      (∃ failure, run.phase = .finished (.error failure)) ∧
        Gone solo.setting.cwd world.files workspace.path) (.inl holds) ?_ ?_ comes shorter
  · intro choices choice before after run trace _ _ files ih
    rwa [files]
  · intro choices choice before after run run' trace events comes _ turn ih
    rcases ih with holds | published | ⟨⟨failure, ended⟩, _⟩
    · cases turn with
      | process _ _ _ _ _ _ => exact .inl holds
      | own steps =>
        cases steps with
        | opened phase _ =>
          obtain ⟨done, started, reaped, ledger⟩ := comes.ledger
          have standing := ledger.standing
          simp only [Standing, phase] at standing
          rw [standing.2.2.2] at holds
          cases holds
        | closed _ _ _ => exact .inr (.inl (.inr ⟨_, rfl⟩))
        | abandoned phase removes =>
          rcases comes.tidy confined sound with published | ⟨keeping, unstaged⟩
          · rcases published with closing | ⟨_, succeeds⟩ <;> simp_all
          · rw [phase] at unstaged
            rw [unstaged, holds] at keeping
            rw [holds] at removes
            subst removes
            exact .inr (.inr ⟨⟨_, rfl⟩, (gone_abandoned sound keeping).1⟩)
        | _ => exact .inl holds
    · exact .inr (.inl ((isPublished_of_turn turn).mpr (.inl published)))
    · exact absurd ended (unfinished_of_turn turn)

/-- **A build that was given a name for the linker holds it until it is past the rename or has given
it up.** -/
theorem Comes.staging_gone (confined : solo.programs.Confined) (sound : solo.world.files.Sound)
    (comes : solo.Comes choices world run trace) (shorter : earlier <+: choices)
    (went : solo.Comes earlier before past seen) {staging : Bytes}
    (holds : past.staging? = some staging) :
    run.staging? = some staging ∨ IsPublished run ∨
      (∃ failure, run.phase = .abandoning failure ∨ run.phase = .finished (.error failure)) ∧
        Gone solo.setting.cwd world.files staging := by
  refine went.induction_from
    (motive := fun _ world run _ => run.staging? = some staging ∨ IsPublished run ∨
      (∃ failure, run.phase = .abandoning failure ∨ run.phase = .finished (.error failure)) ∧
        Gone solo.setting.cwd world.files staging) (.inl holds) ?_ ?_ comes shorter
  · intro choices choice before after run trace _ _ files ih
    rwa [files]
  · intro choices choice before after run run' trace events comes _ turn ih
    rcases ih with holds | published | ⟨⟨failure, abandoning | ended⟩, gone⟩
    · cases turn with
      | process _ _ _ _ _ _ => exact .inl holds
      | own steps =>
        cases steps with
        | reserved phase _ =>
          obtain ⟨done, started, reaped, ledger⟩ := comes.ledger
          have standing := ledger.standing
          simp only [Standing, phase] at standing
          obtain ⟨_, _, _, _, unstaged, _⟩ := standing
          rw [unstaged] at holds
          cases holds
        | published _ _ _ => exact .inr (.inl (.inl rfl))
        | withdrawn phase discards =>
          rcases comes.tidy confined sound with published | ⟨keeping, _⟩
          · rcases published with closing | ⟨_, succeeds⟩ <;> simp_all
          · rw [holds] at keeping discards
            subst discards
            exact .inr (.inr ⟨⟨_, .inl rfl⟩, gone_withdrawn keeping⟩)
        | _ => exact .inl holds
    · exact .inr (.inl ((isPublished_of_turn turn).mpr (.inl published)))
    · cases turn with
      | process phase _ _ _ _ _ =>
        rw [phase] at abandoning
        cases abandoning
      | own steps =>
        cases steps with
        | abandoned phase removes =>
          refine .inr (.inr ⟨⟨_, .inr rfl⟩, ?_⟩)
          rcases comes.tidy confined sound with published | ⟨keeping, unstaged⟩
          · rcases published with closing | ⟨_, succeeds⟩ <;> simp_all
          · rw [phase] at unstaged
            rw [unstaged] at keeping
            cases held : run.workspace? with
            | none =>
              rw [held] at removes
              subst removes
              exact gone
            | some workspace =>
              rw [held] at removes keeping
              subst removes
              exact (gone_abandoned sound keeping).2 staging gone
        | _ => simp_all
    · exact absurd ended (unfinished_of_turn turn)

end Remains

/-- **A build that fails leaves the files as they were.** Whatever goes wrong, at whatever moment,
and whatever its processes made of the files that they were asked for, every entry is as it was
before, or is a directory on the way to the output that was missing, and that only if the first three
stages succeeded. Neither a workspace nor a name for the linker that the build ever held is left. -/
theorem failure_restores (solo : Solo State) (confined : solo.programs.Confined)
    (sound : solo.world.files.Sound) {choices : List Choice} {world : World} {run : BuildRun State}
    {trace : List Event} (comes : solo.Comes choices world run trace) {failure : BuildFailure}
    (fails : run.result? = some (.error failure)) :
    (∀ place, solo.Kept choices world.files place) ∧
      ∀ earlier before past seen, earlier <+: choices → solo.Comes earlier before past seen →
        (∀ workspace, past.workspace? = some workspace →
          Gone solo.setting.cwd world.files workspace.path) ∧
        ∀ staging, past.staging? = some staging → Gone solo.setting.cwd world.files staging := by
  have ended := BuildRun.phase_of_result? fails
  have unpublished : ¬ IsPublished run := by
    rintro (closing | ⟨_, succeeds⟩)
    · rw [ended] at closing
      cases closing
    · rw [ended] at succeeds
      cases succeeds
  obtain ⟨keeping, extra⟩ := (comes.tidy confined sound).resolve_left unpublished
  rw [ended] at extra
  obtain ⟨removed, unstaged⟩ := extra
  rw [removed, unstaged] at keeping
  refine ⟨keeping.2, fun earlier before past seen shorter went => ⟨?_, ?_⟩⟩
  · intro workspace holds
    rcases comes.workspace_gone confined sound shorter went holds with held | published | ⟨_, gone⟩
    · rw [removed] at held
      cases held
    · exact absurd published unpublished
    · exact gone
  · intro staging holds
    rcases comes.staging_gone confined sound shorter went holds with held | published | ⟨_, gone⟩
    · rw [unstaged] at held
      cases held
    · exact absurd published unpublished
    · exact gone

/-! ### A build whose linker fails -/

/-- The small build, with processes that write what they are called with and end with a status that
the launch tells. -/
def stamped (status : Launch → WaitStatus) (output : Bytes) : Solo Launch :=
  small (stamp (fun _ launch => (Mode.ofFile, launch.arguments.flatten)) status) output

/-- Status one for what the C compiler is called with to link, and zero for all else. -/
def linkFails (launch : Launch) : WaitStatus :=
  if launch.arguments.length = 6 then .exited 1 else .exited 0

/-- The build and its processes take turns. -/
def alternately (count : Nat) : List Choice :=
  (List.replicate count [.job 0, .child 0]).flatten

set_option maxRecDepth 4000 in
/-- A linker that fails after it wrote its file leaves the files as they were, apart from the missing
directory of the output. -/
theorem failure_restores_link : ∃ world run trace,
    (stamped linkFails (Bytes.ofText "/t/o/x")).Comes (alternately 31) world run trace ∧
      run.result? = some (.error (.stageFailed .link
        "c /t/calcca/expr.o /t/calcca/runtime.o -lc -lm -o /t/o/.calc-out-a" (.exited 1))) ∧
      ∀ place, (stamped linkFails (Bytes.ofText "/t/o/x")).Kept (alternately 31) world.files
        place := by
  obtain ⟨world, run, trace, comes⟩ :=
    (stamped linkFails (Bytes.ofText "/t/o/x")).exists_comes (alternately 31)
  have fails : run.result? = some (.error (.stageFailed .link
      "c /t/calcca/expr.o /t/calcca/runtime.o -lc -lm -o /t/o/.calc-out-a" (.exited 1))) := by
    have ends : ((stamped linkFails (Bytes.ofText "/t/o/x")).after (alternately 31)).build?.bind
        BuildRun.result? = some (.error (.stageFailed .link
          "c /t/calcca/expr.o /t/calcca/runtime.o -lc -lm -o /t/o/.calc-out-a" (.exited 1))) := by
      cbv
    rwa [comes.build?_eq] at ends
  exact ⟨world, run, trace, comes, fails,
    (failure_restores _ (stamp_confined _ _) (small_sound _ _) comes fails).1⟩

end Solo

end CalcBuild

/-
**The order of the stages, and the end at the first failure.**

A build starts the processes of its stages one after the other. This module proves that the past of
a build, as `Solo.Ledger` describes it, is what every run leads to, and draws the conclusions.

* `Seen.step`, `Ledger.step`: the past after a step of a stage and of a build;
* `Ledger.advance`, `Ledger.succeed`: a stage goes on, or its command is done;
* `Comes.ledger`: the past at every moment of every run;
* `stages_in_order`: the main theorem, with what it says when the build is done.
-/

import CalcBuild.Proofs.Build.History
import CalcBuild.Proofs.Build.Reserve

namespace CalcBuild

open Files

variable {State : Type}

/-! ### What a stage needs -/

/-- The linker needs the artifact of the command before it. -/
theorem planned_feeds {builder : Builder} {request : BuildRequest} {workspace : Workspace}
    {staging? : Option Bytes} {done : List (Command × WaitStatus)} {command : Command}
    {later : List Command}
    (plan : planned builder request workspace staging? = done.map Prod.fst ++ command :: later)
    (isLink : command.stage = .link) {last : Command} {status : WaitStatus}
    (ends : done.getLast? = some (last, status)) : last.output ∈ command.inputs := by
  have stages := planned_stages builder request workspace staging?
  rw [plan, List.map_append, List.map_cons] at stages
  have nothing := (Stage.order_split stages).2.mp isLink
  rw [List.map_eq_nil_iff] at nothing
  subst nothing
  obtain ⟨rest, rfl⟩ := List.getLast?_eq_some_iff.mp ends
  have shape : planned builder request workspace staging?
      = (planned builder request workspace staging?).dropLast.dropLast ++
        [(Command.making builder.toolchain .lower [Bytes.ofText "--filetype=obj", workspace.exprIr]
            [workspace.exprIr] workspace.exprObject).linkedTo staging?,
          (Command.making builder.toolchain .link
            [workspace.exprObject, workspace.runtimeObject, Bytes.ofText "-lc", Bytes.ofText "-lm"]
            [workspace.exprObject, workspace.runtimeObject] request.output).linkedTo staging?] := rfl
  rw [plan, List.map_append, List.map_cons, List.map_nil, List.append_assoc,
    List.singleton_append] at shape
  obtain ⟨_, tails⟩ := List.append_inj' shape rfl
  obtain ⟨rfl, rfl⟩ : last = _ ∧ command = _ := by
    simpa using tails
  cases staging? <;> simp [Command.linkedTo, Command.making, Command.redirect]

/-- A status and an artifact that are not rejected. -/
theorem StageRun.rejection?_eq_none {setting : Setting} {files : FileSystem} {command : Command}
    {status : WaitStatus} (fine : StageRun.rejection? setting files command status = none) :
    status.isSuccess = true ∧ files.pathExists setting.cwd command.output = true := by
  unfold StageRun.rejection? at fine
  repeat' split at fine
  all_goals simp_all

namespace Solo

variable {solo : Solo State}

/-- Why a process that ended is rejected is one of the ways in which its stage fails. -/
theorem Fails.rejected {files : FileSystem} {command : Command} {status : WaitStatus}
    {failure : BuildFailure}
    (reason : StageRun.rejection? solo.setting files command status = some failure) :
    Fails command failure [command] [(command.stage, status)] := by
  unfold StageRun.rejection? at reason
  split at reason
  · rename_i nonzero
    cases reason
    exact .unsuccessful (by simpa using nonzero)
  · split at reason
    · cases reason
      exact .bare
    · cases reason

/-- **What has been seen of a stage after one more step of it.** -/
theorem Seen.step {choices : List Choice} {world : World} {run : BuildRun State}
    {trace events : List Event} {done : List (Command × WaitStatus)} {command : Command}
    {before after : StagePhase State} {later : List Command} {started : List Command}
    {reaped : List (Stage × WaitStatus)}
    (comes : solo.Comes choices world run trace)
    (ledger : solo.Ledger choices world run trace done started reaped)
    (phase : run.phase = .running ⟨command, before⟩ later)
    (feeds : command.stage = .link → ∀ last status, done.getLast? = some (last, status) →
      last.output ∈ command.inputs)
    (seen : solo.Seen choices world.files done command before started reaped)
    (steps : StageRun.Step solo.programs solo.setting solo.builder.stageOptions world command before
      after events) :
    ∃ started' reaped', solo.Seen choices world.files done command after started' reaped' ∧
      started'.map (fun command => (command.stage, command.launch solo.setting))
        = started.map (fun command => (command.stage, command.launch solo.setting)) ++
          events.filterMap Event.start? ∧
      reaped' = reaped ++ events.filterMap Event.reap? := by
  cases steps with
  | cancelled raised =>
    cases seen with
    | ready fed => exact ⟨[], [], .failed (.unstarted rfl (by simp)), rfl, rfl⟩
  | admitted lowered =>
    cases seen with
    | ready fed => exact ⟨[], [], .inspecting fed, rfl, rfl⟩
  | deprived missing =>
    cases seen with
    | inspecting fed => exact ⟨[], [], .failed (.unstarted rfl (by simp)), rfl, rfl⟩
  | inspected complete =>
    cases seen with
    | inspecting fed =>
      refine ⟨[], [], .launching fun last status ends => ?_, rfl, rfl⟩
      by_cases isLink : command.stage = .link
      · have present := List.find?_eq_none.mp complete _ (feeds isLink last status ends)
        simpa using present
      · exact fed isLink last status ends
  | unspawned fails =>
    cases seen with
    | launching fed => exact ⟨[], [], .failed (.unstarted rfl (by simp)), rfl, rfl⟩
  | launched starts =>
    cases seen with
    | launching fed => exact ⟨[command], [], .waiting, rfl, rfl⟩
  | reaped =>
    cases seen with
    | waiting => exact ⟨[command], [(command.stage, _)], .collected, rfl, rfl⟩
  | interrupted raised =>
    cases seen with
    | waiting => exact ⟨[command], [], .failed (.killed rfl (by simp)), rfl, rfl⟩
  | timedOut lowered limit late =>
    cases seen with
    | waiting => exact ⟨[command], [], .failed (.killed rfl (by simp)), rfl, rfl⟩
  | looked =>
    cases seen with
    | waiting => exact ⟨[command], [], .waiting, rfl, rfl⟩
  | rejected reason =>
    cases seen with
    | collected => exact ⟨_, _, .failed (Fails.rejected reason), by simp, by simp⟩
  | @accepted status elapsed fine =>
    cases seen with
    | collected =>
      obtain ⟨success, made⟩ := StageRun.rejection?_eq_none fine
      have reapedNow : (command.stage, status) ∈ reaps trace := by
        rw [ledger.reaps_eq]
        simp
      exact ⟨_, _, .accepted made ⟨choices, world, run, trace, elapsed, later, List.prefix_rfl,
        comes, phase, reapedNow, success, made⟩, (List.append_nil _).symm, (List.append_nil _).symm⟩

theorem following_link {command : Command} (later : List Command)
    (isLink : command.stage = .link) :
    (BuildRun.following (command :: later) : BuildPhase State) = .preparing command later :=
  if_pos isLink

theorem following_other {command : Command} (later : List Command)
    (other : command.stage ≠ .link) :
    (BuildRun.following (command :: later) : BuildPhase State)
      = .running (.start command) later :=
  if_neg other

/-- A build that goes on to the commands that are left publishes, prepares for the linker, or starts
the stage of the next one. -/
theorem following_cases {phase : BuildPhase State} {later : List Command}
    (next : phase = BuildRun.following later) :
    phase = .publishing ∨ (∃ link later', phase = .preparing link later') ∨
      ∃ command later', phase = .running (.start command) later' := by
  cases later with
  | nil => exact .inl next
  | cons command later =>
    by_cases isLink : command.stage = .link
    · exact .inr (.inl ⟨command, later, next.trans (following_link later isLink)⟩)
    · exact .inr (.inr ⟨command, later, next.trans (following_other later isLink)⟩)

theorem following_unpublished (later : List Command) :
    (BuildRun.following later : BuildPhase State) ≠ .closing ∧
      ∀ outcome, (BuildRun.following later : BuildPhase State) ≠ .finished (.ok outcome) := by
  have next : ∃ phase : BuildPhase State, phase = BuildRun.following later := ⟨_, rfl⟩
  obtain ⟨phase, next⟩ := next
  rw [← next]
  rcases following_cases next with rfl | ⟨_, _, rfl⟩ | ⟨_, _, rfl⟩ <;> exact ⟨nofun, nofun⟩

/-- **What the next phase says about the past** when a build goes on to the commands that are left:
a name for the linker is held if none is left. -/
theorem Standing.following {choices : List Choice} {files : FileSystem} {run : BuildRun State}
    {done : List (Command × WaitStatus)} {later : List Command} {workspace : Workspace}
    (phase : run.phase = BuildRun.following later) (holds : run.workspace? = some workspace)
    (plan : planned solo.builder solo.request workspace run.staging? = done.map Prod.fst ++ later)
    (linked : run.staging? ≠ none ↔ later = []) (fed : solo.Fed files done) :
    solo.Standing choices files run done [] [] := by
  unfold Standing
  rw [phase]
  cases later with
  | nil =>
    rw [List.append_nil] at plan
    exact ⟨workspace, holds, plan, linked.mpr rfl, rfl, rfl⟩
  | cons command later =>
    have unstaged : run.staging? = none := by
      by_contra staged
      cases linked.mp staged
    by_cases isLink : command.stage = .link
    · rw [following_link later isLink]
      rw [unstaged] at plan
      exact ⟨workspace, holds, plan, isLink, unstaged, rfl, rfl⟩
    · rw [following_other later isLink]
      refine ⟨workspace, holds, plan, ?_, .ready fun _ => fed⟩
      simp [StageRun.start, isLink, unstaged]

/-- A failure that is about no stage, of a build that has come to some command of its plan. -/
theorem Failed.outside {failure : BuildFailure} {done : List (Command × WaitStatus)}
    (workspace : Workspace) (staging? : Option Bytes) {later : List Command}
    (about : failure.stage? = none)
    (plan : planned solo.builder solo.request workspace staging? = done.map Prod.fst ++ later) :
    solo.Failed failure done [] [] :=
  .inr ⟨about, rfl, rfl, workspace, staging?, plan ▸ List.prefix_append _ _⟩

/-- Failures to make a workspace, and failures next to the output, are about no stage. -/
theorem stage?_of_workspace {failure : BuildFailure}
    (about : ∃ cause, failure = .workspaceCreate cause) : failure.stage? = none := by
  obtain ⟨_, rfl⟩ := about
  rfl

theorem stage?_of_output {output : Bytes} {failure : BuildFailure}
    (about : ∃ cause, failure = .output output cause) : failure.stage? = none := by
  obtain ⟨_, rfl⟩ := about
  rfl

/-- **The past after a step of the stage that is running.** -/
theorem Ledger.advance {choices : List Choice} {choice : Choice} {world : World}
    {run : BuildRun State} {trace events : List Event} {done : List (Command × WaitStatus)}
    {started : List Command} {reaped : List (Stage × WaitStatus)} {command : Command}
    {before after : StagePhase State} {later : List Command}
    (ledger : solo.Ledger choices world run trace done started reaped)
    (comes : solo.Comes choices world run trace)
    (phase : run.phase = .running ⟨command, before⟩ later)
    (steps : StageRun.Step solo.programs solo.setting solo.builder.stageOptions world command before
      after events) :
    ∃ started' reaped', solo.Ledger (choices ++ [choice]) world
      { run with phase := .running ⟨command, after⟩ later } (events.reverse ++ trace) done started'
      reaped' := by
  have longer : choices <+: choices ++ [choice] := List.prefix_append _ _
  have standing := ledger.standing
  simp only [Standing, phase] at standing
  obtain ⟨workspace, holds, plan, linked, seen⟩ := standing
  obtain ⟨started', reaped', seen', starts, reaps⟩ :=
    seen.step comes ledger phase (fun isLink _ _ => planned_feeds plan isLink) steps
  refine ⟨started', reaped', ledger.request_eq, ?_, ?_, ledger.results_eq,
    fun entry member => (ledger.succeeded entry member).mono longer, ledger.reserved_mono longer,
    workspace, holds, plan, linked, seen'.mono longer rfl⟩
  · rw [starts_append, ledger.starts_eq, List.map_append, List.map_append, List.append_assoc, starts]
  · rw [reaps_append, ledger.reaps_eq, List.append_assoc, reaps]

/-- **The past after a stage that succeeded**: its command is done, and its artifact feeds the next. -/
theorem Ledger.succeed {choices : List Choice} (choice : Choice) {world : World}
    {run : BuildRun State} {trace : List Event} {done : List (Command × WaitStatus)}
    {started : List Command} {reaped : List (Stage × WaitStatus)} {command : Command}
    {result : StageResult} {later : List Command}
    (ledger : solo.Ledger choices world run trace done started reaped)
    (phase : run.phase = .running ⟨command, .finished (.ok result)⟩ later) :
    ∃ status, solo.Ledger (choices ++ [choice]) world
      { run with results := run.results ++ [result], phase := BuildRun.following later } trace
      (done ++ [(command, status)]) [] [] := by
  have longer : choices <+: choices ++ [choice] := List.prefix_append _ _
  have standing := ledger.standing
  simp only [Standing, phase] at standing
  obtain ⟨workspace, holds, plan, linked, seen⟩ := standing
  cases seen with
  | @accepted status elapsed made succeeded =>
    have stages := planned_stages solo.builder solo.request workspace run.staging?
    rw [plan, List.map_append, List.map_cons] at stages
    have ends := (Stage.order_split stages).2
    rw [List.map_eq_nil_iff] at ends
    have next : planned solo.builder solo.request workspace run.staging?
        = (done ++ [(command, status)]).map Prod.fst ++ later := by
      rw [plan]
      simp
    have fed : solo.Fed world.files (done ++ [(command, status)]) := by
      intro last status' isLast
      rw [List.getLast?_concat] at isLast
      cases isLast
      exact made
    refine ⟨status, ledger.request_eq, ?_, ?_, ?_, ?_, ledger.reserved_mono longer,
      Standing.following rfl holds next (linked.symm.trans ends) fed⟩
    · rw [ledger.starts_eq]
      simp
    · rw [ledger.reaps_eq]
      simp
    · rw [List.map_append, List.map_append, ledger.results_eq]
      rfl
    · intro entry member
      rcases List.mem_append.mp member with earlier | last
      · exact (ledger.succeeded entry earlier).mono longer
      · rw [List.mem_singleton.mp last]
        exact succeeded.mono longer

/-- **The past after a step of the build.** -/
theorem Ledger.step {choices : List Choice} {choice : Choice} {before after : World}
    {run run' : BuildRun State} {trace events : List Event} {done : List (Command × WaitStatus)}
    {started : List Command} {reaped : List (Stage × WaitStatus)}
    (comes : solo.Comes choices before run trace)
    (ledger : solo.Ledger choices before run trace done started reaped)
    (steps : BuildRun.Step solo.programs solo.setting solo.builder before run after run' events) :
    ∃ done' started' reaped', solo.Ledger (choices ++ [choice]) after run'
      (events.reverse ++ trace) done' started' reaped' := by
  have longer : choices <+: choices ++ [choice] := List.prefix_append _ _
  have kept := ledger.reserved_mono longer
  have request := ledger.request_eq
  have standing := ledger.standing
  cases steps with
  | found phase exists_ =>
    simp only [Standing, phase] at standing
    exact ⟨_, _, _, ledger.quiet longer rfl rfl (by simp) kept standing⟩
  | sourceless phase missing =>
    simp only [Standing, phase] at standing
    obtain ⟨rfl, ⟨rfl, rfl⟩, _⟩ := standing
    exact ⟨_, _, _, ledger.quiet longer rfl rfl (by simp) kept
      (Failed.outside ⟨[]⟩ none rfl rfl)⟩
  | @opened _ workspace phase creates =>
    simp only [Standing, phase] at standing
    obtain ⟨rfl, ⟨rfl, rfl⟩, unstaged, _⟩ := standing
    have plan : planned solo.builder solo.request workspace run.staging?
        = BuildRun.commands solo.builder workspace run.request := by
      rw [unstaged, request]
      exact List.map_id _
    have linked : run.staging? ≠ none ↔ BuildRun.commands solo.builder workspace run.request = [] :=
      ⟨fun staged => absurd unstaged staged, fun nothing => nomatch nothing⟩
    exact ⟨_, _, _, ledger.quiet longer rfl rfl (by simp [Event.start?, Event.reap?]) kept
      (Standing.following rfl rfl plan linked fun _ _ ends => nomatch ends)⟩
  | unopened phase fails =>
    simp only [Standing, phase] at standing
    obtain ⟨rfl, ⟨rfl, rfl⟩, _⟩ := standing
    exact ⟨_, _, _, ledger.quiet longer rfl rfl (by simp) kept
      (Failed.outside ⟨[]⟩ none (stage?_of_workspace (create_error fails).1) rfl)⟩
  | advanced phase steps => exact ⟨_, ledger.advance comes phase steps⟩
  | succeeded phase =>
    obtain ⟨status, ledger'⟩ := ledger.succeed choice phase
    exact ⟨_, _, _, ledger'⟩
  | failed phase =>
    simp only [Standing, phase] at standing
    obtain ⟨workspace, holds, plan, linked, seen⟩ := standing
    cases seen with
    | failed fails =>
      exact ⟨_, _, _, ledger.quiet longer rfl rfl (by simp) kept
        (.inl ⟨workspace, run.staging?, _, _, plan, fails⟩)⟩
  | prepared phase prepares =>
    simp only [Standing, phase] at standing
    exact ⟨_, _, _, ledger.quiet longer rfl rfl (by simp) kept standing⟩
  | unprepared phase fails =>
    simp only [Standing, phase] at standing
    obtain ⟨workspace, holds, plan, isLink, unstaged, rfl, rfl⟩ := standing
    exact ⟨_, _, _, ledger.quiet longer rfl rfl (by simp) kept
      (Failed.outside workspace none (stage?_of_output (prepare_error fails)) plan)⟩
  | @reserved world' staging link later phase reserves =>
    simp only [Standing, phase] at standing
    obtain ⟨workspace, holds, plan, isLink, unstaged, rfl, rfl⟩ := standing
    have reserved : solo.Reserved (choices ++ [choice]) staging := by
      rw [request] at reserves
      exact ⟨choices, before, run, trace, _, longer, comes, ⟨link, later, phase⟩, reserves⟩
    refine ⟨_, _, _, ledger.quiet longer rfl rfl (by simp) ?_
      ⟨workspace, holds, planned_redirect isLink plan staging, isLink, by simp, rfl, rfl⟩⟩
    intro staging' same
    cases same
    exact reserved
  | unreserved phase fails =>
    simp only [Standing, phase] at standing
    obtain ⟨workspace, holds, plan, isLink, unstaged, rfl, rfl⟩ := standing
    exact ⟨_, _, _, ledger.quiet longer rfl rfl (by simp) kept
      (Failed.outside workspace none (stage?_of_output (reserve_error fails).1) plan)⟩
  | vacated phase vacates =>
    simp only [Standing, phase] at standing
    obtain ⟨workspace, holds, plan, isLink, staged, rfl, rfl⟩ := standing
    refine ⟨_, _, _, ledger.quiet longer rfl rfl (by simp) kept
      ⟨workspace, holds, plan, ?_, .ready fun other => absurd isLink other⟩⟩
    exact ⟨fun _ => staged, fun _ => isLink⟩
  | unvacated phase fails =>
    simp only [Standing, phase] at standing
    obtain ⟨workspace, holds, plan, isLink, staged, rfl, rfl⟩ := standing
    exact ⟨_, _, _, ledger.quiet longer rfl rfl (by simp) kept
      (Failed.outside workspace run.staging? (stage?_of_output (vacate_error fails)) plan)⟩
  | unstaged phase nothing =>
    simp only [Standing, phase] at standing
    obtain ⟨workspace, holds, plan, staged, rfl, rfl⟩ := standing
    exact absurd nothing staged
  | @published files staging phase holds publishes =>
    simp only [Standing, phase] at standing
    obtain ⟨workspace, _, plan, staged, rfl, rfl⟩ := standing
    rw [holds] at plan
    exact ⟨_, _, _, ledger.quiet longer rfl rfl (by simp) (by simp)
      ⟨workspace, staging, kept staging holds, plan, rfl, rfl⟩⟩
  | unpublished phase holds fails =>
    simp only [Standing, phase] at standing
    obtain ⟨workspace, _, plan, staged, rfl, rfl⟩ := standing
    rw [← List.append_nil (done.map Prod.fst)] at plan
    exact ⟨_, _, _, ledger.quiet longer rfl rfl (by simp) kept
      (Failed.outside workspace run.staging? (stage?_of_output (publish_error fails).1) plan)⟩
  | closed phase removes records =>
    simp only [Standing, phase] at standing
    obtain ⟨workspace, staging, reserved, plan, rfl, rfl⟩ := standing
    refine ⟨_, _, _, ledger.quiet longer rfl rfl ?_ kept
      ⟨by rw [BuildRun.outcome, request], workspace, staging, reserved.mono longer, plan, rfl, rfl⟩⟩
    intro event member
    obtain ⟨record, rfl⟩ := records event member
    exact ⟨rfl, rfl⟩
  | withdrawn phase discards =>
    simp only [Standing, phase] at standing
    exact ⟨_, _, _, ledger.quiet longer rfl rfl (by simp) (by simp) standing⟩
  | abandoned phase removes =>
    simp only [Standing, phase] at standing
    exact ⟨_, _, _, ledger.quiet longer rfl rfl (by simp) kept standing⟩

/-- **The past at every moment of every run** is that of commands that are done and a current one. -/
theorem Comes.ledger {choices : List Choice} {world : World} {run : BuildRun State}
    {trace : List Event} (comes : solo.Comes choices world run trace) :
    ∃ done started reaped, solo.Ledger choices world run trace done started reaped := by
  refine comes.induction
    (motive := fun choices world run trace =>
      ∃ done started reaped, solo.Ledger choices world run trace done started reaped) ?_ ?_ ?_
  · exact ⟨[], [], [], rfl, rfl, rfl, rfl, by simp, by simp [BuildRun.start], rfl, ⟨rfl, rfl⟩, rfl,
      rfl⟩
  · rintro choices choice before after run trace _ _ files _ ⟨done, started, reaped, ledger⟩
    have longer : choices <+: choices ++ [choice] := List.prefix_append _ _
    exact ⟨done, started, reaped, ledger.quiet longer rfl rfl (List.forall_mem_nil _)
      (ledger.reserved_mono longer) (ledger.standing.mono longer files)⟩
  · rintro choices choice before after run run' trace events earlier _ turn
      ⟨done, started, reaped, ledger⟩
    have longer : choices <+: choices ++ [choice] := List.prefix_append _ _
    cases turn with
    | own steps => exact ledger.step earlier steps
    | process phase files clock drawn follows prints =>
      have standing := ledger.standing
      simp only [Standing, phase] at standing
      obtain ⟨workspace, holds, plan, linked, seen⟩ := standing
      cases seen with
      | waiting =>
        refine ⟨done, _, _, ledger.quiet longer rfl rfl ?_ (ledger.reserved_mono longer)
          ⟨workspace, holds, plan, linked, .waiting⟩⟩
        intro event member
        obtain ⟨channel, bytes, rfl⟩ := prints event member
        exact ⟨rfl, rfl⟩

/-! ### The rename at the end -/

variable (solo) in
/-- One step of a build moved what the linker had made to the output path. -/
def IsRename (before after : World) (run run' : BuildRun State) : Prop :=
  run.phase = .publishing ∧ run'.phase = .closing ∧ ∃ staging, run.staging? = some staging ∧
    Staging.publish solo.setting run.request.output staging before.files = (after.files, .ok ())

variable (solo) in
/-- In one step of a run the build moved what the linker had made to the output path. -/
def Renamed (choices : List Choice) : Prop :=
  ∃ earlier choice world run trace world' run' trace', earlier ++ [choice] <+: choices ∧
    solo.Comes earlier world run trace ∧ solo.Comes (earlier ++ [choice]) world' run' trace' ∧
    solo.IsRename world world' run run'

theorem renamed_concat {choices : List Choice} {choice : Choice} {before after : World}
    {run run' : BuildRun State} {trace trace' : List Event}
    (comes : solo.Comes choices before run trace)
    (comes' : solo.Comes (choices ++ [choice]) after run' trace') :
    solo.Renamed (choices ++ [choice]) ↔
      solo.Renamed choices ∨ solo.IsRename before after run run' := by
  constructor
  · rintro ⟨earlier, last, world, run₀, trace₀, world', run₁, trace₁, shorter, sets_out, arrives, rename⟩
    rcases List.prefix_concat_iff.mp shorter with same | shorter
    · obtain ⟨rfl, _⟩ := List.append_inj' same rfl
      rw [same] at arrives
      obtain ⟨rfl, rfl, _⟩ := comes.unique sets_out
      obtain ⟨rfl, rfl, _⟩ := comes'.unique arrives
      exact .inr rename
    · exact .inl ⟨earlier, last, world, run₀, trace₀, world', run₁, trace₁, shorter, sets_out, arrives,
        rename⟩
  · rintro (⟨earlier, last, world, run₀, trace₀, world', run₁, trace₁, shorter, rest⟩ | rename)
    · exact ⟨earlier, last, world, run₀, trace₀, world', run₁, trace₁,
        shorter.trans (List.prefix_append _ _), rest⟩
    · exact ⟨choices, choice, _, _, _, _, _, _, List.prefix_rfl, comes, comes', rename⟩

/-- Whether a build is past the rename. -/
def IsPublished (run : BuildRun State) : Prop :=
  run.phase = .closing ∨ ∃ outcome, run.phase = .finished (.ok outcome)

/-- A turn gets a build past the rename exactly if it is the rename. -/
theorem isPublished_of_turn {before after : World} {run run' : BuildRun State} {events : List Event}
    (turn : solo.Turn before run after run' events) :
    IsPublished run' ↔ IsPublished run ∨ solo.IsRename before after run run' := by
  unfold IsPublished IsRename
  cases turn with
  | process phase _ _ _ _ _ => simp [phase]
  | own steps =>
    cases steps with
    | published phase holds publishes => simp [phase, holds, publishes]
    | opened phase _ => simp [phase, following_unpublished]
    | succeeded phase => simp [phase, following_unpublished]
    | _ => simp [*]

/-- **A build is past the rename exactly if there was one.** -/
theorem Comes.renamed_iff {choices : List Choice} {world : World} {run : BuildRun State}
    {trace : List Event} (comes : solo.Comes choices world run trace) :
    solo.Renamed choices ↔ IsPublished run := by
  refine comes.induction
    (motive := fun choices _ run _ => solo.Renamed choices ↔ IsPublished run) ?_ ?_ ?_
  · constructor
    · rintro ⟨earlier, choice, _, _, _, _, _, _, shorter, _⟩
      simp at shorter
    · rintro (phase | ⟨_, phase⟩) <;> cases phase
  · intro choices choice before after run trace earlier now _ _ ih
    have unmoved : ¬ solo.IsRename before after run run := by
      rintro ⟨publishing, closing, _⟩
      rw [publishing] at closing
      cases closing
    rw [renamed_concat earlier now, ih, or_iff_left unmoved]
  · intro choices choice before after run run' trace events earlier now turn ih
    rw [renamed_concat earlier now, ih, isPublished_of_turn turn]

/-! ### What the past tells -/

/-- The processes that a failed stage has started are at most its own. -/
theorem Fails.started {command : Command} {failure : BuildFailure} {started : List Command}
    {reaped : List (Stage × WaitStatus)} (fails : Fails command failure started reaped) :
    started = [] ∨ started = [command] := by
  cases fails <;> simp

theorem Seen.started {choices : List Choice} {files : FileSystem}
    {done : List (Command × WaitStatus)} {command : Command} {phase : StagePhase State}
    {started : List Command} {reaped : List (Stage × WaitStatus)}
    (seen : solo.Seen choices files done command phase started reaped) :
    started = [] ∨ started = [command] := by
  cases seen with
  | failed fails => exact fails.started
  | _ => simp

theorem prefix_of_started {plan done later started : List Command} {command : Command}
    (split : plan = done ++ command :: later) (own : started = [] ∨ started = [command]) :
    done ++ started <+: plan := by
  rcases own with rfl | rfl
  · exact ⟨command :: later, by rw [split, List.append_nil]⟩
  · exact ⟨later, by rw [split, List.append_assoc, List.singleton_append]⟩

theorem Failed.follows_plan {failure : BuildFailure} {done : List (Command × WaitStatus)}
    {started : List Command} {reaped : List (Stage × WaitStatus)}
    (failed : solo.Failed failure done started reaped) :
    ∃ workspace staging?, done.map Prod.fst ++ started
      <+: planned solo.builder solo.request workspace staging? := by
  rcases failed with ⟨workspace, staging?, command, later, plan, fails⟩ |
    ⟨_, rfl, _, workspace, staging?, shorter⟩
  · exact ⟨workspace, staging?, prefix_of_started plan fails.started⟩
  · exact ⟨workspace, staging?, by rwa [List.append_nil]⟩

/-- **The processes that were started are those of the first commands of a plan**, in its order. -/
theorem Ledger.follows_plan {choices : List Choice} {world : World} {run : BuildRun State}
    {trace : List Event} {done : List (Command × WaitStatus)} {started : List Command}
    {reaped : List (Stage × WaitStatus)}
    (ledger : solo.Ledger choices world run trace done started reaped) :
    ∃ workspace staging?, done.map Prod.fst ++ started
      <+: planned solo.builder solo.request workspace staging? := by
  have standing := ledger.standing
  unfold Standing at standing
  split at standing
  case h_1 | h_2 =>
    obtain ⟨rfl, ⟨rfl, rfl⟩, _⟩ := standing
    exact ⟨⟨[]⟩, none, List.nil_prefix⟩
  case h_3 =>
    obtain ⟨workspace, _, plan, _, seen⟩ := standing
    exact ⟨workspace, _, prefix_of_started plan seen.started⟩
  case h_4 | h_5 | h_6 =>
    obtain ⟨workspace, _, plan, _, _, rfl, rfl⟩ := standing
    exact ⟨workspace, _, prefix_of_started plan (.inl rfl)⟩
  case h_7 =>
    obtain ⟨workspace, _, plan, _, rfl, rfl⟩ := standing
    exact ⟨workspace, run.staging?, by simp [plan]⟩
  case h_8 =>
    obtain ⟨workspace, staging, _, plan, rfl, rfl⟩ := standing
    exact ⟨workspace, some staging, by simp [plan]⟩
  case h_12 =>
    obtain ⟨_, workspace, staging, _, plan, rfl, rfl⟩ := standing
    exact ⟨workspace, some staging, by simp [plan]⟩
  all_goals exact standing.follows_plan

/-- The stages whose processes were started are the first ones of the order. -/
theorem Ledger.starts_prefix {choices : List Choice} {world : World} {run : BuildRun State}
    {trace : List Event} {done : List (Command × WaitStatus)} {started : List Command}
    {reaped : List (Stage × WaitStatus)}
    (ledger : solo.Ledger choices world run trace done started reaped) :
    (starts trace).map Prod.fst <+: Stage.order := by
  obtain ⟨workspace, staging?, shorter⟩ := ledger.follows_plan
  have stages := shorter.map Command.stage
  rw [planned_stages] at stages
  rw [ledger.starts_eq, List.map_map]
  exact stages

/-- A turn starts at most one process, and only one that a stage is about to start. -/
theorem starts_of_turn {before after : World} {run run' : BuildRun State} {events : List Event}
    (turn : solo.Turn before run after run' events) :
    events.filterMap Event.start? = [] ∨ ∃ command later,
      run.phase = .running ⟨command, .launching⟩ later ∧
      events.filterMap Event.start? = [(command.stage, command.launch solo.setting)] := by
  cases turn with
  | process _ _ _ _ _ prints =>
    refine .inl (List.filterMap_eq_nil_iff.mpr fun event member => ?_)
    obtain ⟨_, _, rfl⟩ := prints event member
    rfl
  | own steps =>
    cases steps with
    | @advanced command _ _ later _ phase steps =>
      cases steps with
      | launched _ => exact .inr ⟨command, later, phase, rfl⟩
      | _ => exact .inl rfl
    | closed _ _ records =>
      refine .inl (List.filterMap_eq_nil_iff.mpr fun event member => ?_)
      obtain ⟨_, rfl⟩ := records event member
      rfl
    | _ => exact .inl rfl

variable (solo) in
/-- The stage before another one succeeded, and its artifact is still there. -/
def IsFed (choices : List Choice) (world : World) (run : BuildRun State) (stage : Stage) : Prop :=
  ∀ previous, stage.previous? = some previous →
    ∃ workspace command status, run.workspace? = some workspace ∧
      command ∈ planned solo.builder solo.request workspace run.staging? ∧
      command.stage = previous ∧ solo.Succeeded choices command status ∧
      world.files.pathExists solo.setting.cwd command.output = true

/-- **A process is started only after the stage before it succeeded**, and while the artifact of
that one is there. -/
theorem Ledger.isFed {choices : List Choice} {world : World} {run : BuildRun State}
    {trace : List Event} {done : List (Command × WaitStatus)} {started : List Command}
    {reaped : List (Stage × WaitStatus)}
    (ledger : solo.Ledger choices world run trace done started reaped) {command : Command}
    {later : List Command} (phase : run.phase = .running ⟨command, .launching⟩ later) :
    solo.IsFed choices world run command.stage := by
  intro previous comesBefore
  have standing := ledger.standing
  simp only [Standing, phase] at standing
  obtain ⟨workspace, holds, plan, _, seen⟩ := standing
  have stages := planned_stages solo.builder solo.request workspace run.staging?
  rw [plan, List.map_append, List.map_cons, List.map_map] at stages
  have last := (Stage.order_split stages).1
  rw [comesBefore, List.getLast?_map, Option.map_eq_some_iff] at last
  obtain ⟨⟨command', status⟩, ends, same⟩ := last
  have member := List.mem_of_getLast? ends
  cases seen with
  | launching fed =>
    refine ⟨workspace, command', status, holds, ?_, same, ledger.succeeded _ member,
      fed command' status ends⟩
    rw [plan]
    exact List.mem_append_left _ (List.mem_map_of_mem member)

variable (solo)

/-- Everything that a build has to do was done: a name was reserved for the linker, every stage
succeeded, and what the linker made was moved to the output path. -/
structure Complete (choices : List Choice) : Prop where
  reserved : ∃ staging, solo.Reserved choices staging
  succeeded : ∀ stage ∈ Stage.order,
    ∃ command status, command.stage = stage ∧ solo.Succeeded choices command status
  renamed : solo.Renamed choices

/-- The outcome of a build tells what was run: the four stages in order, with the statuses that
their processes ended with and texts that render their launches. The linker wrote to the name that
was reserved. -/
structure Reports (choices : List Choice) (trace : List Event) (outcome : BuildOutcome) : Prop where
  output : outcome.output = solo.request.output
  stages : outcome.stages.map StageResult.stage = Stage.order
  success : ∀ result ∈ outcome.stages, result.status.isSuccess = true
  reaped : ∀ result ∈ outcome.stages, (result.stage, result.status) ∈ reaps trace
  started : ∀ result ∈ outcome.stages,
    ∃ launch, (result.stage, launch) ∈ starts trace ∧ result.command = launch.line
  linked : ∀ launch, (.link, launch) ∈ starts trace → ∃ staging arguments,
    solo.Reserved choices staging ∧ launch.arguments = arguments ++ [outputFlag, staging]

variable {solo}

/-- A failure tells where the build stopped: nothing was started after the stage that it is about,
and the failure of a process is that of the last one that was started. -/
structure Stops (trace : List Event) (failure : BuildFailure) : Prop where
  last : ∀ stage, failure.stage? = some stage →
    ∃ before, before ++ [stage] <+: Stage.order ∧ (starts trace).map Prod.fst <+: before ++ [stage]
  child : ∀ stage text status, failure = .stageFailed stage text status →
    status.isSuccess = false ∧ (reaps trace).getLast? = some (stage, status) ∧
      ∃ launch, (starts trace).getLast? = some (stage, launch) ∧ text = launch.line

/-- Whether a build has gone wrong. -/
def IsFailing (run : BuildRun State) : Prop :=
  ∃ failure, run.phase = .withdrawing failure ∨ run.phase = .abandoning failure ∨
    run.phase = .finished (.error failure)

section Ledger

variable {choices : List Choice} {world : World} {run : BuildRun State} {trace : List Event}
  {done : List (Command × WaitStatus)} {started : List Command} {reaped : List (Stage × WaitStatus)}

/-- **The outcome of a build that succeeded** reports what was run. -/
theorem Ledger.reports (ledger : solo.Ledger choices world run trace done started reaped)
    {outcome : BuildOutcome} (succeeds : run.phase = .finished (.ok outcome)) :
    solo.Reports choices trace outcome := by
  have standing := ledger.standing
  simp only [Standing, succeeds] at standing
  obtain ⟨rfl, workspace, staging, reserved, plan, rfl, rfl⟩ := standing
  have startsEq := ledger.starts_eq
  rw [List.append_nil] at startsEq
  have entries : ∀ result ∈ run.results, ∃ entry ∈ done, entry.1.stage = result.stage ∧
      entry.1.line = result.command ∧ entry.2 = result.status := by
    intro result member
    have listed := List.mem_map_of_mem
      (f := fun result : StageResult => (result.stage, result.command, result.status)) member
    rw [ledger.results_eq] at listed
    obtain ⟨entry, inDone, same⟩ := List.mem_map.mp listed
    simp only [Prod.mk.injEq] at same
    exact ⟨entry, inDone, same⟩
  constructor
  case output => rfl
  case stages =>
    have stages := congrArg (List.map Prod.fst) ledger.results_eq
    rw [List.map_map, List.map_map] at stages
    calc run.results.map StageResult.stage
        = done.map (Command.stage ∘ Prod.fst) := stages
      _ = (planned solo.builder solo.request workspace (some staging)).map Command.stage := by
          rw [plan, List.map_map]
      _ = Stage.order := planned_stages ..
  case success =>
    intro result member
    obtain ⟨entry, inDone, _, _, status⟩ := entries result member
    obtain ⟨_, _, _, _, _, _, _, _, _, _, success, _⟩ := ledger.succeeded entry inDone
    rw [← status]
    exact success
  case reaped =>
    intro result member
    obtain ⟨entry, inDone, stage, _, status⟩ := entries result member
    rw [ledger.reaps_eq, List.append_nil, ← stage, ← status]
    exact List.mem_map_of_mem (f := fun entry => (entry.1.stage, entry.2)) inDone
  case started =>
    intro result member
    obtain ⟨entry, inDone, stage, text, _⟩ := entries result member
    refine ⟨entry.1.launch solo.setting, ?_, text.symm⟩
    rw [startsEq, ← stage]
    exact List.mem_map_of_mem
      (f := fun command : Command => (command.stage, command.launch solo.setting))
      (List.mem_map_of_mem inDone)
  case linked =>
    intro launch member
    rw [startsEq, ← plan] at member
    obtain ⟨command, inPlan, same⟩ := List.mem_map.mp member
    rw [Prod.mk.injEq] at same
    obtain ⟨⟨arguments, shape⟩, _, made⟩ := planned_output inPlan
    refine ⟨staging, arguments, reserved, ?_⟩
    rw [← same.2, ← made same.1 staging rfl]
    exact shape

/-- **A build that succeeded has done everything.** -/
theorem Ledger.complete (ledger : solo.Ledger choices world run trace done started reaped)
    {outcome : BuildOutcome} (succeeds : run.phase = .finished (.ok outcome))
    (renamed : solo.Renamed choices) : solo.Complete choices := by
  have standing := ledger.standing
  simp only [Standing, succeeds] at standing
  obtain ⟨_, workspace, staging, reserved, plan, _, _⟩ := standing
  refine ⟨⟨staging, reserved⟩, fun stage member => ?_, renamed⟩
  rw [← planned_stages solo.builder solo.request workspace (some staging), plan,
    List.map_map] at member
  obtain ⟨entry, inDone, same⟩ := List.mem_map.mp member
  exact ⟨entry.1, entry.2, same, ledger.succeeded entry inDone⟩

/-- **A build that failed stopped at the stage that failed**, with the status of its process. -/
theorem Ledger.stops (ledger : solo.Ledger choices world run trace done started reaped)
    {failure : BuildFailure} (fails : run.phase = .finished (.error failure)) :
    Stops trace failure := by
  have standing := ledger.standing
  simp only [Standing, fails] at standing
  rcases standing with ⟨workspace, staging?, command, later, plan, fails⟩ | ⟨about, _⟩
  · have about : failure.stage? = some command.stage := by
      cases fails with
      | unstarted about _ => exact about
      | killed about _ => exact about
      | _ => rfl
    constructor
    · intro stage same
      rw [about] at same
      cases same
      have stages := planned_stages solo.builder solo.request workspace staging?
      refine ⟨(done.map Prod.fst).map Command.stage, ⟨later.map Command.stage, ?_⟩, ?_⟩
      · rw [← stages, plan, List.map_append, List.map_cons, List.append_assoc,
          List.singleton_append]
      · rw [ledger.starts_eq, List.map_map, List.map_append]
        rcases fails.started with rfl | rfl
        · exact ⟨[command.stage], by simp⟩
        · exact ⟨[], by simp⟩
    · rintro stage text status rfl
      cases fails with
      | unstarted _ other => exact absurd rfl (other _ _ _)
      | killed _ other => exact absurd rfl (other _ _ _)
      | unsuccessful nonzero =>
        refine ⟨nonzero, ?_, command.launch solo.setting, ?_, rfl⟩
        · rw [ledger.reaps_eq, List.getLast?_concat]
        · rw [ledger.starts_eq, List.map_append, List.map_singleton, List.getLast?_concat]
  · constructor
    · intro stage same
      rw [about] at same
      cases same
    · rintro stage text status rfl
      cases about

end Ledger

/-- A build that has gone wrong stays so, and starts nothing. -/
theorem IsFailing.turn {before after : World} {run run' : BuildRun State} {events : List Event}
    (failing : IsFailing run) (turn : solo.Turn before run after run' events) :
    IsFailing run' ∧ events = [] := by
  obtain ⟨failure, phase⟩ := failing
  cases turn with
  | process phase' _ _ _ _ _ => simp [phase'] at phase
  | own steps =>
    cases steps with
    | withdrawn _ _ => exact ⟨⟨_, .inr (.inl rfl)⟩, rfl⟩
    | abandoned _ _ => exact ⟨⟨_, .inr (.inr rfl)⟩, rfl⟩
    | _ => simp [*] at phase

/-- **Once a build has gone wrong nothing is started any more.** -/
theorem Comes.starts_failing {choices earlier : List Choice} {world before : World}
    {run failed : BuildRun State} {trace past : List Event}
    (comes : solo.Comes choices world run trace) (shorter : earlier <+: choices)
    (went : solo.Comes earlier before failed past) (failing : IsFailing failed) :
    IsFailing run ∧ starts trace = starts past := by
  refine went.induction_from
    (motive := fun _ _ run trace => IsFailing run ∧ starts trace = starts past)
    ⟨failing, rfl⟩ ?_ ?_ comes shorter
  · exact fun _ _ _ ih => ih
  · rintro choices choice before after run run' trace events _ _ turn ⟨failing, same⟩
    obtain ⟨stays, rfl⟩ := failing.turn turn
    exact ⟨stays, same⟩

/-- **The stages of a build run in order, and the first failure ends it.** Whatever is chosen, the
processes that were started are those of the first stages; each step starts at most one, and only
when the stage before it succeeded and its artifact is there; a build that is done succeeded exactly
if everything was done; its outcome reports what was run, its failure where it stopped, and once it
has gone wrong nothing is started. -/
theorem stages_in_order (solo : Solo State) (choices : List Choice) :
    ∃ world run trace, solo.Comes choices world run trace ∧
      (starts trace).map Prod.fst <+: Stage.order ∧
      (∀ choice world' run' trace', solo.Comes (choices ++ [choice]) world' run' trace' →
        starts trace' = starts trace ∨
          ∃ stage launch, starts trace' = starts trace ++ [(stage, launch)] ∧
            solo.IsFed choices world run stage) ∧
      (∀ result, run.result? = some result →
        ((∃ outcome, result = .ok outcome) ↔ solo.Complete choices)) ∧
      (∀ outcome, run.result? = some (.ok outcome) → solo.Reports choices trace outcome) ∧
      (∀ failure, run.result? = some (.error failure) → Stops trace failure) ∧
      (∀ earlier before failed past, earlier <+: choices →
        solo.Comes earlier before failed past → IsFailing failed → starts trace = starts past) := by
  obtain ⟨world, run, trace, comes⟩ := solo.exists_comes choices
  obtain ⟨done, started, reaped, ledger⟩ := comes.ledger
  refine ⟨world, run, trace, comes, ledger.starts_prefix, ?_, ?_, ?_, ?_, ?_⟩
  · intro choice world' run' trace' comes'
    rcases comes.next comes' with ⟨_, same, _⟩ | ⟨events, turn, rfl⟩
    · exact .inl (by rw [same])
    · rw [starts_append]
      rcases starts_of_turn turn with nothing | ⟨command, later, phase, one⟩
      · exact .inl (by rw [nothing, List.append_nil])
      · exact .inr ⟨command.stage, _, by rw [one], ledger.isFed phase⟩
  · intro result ends
    constructor
    · rintro ⟨outcome, rfl⟩
      exact ledger.complete (BuildRun.phase_of_result? ends) (comes.renamed_iff.mpr (.inr ⟨outcome, BuildRun.phase_of_result? ends⟩))
    · intro complete
      rcases comes.renamed_iff.mp complete.renamed with closing | ⟨outcome, succeeds⟩
      · rw [BuildRun.phase_of_result? ends] at closing
        cases closing
      · rw [BuildRun.phase_of_result? ends] at succeeds
        cases succeeds
        exact ⟨outcome, rfl⟩
  · exact fun outcome ends => ledger.reports (BuildRun.phase_of_result? ends)
  · exact fun failure ends => ledger.stops (BuildRun.phase_of_result? ends)
  · exact fun earlier before failed past shorter went failing =>
      (comes.starts_failing shorter went failing).2

end Solo

end CalcBuild

/-
**Builds side by side.**

Any number of builds run at the same time in one world. Whatever is chosen, one build takes a turn or
none does. What every turn of a build preserves of the build holds of all of them at every moment.

* `Crowd`, `Crowd.Comes`: some builds, and what they have come to at each moment;
* `Comes.next`, `Comes.induction`: what one more choice does, and induction over a run;
* `Comes.each`: what every turn preserves of a build;
* `BuildRun.Wired`: how a build stands to its plan, and `Wired.turn`: that its turns preserve it;
* `Comes.started`: the process that a build waits for was started by the launch of its command;
* `Crowd.small`: small builds side by side.
-/

import CalcBuild.Proofs.Build.Order

namespace CalcBuild

open Files

variable {State : Type}

/-! ### How a build stands to its plan -/

/-- The result of a stage that is done is that of its command, which succeeded. -/
def StagePhase.Fits (command : Command) (phase : StagePhase State) : Prop :=
  ∀ result, phase = .finished (.ok result) →
    result.stage = command.stage ∧ result.command = command.line ∧ result.status.isSuccess = true

theorem StageRun.Step.fits {programs : Programs State} {setting : Setting} {options : StageOptions}
    {world : World} {command : Command} {before after : StagePhase State} {events : List Event}
    (steps : StageRun.Step programs setting options world command before after events) :
    after.Fits command := by
  intro result ends
  cases steps with
  | accepted fine =>
    cases ends
    exact ⟨rfl, rfl, (StageRun.rejection?_eq_none fine).1⟩
  | _ => cases ends

namespace BuildRun

/-- The results of a build are those of some commands, which succeeded. -/
def Done (run : BuildRun State) (done : List Command) : Prop :=
  (run.results.map fun result => (result.stage, result.command))
      = (done.map fun command => (command.stage, command.line)) ∧
    ∀ result ∈ run.results, result.status.isSuccess = true

/-- How a build stands to its plan: which commands are done, which one is the current one, and what
the build holds on to. -/
def Wired (builder : Builder) (request : BuildRequest) (run : BuildRun State) : Prop :=
  run.request = request ∧
  match run.phase with
  | .starting | .opening => run.results = [] ∧ run.workspace? = none ∧ run.staging? = none
  | .running stage later => ∃ workspace done, run.workspace? = some workspace ∧ run.Done done ∧
      planned builder request workspace run.staging? = done ++ stage.command :: later ∧
      (stage.command.stage = .link ↔ run.staging? ≠ none) ∧ stage.phase.Fits stage.command
  | .preparing link later | .reserving link later => ∃ workspace done,
      run.workspace? = some workspace ∧ run.Done done ∧ run.staging? = none ∧
      planned builder request workspace none = done ++ link :: later ∧ link.stage = .link
  | .vacating link later => ∃ workspace staging done, run.workspace? = some workspace ∧
      run.Done done ∧ run.staging? = some staging ∧
      planned builder request workspace (some staging) = done ++ link :: later ∧ link.stage = .link
  | .publishing => ∃ workspace staging, run.workspace? = some workspace ∧
      run.staging? = some staging ∧ run.Done (planned builder request workspace (some staging))
  | .closing => run.staging? = none ∧ ∃ workspace staging, run.workspace? = some workspace ∧
      run.Done (planned builder request workspace (some staging))
  | .withdrawing _ => True
  | .abandoning _ => run.staging? = none
  | .finished (.error _) => run.staging? = none ∧ run.workspace? = none
  | .finished (.ok outcome) => run.staging? = none ∧ run.workspace? = none ∧
      outcome = ⟨request.output, run.results⟩ ∧ ∃ workspace staging,
        run.Done (planned builder request workspace (some staging))

variable {programs : Programs State} {setting : Setting} {builder : Builder} {request : BuildRequest}
  {before after : World} {run run' : BuildRun State} {events : List Event}

theorem wired_start (builder : Builder) (request : BuildRequest) :
    (BuildRun.start request : BuildRun State).Wired builder request :=
  ⟨rfl, rfl, rfl, rfl⟩

/-- A build that goes on to the commands that are left stands to its plan as it should. -/
theorem Wired.following {workspace : Workspace} (done later : List Command)
    (same : run.request = request) (phase : run.phase = BuildRun.following later)
    (holds : run.workspace? = some workspace) (succeeded : run.Done done)
    (plan : planned builder request workspace run.staging? = done ++ later)
    (linked : run.staging? ≠ none ↔ later = []) : run.Wired builder request := by
  refine ⟨same, ?_⟩
  cases later with
  | nil =>
    rw [phase]
    obtain ⟨staging, staged⟩ := Option.ne_none_iff_exists'.mp (linked.mpr rfl)
    rw [List.append_nil, staged] at plan
    exact ⟨workspace, staging, holds, staged, plan ▸ succeeded⟩
  | cons command later =>
    have unstaged : run.staging? = none := by
      by_contra staged
      exact absurd (linked.mp staged) (List.cons_ne_nil _ _)
    rw [phase]
    by_cases isLink : command.stage = .link
    · rw [Solo.following_link later isLink]
      rw [unstaged] at plan
      exact ⟨workspace, done, holds, succeeded, unstaged, plan, isLink⟩
    · rw [Solo.following_other later isLink]
      refine ⟨workspace, done, holds, succeeded, plan, ?_, fun _ ends => nomatch ends⟩
      simp [StageRun.start, isLink, unstaged]

/-- One more result that fits its command. -/
theorem Done.concat {done : List Command} (succeeded : run.Done done) {command : Command}
    {result : StageResult} (fits : result.stage = command.stage ∧ result.command = command.line ∧
      result.status.isSuccess = true) (phase : BuildPhase State) :
    ({ run with results := run.results ++ [result], phase } : BuildRun State).Done
      (done ++ [command]) := by
  constructor
  · rw [List.map_append, List.map_append, succeeded.1]
    simp [fits.1, fits.2.1]
  · intro other member
    rcases List.mem_append.mp member with earlier | last
    · exact succeeded.2 other earlier
    · rw [List.mem_singleton.mp last]
      exact fits.2.2

/-- **Every turn of a build** leaves it to its plan as it should be. -/
theorem Wired.turn (wired : run.Wired builder request)
    (turn : BuildRun.Turn programs setting builder before run after run' events) :
    run'.Wired builder request := by
  obtain ⟨same, stands⟩ := wired
  cases turn with
  | process phase _ _ _ _ _ =>
    rw [phase] at stands
    obtain ⟨workspace, done, holds, succeeded, plan, linked, _⟩ := stands
    exact ⟨same, workspace, done, holds, succeeded, plan, linked, fun _ ends => nomatch ends⟩
  | own steps =>
    cases steps with
    | found phase _ =>
      rw [phase] at stands
      exact ⟨same, stands⟩
    | @opened _ workspace phase _ =>
      rw [phase] at stands
      obtain ⟨nothing, _, unstaged⟩ := stands
      refine Wired.following [] (BuildRun.commands builder workspace run.request) same rfl rfl
        ⟨by rw [nothing]; rfl, by rw [nothing]; exact fun _ => nofun⟩ ?_ ?_
      · rw [unstaged, same]
        exact List.map_id _
      · exact ⟨fun staged => absurd unstaged staged, fun empty => nomatch empty⟩
    | advanced phase steps =>
      rw [phase] at stands
      obtain ⟨workspace, done, holds, succeeded, plan, linked, _⟩ := stands
      exact ⟨same, workspace, done, holds, succeeded, plan, linked, steps.fits⟩
    | @succeeded command result later phase =>
      rw [phase] at stands
      obtain ⟨workspace, done, holds, succeeded, plan, linked, fits⟩ := stands
      have stages := planned_stages builder request workspace run.staging?
      rw [plan, List.map_append, List.map_cons] at stages
      have ends := (Stage.order_split stages).2
      rw [List.map_eq_nil_iff] at ends
      refine Wired.following (done ++ [command]) later same rfl holds
        (succeeded.concat (fits _ rfl) _) ?_ (linked.symm.trans ends)
      rw [plan]
      simp
    | prepared phase _ =>
      rw [phase] at stands
      exact ⟨same, stands⟩
    | @reserved _ staging link _ phase _ =>
      rw [phase] at stands
      obtain ⟨workspace, done, holds, succeeded, _, plan, isLink⟩ := stands
      exact ⟨same, workspace, staging, done, holds, succeeded, rfl,
        planned_redirect isLink plan staging, isLink⟩
    | vacated phase _ =>
      rw [phase] at stands
      obtain ⟨workspace, staging, done, holds, succeeded, staged, plan, isLink⟩ := stands
      refine ⟨same, workspace, done, holds, succeeded, ?_, ⟨fun _ => ?_, fun _ => isLink⟩,
        fun _ ends => nomatch ends⟩
      · rw [staged]
        exact plan
      · rw [staged]
        exact nofun
    | published phase holds _ =>
      rw [phase] at stands
      obtain ⟨workspace, staging, held, _, succeeded⟩ := stands
      exact ⟨same, rfl, workspace, staging, held, succeeded⟩
    | closed phase _ _ =>
      rw [phase] at stands
      obtain ⟨unstaged, workspace, staging, _, succeeded⟩ := stands
      exact ⟨same, unstaged, rfl, by rw [← same]; rfl, workspace, staging, succeeded⟩
    | withdrawn phase _ => exact ⟨same, rfl⟩
    | abandoned phase _ =>
      rw [phase] at stands
      exact ⟨same, stands, rfl⟩
    | _ => exact ⟨same, True.intro⟩

/-- **What the current command of a build makes**: its arguments end in it, and it is the name for
the linker if the build holds one, and else something in the workspace. -/
theorem Wired.artifact (wired : run.Wired builder request) {stage : StageRun State}
    {later : List Command} (phase : run.phase = .running stage later) :
    ∃ workspace, run.workspace? = some workspace ∧
      outputArgument? stage.command.arguments = some stage.command.output ∧
      (run.staging? = none →
        ∃ leaf, Path.IsLeaf leaf ∧ stage.command.output = Path.join workspace.path leaf) ∧
      ∀ staging, run.staging? = some staging → stage.command.output = staging := by
  have stands := wired.2
  rw [phase] at stands
  obtain ⟨workspace, done, holds, _, plan, linked, _⟩ := stands
  have member := mem_planned plan
  obtain ⟨⟨arguments, shape⟩, inWorkspace, atStaging⟩ := planned_output member
  refine ⟨workspace, holds, ?_, fun unstaged => inWorkspace fun isLink => linked.mp isLink unstaged,
    fun staging staged => atStaging (linked.mpr (by rw [staged]; exact nofun)) staging staged⟩
  rw [shape]
  exact outputArgument?_append _ _

end BuildRun

/-! ### Some builds -/

/-- Some builds: the machine, what the builds find, and what is asked of each. -/
structure Crowd (State : Type) where
  programs : Programs State
  setting : Setting
  builder : Builder
  world : World
  requests : List BuildRequest

namespace Crowd

/-- The builds and their world after a list of choices. -/
def after (crowd : Crowd State) (choices : List Choice) : System State :=
  (System.start crowd.world (crowd.requests.map fun request => .build (.start request))).run
    crowd.programs crowd.setting crowd.builder choices

/-- What some builds have come to after a list of choices: the world, and where each build stands. -/
structure Comes (crowd : Crowd State) (choices : List Choice) (world : World)
    (runs : List (BuildRun State)) : Prop where
  world_eq : (crowd.after choices).world = world
  jobs_eq : (crowd.after choices).jobs = runs.map Job.build

/-- A turn of one of the builds. -/
def Turn (crowd : Crowd State) :
    World → BuildRun State → World → BuildRun State → List Event → Prop :=
  BuildRun.Turn crowd.programs crowd.setting crowd.builder

theorem build_injective : Function.Injective (Job.build : BuildRun State → Job State) :=
  fun _ _ same => Job.build.inj same

theorem after_concat (crowd : Crowd State) (choices : List Choice) (choice : Choice) :
    crowd.after (choices ++ [choice])
      = (crowd.after choices).act crowd.programs crowd.setting crowd.builder choice :=
  List.foldl_append

/-- One more choice is idle or a turn of one of the builds. -/
theorem after_cases (crowd : Crowd State) (choices : List Choice) (choice : Choice)
    {runs : List (BuildRun State)} (jobs : (crowd.after choices).jobs = runs.map Job.build) :
    System.Idle (crowd.after choices) (crowd.after (choices ++ [choice])) ∨
      ∃ index run run' events, runs[index]? = some run ∧
        System.Turned crowd.programs crowd.setting crowd.builder index run run' events
          (crowd.after choices) (crowd.after (choices ++ [choice])) := by
  have builds : ∀ job ∈ (crowd.after choices).jobs, ∃ run : BuildRun State, job = .build run := by
    rw [jobs]
    intro job member
    obtain ⟨run, _, same⟩ := List.mem_map.mp member
    exact ⟨run, same.symm⟩
  rw [after_concat]
  rcases System.act_cases crowd.programs crowd.setting crowd.builder builds choice with idle | turned
  · exact .inl idle
  · obtain ⟨index, run, run', events, turned⟩ := turned
    have listed := turned.listed
    rw [jobs, List.getElem?_map, Option.map_eq_some_iff] at listed
    obtain ⟨_, listed, same⟩ := listed
    cases same
    exact .inr ⟨index, run, run', events, listed, turned⟩

variable {crowd : Crowd State}

/-- The builds come to something whatever is chosen. -/
theorem exists_comes (crowd : Crowd State) (choices : List Choice) :
    ∃ world runs, crowd.Comes choices world runs := by
  suffices jobs : ∃ runs : List (BuildRun State), (crowd.after choices).jobs = runs.map Job.build by
    obtain ⟨runs, jobs⟩ := jobs
    exact ⟨_, runs, rfl, jobs⟩
  induction choices using List.reverseRecOn with
  | nil => exact ⟨crowd.requests.map .start, (List.map_map ..).symm⟩
  | append_singleton choices choice ih =>
    obtain ⟨runs, jobs⟩ := ih
    rcases crowd.after_cases choices choice jobs with idle | ⟨index, _, run', _, _, turned⟩
    · exact ⟨runs, by rw [idle.jobs, jobs]⟩
    · exact ⟨runs.set index run', by rw [turned.jobs, jobs, List.map_set]⟩

namespace Comes

/-- The builds come to one thing only. -/
theorem unique {choices : List Choice} {world world' : World} {runs runs' : List (BuildRun State)}
    (comes : crowd.Comes choices world runs) (comes' : crowd.Comes choices world' runs') :
    world = world' ∧ runs = runs' := by
  refine ⟨comes.world_eq.symm.trans comes'.world_eq, ?_⟩
  have jobs := comes.jobs_eq
  rw [comes'.jobs_eq] at jobs
  exact (List.map_injective_iff.mpr build_injective jobs).symm

/-- **One more choice is idle or a turn of one of the builds.** -/
theorem next {choices : List Choice} {choice : Choice} {before after : World}
    {runs runs' : List (BuildRun State)} (comes : crowd.Comes choices before runs)
    (comes' : crowd.Comes (choices ++ [choice]) after runs') :
    (runs' = runs ∧ after.files = before.files ∧ after.drawn = before.drawn) ∨
      ∃ index run run' events, runs[index]? = some run ∧ crowd.Turn before run after run' events ∧
        runs' = runs.set index run' := by
  have jobs' := comes'.jobs_eq
  rcases crowd.after_cases choices choice comes.jobs_eq with
    idle | ⟨index, run, run', events, listed, turned⟩
  · rw [idle.jobs, comes.jobs_eq] at jobs'
    refine .inl ⟨(List.map_injective_iff.mpr build_injective jobs').symm, ?_, ?_⟩
    · rw [← comes'.world_eq, idle.files, comes.world_eq]
    · rw [← comes'.world_eq, idle.drawn, comes.world_eq]
  · rw [turned.jobs, comes.jobs_eq, ← List.map_set] at jobs'
    have turn := turned.turn
    rw [comes.world_eq, comes'.world_eq] at turn
    exact .inr ⟨index, run, run', events, listed, turn,
      (List.map_injective_iff.mpr build_injective jobs').symm⟩

/-- **Induction over the run of some builds**: what holds before the first step, and is preserved when
nothing happens and by every turn of a build, holds whatever is chosen. -/
theorem induction {motive : List Choice → World → List (BuildRun State) → Prop}
    (begins : motive [] crowd.world (crowd.requests.map .start))
    (idles : ∀ {choices : List Choice} {choice : Choice} {before after : World}
      {runs : List (BuildRun State)},
      crowd.Comes choices before runs → crowd.Comes (choices ++ [choice]) after runs →
      after.files = before.files → after.drawn = before.drawn → motive choices before runs →
      motive (choices ++ [choice]) after runs)
    (turns : ∀ {choices : List Choice} {choice : Choice} {before after : World}
      {runs : List (BuildRun State)} {index : Nat} {run run' : BuildRun State} {events : List Event},
      crowd.Comes choices before runs →
      crowd.Comes (choices ++ [choice]) after (runs.set index run') →
      runs[index]? = some run → crowd.Turn before run after run' events →
      motive choices before runs → motive (choices ++ [choice]) after (runs.set index run'))
    {choices : List Choice} {world : World} {runs : List (BuildRun State)}
    (comes : crowd.Comes choices world runs) : motive choices world runs := by
  induction choices using List.reverseRecOn generalizing world runs with
  | nil =>
    obtain ⟨rfl, rfl⟩ := comes.unique ⟨rfl, (List.map_map ..).symm⟩
    exact begins
  | append_singleton choices choice ih =>
    obtain ⟨before, runs₀, earlier⟩ := crowd.exists_comes choices
    rcases earlier.next comes with ⟨rfl, files, drawn⟩ | ⟨index, run, run', events, listed, turn, rfl⟩
    · exact idles earlier comes files drawn (ih earlier)
    · exact turns earlier comes listed turn (ih earlier)

/-- **What every turn preserves of a build** holds of all of them at every moment. -/
theorem each {motive : BuildRequest → BuildRun State → Prop}
    (begins : ∀ request, motive request (.start request))
    (turns : ∀ {request : BuildRequest} {before after : World} {run run' : BuildRun State}
      {events : List Event}, crowd.Turn before run after run' events → motive request run →
      motive request run')
    {choices : List Choice} {world : World} {runs : List (BuildRun State)}
    (comes : crowd.Comes choices world runs) {index : Nat} {run : BuildRun State}
    (listed : runs[index]? = some run) :
    ∃ request, crowd.requests[index]? = some request ∧ motive request run := by
  refine comes.induction (motive := fun _ _ runs => ∀ index run, runs[index]? = some run →
    ∃ request, crowd.requests[index]? = some request ∧ motive request run) ?_ ?_ ?_ index run listed
  · intro index run listed
    rw [List.getElem?_map, Option.map_eq_some_iff] at listed
    obtain ⟨request, listed, rfl⟩ := listed
    exact ⟨request, listed, begins request⟩
  · exact fun _ _ _ _ ih => ih
  · intro choices choice before after runs index run run' events _ _ listed turn ih other run'' listed'
    rw [List.getElem?_set] at listed'
    by_cases same : index = other
    · subst same
      rw [if_pos rfl] at listed'
      split at listed'
      · cases listed'
        obtain ⟨request, asked, before⟩ := ih index run listed
        exact ⟨request, asked, turns turn before⟩
      · cases listed'
    · rw [if_neg same] at listed'
      exact ih other run'' listed'

/-- Every build stands to its plan as it should. -/
theorem wired {choices : List Choice} {world : World} {runs : List (BuildRun State)}
    (comes : crowd.Comes choices world runs) {index : Nat} {run : BuildRun State}
    (listed : runs[index]? = some run) :
    ∃ request, crowd.requests[index]? = some request ∧ run.Wired crowd.builder request :=
  comes.each (BuildRun.wired_start _) (fun turn wired => wired.turn turn) listed

/-- The process that a build waits for was started by the launch of its command. -/
theorem started {choices : List Choice} {world : World} {runs : List (BuildRun State)}
    (comes : crowd.Comes choices world runs) {index : Nat} {run : BuildRun State}
    (listed : runs[index]? = some run) : run.Started crowd.programs crowd.setting :=
  (comes.each (motive := fun _ run => run.Started crowd.programs crowd.setting)
    (fun _ _ _ _ _ _ _ waits => nomatch waits) (fun turn started => started.turn turn)
    listed).choose_spec.2

end Comes

/-! ### Small builds side by side -/

/-- Processes that write what they are called with and end with success. -/
def stampers : Programs Launch :=
  stamp (fun _ launch => (Mode.ofFile, launch.arguments.flatten)) fun _ => .exited 0

/-- The name that a job holds for its linker. -/
def held? : Job State → Option Bytes
  | .build run => run.staging?
  | .stage _ => none

/-- Small builds towards some outputs, with a generator of names. -/
def small (names : Nat → Bytes) (outputs : List Bytes) : Crowd Launch where
  programs := stampers
  setting := { (Solo.small stampers []).setting with names }
  builder := (Solo.small stampers []).builder
  world := (Solo.small stampers []).world
  requests := outputs.map fun output => ⟨Bytes.ofText "s", "1", some output⟩

/-- A build takes the steps of one stage, and its process the one that it has. -/
def throughStage (index : Nat) : List Choice :=
  [.job index, .job index, .job index, .child index, .job index, .job index, .job index]

/-- A build takes all steps up to that in which it draws a name for the linker. -/
def throughDraw (index : Nat) : List Choice :=
  [.job index, .job index] ++ throughStage index ++ throughStage index ++ throughStage index ++
    [.job index, .job index]

end Crowd

end CalcBuild

/-
**What a build on its own has done so far.**

The trace of a build tells which processes were started and how they ended. This module ties it to
the commands of the build: at any moment some commands are done, with a status each, and the trace
shows the starts and ends of these in order, and of the current one as far as it has come.

* `starts`, `reaps`: the processes in a trace;
* `planned`: the commands of a build, the last one as it was redirected;
* `Succeeded`: a stage whose process was reaped with success and whose artifact was there;
* `Standing`: what every phase of a build says about its past;
* `Comes.ledger`: the invariant, over every run.
-/

import CalcBuild.Proofs.Build.Turns

namespace CalcBuild

open Files

variable {State : Type}

/-! ### Processes in a trace -/

/-- The start of a process, if that is what an event is. -/
def Event.start? : Event → Option (Stage × Launch)
  | .started stage launch => some (stage, launch)
  | _ => none

/-- The end of a process that was waited for, if that is what an event is. -/
def Event.reap? : Event → Option (Stage × WaitStatus)
  | .ended stage status => some (stage, status)
  | _ => none

/-- The processes that were started, in the order in which they were. -/
def starts (trace : List Event) : List (Stage × Launch) :=
  trace.reverse.filterMap Event.start?

/-- The processes that ended and were waited for, in the order in which they were. -/
def reaps (trace : List Event) : List (Stage × WaitStatus) :=
  trace.reverse.filterMap Event.reap?

theorem starts_append (events trace : List Event) :
    starts (events.reverse ++ trace) = starts trace ++ events.filterMap Event.start? := by
  simp [starts, List.filterMap_append]

theorem reaps_append (events trace : List Event) :
    reaps (events.reverse ++ trace) = reaps trace ++ events.filterMap Event.reap? := by
  simp [reaps, List.filterMap_append]

/-- The program and the arguments of a launch, as messages show a command. -/
def Launch.line (launch : Launch) : String :=
  String.ofList <|
    Text.Utf8.lossyChars launch.program ++
      launch.arguments.flatMap fun argument => ' ' :: Command.shownArgument argument

/-- **The text of a command renders what its launch starts.** -/
theorem Command.line_launch (command : Command) (setting : Setting) :
    (command.launch setting).line = command.line := rfl

/-- The stage that a failure is about. -/
def BuildFailure.stage? : BuildFailure → Option Stage
  | .spawn stage .. | .wait stage .. | .stageFailed stage .. | .stageTimedOut stage _
  | .interrupted stage _ | .missingArtifact stage _ => some stage
  | _ => none

/-! ### Planned commands -/

/-- A command as it runs when the linker writes to `staging`. -/
def Command.linkedTo (staging? : Option Bytes) (command : Command) : Command :=
  match staging? with
  | some staging => if command.stage = .link then command.redirect staging else command
  | none => command

theorem Command.linkedTo_stage (staging? : Option Bytes) (command : Command) :
    (command.linkedTo staging?).stage = command.stage := by
  unfold linkedTo
  split
  · split <;> rfl
  · rfl

/-- The commands of a build in a workspace, the last one as it runs when the linker writes to
`staging`. -/
def planned (builder : Builder) (request : BuildRequest) (workspace : Workspace)
    (staging? : Option Bytes) : List Command :=
  (BuildRun.commands builder workspace request).map (Command.linkedTo staging?)

/-- **The planned commands are one for each stage, in order.** -/
theorem planned_stages (builder : Builder) (request : BuildRequest) (workspace : Workspace)
    (staging? : Option Bytes) :
    (planned builder request workspace staging?).map Command.stage = Stage.order := by
  have same : ∀ command ∈ BuildRun.commands builder workspace request,
      (Command.stage ∘ Command.linkedTo staging?) command = command.stage :=
    fun command _ => Command.linkedTo_stage staging? command
  unfold planned
  rw [List.map_map, List.map_congr_left same]
  rfl

/-- The stage before a stage. -/
def Stage.previous? : Stage → Option Stage
  | .runtimeCompile => none
  | .frontendCompile => some .runtimeCompile
  | .lower => some .frontendCompile
  | .link => some .lower

theorem Stage.order_nodup : Stage.order.Nodup := by decide

/-- Where a stage stands in the order: after the one before it, and at the end only if it links. -/
theorem Stage.order_split {before after : List Stage} {stage : Stage}
    (split : before ++ stage :: after = Stage.order) :
    before.getLast? = stage.previous? ∧ (stage = .link ↔ after = []) := by
  unfold Stage.order at split
  match before with
  | [] | [_] | [_, _] | [_, _, _] =>
    simp only [List.nil_append, List.cons_append, List.cons.injEq] at split
    simp [split, Stage.previous?]
  | _ :: _ :: _ :: _ :: rest => simp at split

/-- Before the command of the linker comes no other one of its stage, and after it none. -/
theorem planned_redirect {builder : Builder} {request : BuildRequest} {workspace : Workspace}
    {done later : List Command} {link : Command} (isLink : link.stage = .link)
    (split : planned builder request workspace none = done ++ link :: later) (staging : Bytes) :
    planned builder request workspace (some staging) = done ++ link.redirect staging :: later := by
  have stages := planned_stages builder request workspace none
  have distinct := Stage.order_nodup
  rw [← stages, split, List.map_append, List.map_cons, List.nodup_append, List.nodup_cons,
    isLink] at distinct
  have kept {commands : List Command} (others : Stage.link ∉ commands.map Command.stage) :
      commands.map (Command.linkedTo (some staging)) = commands := by
    refine (List.map_congr_left fun command member => ?_).trans (List.map_id _)
    have differs : command.stage ≠ .link := fun same =>
      others (same ▸ List.mem_map_of_mem member)
    exact if_neg differs
  have unlinked : planned builder request workspace none
      = BuildRun.commands builder workspace request :=
    List.map_id _
  have before : Stage.link ∉ done.map Command.stage := fun member =>
    distinct.2.2 _ member _ List.mem_cons_self rfl
  unfold planned
  rw [← unlinked, split, List.map_append, List.map_cons, kept before, kept distinct.2.1.1]
  exact congrArg (fun command => done ++ command :: later) (if_pos isLink)

/-- The command that a plan has come to is one of its commands. -/
theorem mem_planned {builder : Builder} {request : BuildRequest} {workspace : Workspace}
    {staging? : Option Bytes} {done later : List Command} {command : Command}
    (split : planned builder request workspace staging? = done ++ command :: later) :
    command ∈ planned builder request workspace staging? := by
  rw [split]
  exact List.mem_append_right _ List.mem_cons_self

/-- What the commands of a build make: their arguments end in it, and it is in the workspace unless
the command links. -/
theorem planned_output {builder : Builder} {request : BuildRequest} {workspace : Workspace}
    {staging? : Option Bytes} {command : Command}
    (member : command ∈ planned builder request workspace staging?) :
    (∃ arguments, command.arguments = arguments ++ [outputFlag, command.output]) ∧
      (command.stage ≠ .link →
        ∃ leaf, Path.IsLeaf leaf ∧ command.output = Path.join workspace.path leaf) ∧
      (command.stage = .link → ∀ staging, staging? = some staging → command.output = staging) := by
  have runtime : Path.IsLeaf (Bytes.ofText "runtime.o") := ⟨by decide, by decide⟩
  have text : Path.IsLeaf (Bytes.ofText "expr.ll") := ⟨by decide, by decide⟩
  have object : Path.IsLeaf (Bytes.ofText "expr.o") := ⟨by decide, by decide⟩
  obtain ⟨original, listed, rfl⟩ := List.mem_map.mp member
  simp only [BuildRun.commands, plan, List.mem_cons, List.not_mem_nil, or_false] at listed
  rcases listed with rfl | rfl | rfl | rfl
  · cases staging? <;> exact ⟨⟨_, rfl⟩, fun _ => ⟨_, runtime, rfl⟩, fun isLink => nomatch isLink⟩
  · cases staging? <;> exact ⟨⟨_, rfl⟩, fun _ => ⟨_, text, rfl⟩, fun isLink => nomatch isLink⟩
  · cases staging? <;> exact ⟨⟨_, rfl⟩, fun _ => ⟨_, object, rfl⟩, fun isLink => nomatch isLink⟩
  · cases staging? with
    | none => exact ⟨⟨_, rfl⟩, fun other => absurd rfl other, fun _ _ same => nomatch same⟩
    | some staging =>
      refine ⟨⟨[workspace.exprObject, workspace.runtimeObject, Bytes.ofText "-lc",
        Bytes.ofText "-lm"], rfl⟩, fun other => absurd rfl other, fun _ staging' same => ?_⟩
      cases same
      rfl

/-! ### Stages that succeeded -/

namespace Solo

variable (solo : Solo State)

/-- At some moment of a run the process of a command had been reaped with success, and the artifact
of the command was there. -/
def Succeeded (choices : List Choice) (command : Command) (status : WaitStatus) : Prop :=
  ∃ earlier world run trace elapsed later, earlier <+: choices ∧
    solo.Comes earlier world run trace ∧
    run.phase = .running ⟨command, .collected status elapsed⟩ later ∧
    (command.stage, status) ∈ reaps trace ∧ status.isSuccess = true ∧
    world.files.pathExists solo.setting.cwd command.output = true

/-- At some moment of a run the build reserved a name for the linker to write to. -/
def Reserved (choices : List Choice) (staging : Bytes) : Prop :=
  ∃ earlier world run trace world', earlier <+: choices ∧ solo.Comes earlier world run trace ∧
    (∃ link later, run.phase = .reserving link later) ∧
    Staging.reserve solo.setting solo.request.output world = (world', .ok staging)

variable {solo}

theorem Succeeded.mono {choices choices' : List Choice} {command : Command} {status : WaitStatus}
    (succeeded : solo.Succeeded choices command status) (longer : choices <+: choices') :
    solo.Succeeded choices' command status := by
  obtain ⟨earlier, world, run, trace, elapsed, later, shorter, rest⟩ := succeeded
  exact ⟨earlier, world, run, trace, elapsed, later, shorter.trans longer, rest⟩

theorem Reserved.mono {choices choices' : List Choice} {staging : Bytes}
    (reserved : solo.Reserved choices staging) (longer : choices <+: choices') :
    solo.Reserved choices' staging := by
  obtain ⟨earlier, world, run, trace, world', shorter, rest⟩ := reserved
  exact ⟨earlier, world, run, trace, world', shorter.trans longer, rest⟩

variable (solo)

/-! ### What a phase says about the past -/

/-- How a stage can fail, with the commands whose processes it started and the processes it reaped. -/
inductive Fails (command : Command) :
    BuildFailure → List Command → List (Stage × WaitStatus) → Prop where
  | unstarted {failure : BuildFailure} (about : failure.stage? = some command.stage)
      (other : ∀ stage text status, failure ≠ .stageFailed stage text status) :
      Fails command failure [] []
  | killed {failure : BuildFailure} (about : failure.stage? = some command.stage)
      (other : ∀ stage text status, failure ≠ .stageFailed stage text status) :
      Fails command failure [command] []
  | unsuccessful {status : WaitStatus} (nonzero : status.isSuccess = false) :
      Fails command (.stageFailed command.stage command.line status) [command]
        [(command.stage, status)]
  | bare {status : WaitStatus} :
      Fails command (.missingArtifact command.stage command.output) [command]
        [(command.stage, status)]

/-- What the artifacts of the commands that are done have to be when the next process starts: the
last of them is still there. -/
def Fed (files : FileSystem) (done : List (Command × WaitStatus)) : Prop :=
  ∀ command status, done.getLast? = some (command, status) →
    files.pathExists solo.setting.cwd command.output = true

/-- What has been seen of a stage, by where it stands: the commands whose processes it started, and
the processes it reaped. -/
inductive Seen (choices : List Choice) (files : FileSystem) (done : List (Command × WaitStatus))
    (command : Command) :
    StagePhase State → List Command → List (Stage × WaitStatus) → Prop where
  | ready (fed : command.stage ≠ .link → solo.Fed files done) :
      Seen choices files done command .ready [] []
  | inspecting (fed : command.stage ≠ .link → solo.Fed files done) :
      Seen choices files done command .inspecting [] []
  | launching (fed : solo.Fed files done) : Seen choices files done command .launching [] []
  | waiting {child : Child State} {since due : Nat} :
      Seen choices files done command (.waiting child since due) [command] []
  | collected {status : WaitStatus} {elapsed : Nat} :
      Seen choices files done command (.collected status elapsed) [command]
        [(command.stage, status)]
  | accepted {status : WaitStatus} {elapsed : Nat}
      (made : files.pathExists solo.setting.cwd command.output = true)
      (succeeded : solo.Succeeded choices command status) :
      Seen choices files done command
        (.finished (.ok ⟨command.stage, command.line, status, elapsed⟩)) [command]
        [(command.stage, status)]
  | failed {failure : BuildFailure} {started : List Command} {reaped : List (Stage × WaitStatus)}
      (fails : Fails command failure started reaped) :
      Seen choices files done command (.finished (.error failure)) started reaped

/-- What is true of a build that failed: its failure is that of the command after those that are
done, or is about no stage at all. -/
def Failed (failure : BuildFailure) (done : List (Command × WaitStatus)) (started : List Command)
    (reaped : List (Stage × WaitStatus)) : Prop :=
  (∃ workspace staging? command later,
    planned solo.builder solo.request workspace staging? = done.map Prod.fst ++ command :: later ∧
    Fails command failure started reaped) ∨
  failure.stage? = none ∧ started = [] ∧ reaped = [] ∧
    ∃ workspace staging?, done.map Prod.fst <+: planned solo.builder solo.request workspace staging?

/-- What every phase of a build says about its past: which commands are done, with which status, and
what has been seen of the current one. -/
def Standing (choices : List Choice) (files : FileSystem) (run : BuildRun State)
    (done : List (Command × WaitStatus)) (started : List Command)
    (reaped : List (Stage × WaitStatus)) : Prop :=
  let plan := planned solo.builder solo.request
  let idle := started = [] ∧ reaped = []
  match run.phase with
  | .starting => done = [] ∧ idle ∧ run.staging? = none ∧ run.workspace? = none
  | .opening => done = [] ∧ idle ∧ run.staging? = none ∧ run.workspace? = none
  | .running stage later => ∃ workspace, run.workspace? = some workspace ∧
      plan workspace run.staging? = done.map Prod.fst ++ stage.command :: later ∧
      (stage.command.stage = .link ↔ run.staging? ≠ none) ∧
      solo.Seen choices files done stage.command stage.phase started reaped
  | .preparing link later => ∃ workspace, run.workspace? = some workspace ∧
      plan workspace none = done.map Prod.fst ++ link :: later ∧ link.stage = .link ∧
      run.staging? = none ∧ idle
  | .reserving link later => ∃ workspace, run.workspace? = some workspace ∧
      plan workspace none = done.map Prod.fst ++ link :: later ∧ link.stage = .link ∧
      run.staging? = none ∧ idle
  | .vacating link later => ∃ workspace, run.workspace? = some workspace ∧
      plan workspace run.staging? = done.map Prod.fst ++ link :: later ∧ link.stage = .link ∧
      run.staging? ≠ none ∧ idle
  | .publishing => ∃ workspace, run.workspace? = some workspace ∧
      plan workspace run.staging? = done.map Prod.fst ∧ run.staging? ≠ none ∧ idle
  | .closing => ∃ workspace staging, solo.Reserved choices staging ∧
      plan workspace (some staging) = done.map Prod.fst ∧ idle
  | .withdrawing failure => solo.Failed failure done started reaped
  | .abandoning failure => solo.Failed failure done started reaped
  | .finished (.error failure) => solo.Failed failure done started reaped
  | .finished (.ok outcome) => outcome = ⟨solo.request.output, run.results⟩ ∧
      ∃ workspace staging, solo.Reserved choices staging ∧
        plan workspace (some staging) = done.map Prod.fst ∧ idle

/-- The past of a build: the trace shows the commands that are done and the current one as far as it
has come, the results are those of the commands that are done, and all of these succeeded. -/
structure Ledger (choices : List Choice) (world : World) (run : BuildRun State)
    (trace : List Event) (done : List (Command × WaitStatus)) (started : List Command)
    (reaped : List (Stage × WaitStatus)) : Prop where
  request_eq : run.request = solo.request
  starts_eq : starts trace = (done.map Prod.fst ++ started).map fun command =>
    (command.stage, command.launch solo.setting)
  reaps_eq : reaps trace = (done.map fun entry => (entry.1.stage, entry.2)) ++ reaped
  results_eq : (run.results.map fun result => (result.stage, result.command, result.status))
    = done.map fun entry => (entry.1.stage, entry.1.line, entry.2)
  succeeded : ∀ entry ∈ done, solo.Succeeded choices entry.1 entry.2
  reserved : ∀ staging, run.staging? = some staging → solo.Reserved choices staging
  standing : solo.Standing choices world.files run done started reaped

variable {solo}

/-! ### The past is kept -/

theorem Seen.mono {choices choices' : List Choice} {files files' : FileSystem}
    {done : List (Command × WaitStatus)} {command : Command} {phase : StagePhase State}
    {started : List Command} {reaped : List (Stage × WaitStatus)}
    (seen : solo.Seen choices files done command phase started reaped)
    (longer : choices <+: choices') (same : files' = files) :
    solo.Seen choices' files' done command phase started reaped := by
  subst same
  cases seen with
  | ready fed => exact .ready fed
  | inspecting fed => exact .inspecting fed
  | launching fed => exact .launching fed
  | waiting => exact .waiting
  | collected => exact .collected
  | accepted made succeeded => exact .accepted made (succeeded.mono longer)
  | failed fails => exact .failed fails

/-- What a phase says about the past stays true as long as the files do not change. -/
theorem Standing.mono {choices choices' : List Choice} {files files' : FileSystem}
    {run : BuildRun State} {done : List (Command × WaitStatus)} {started : List Command}
    {reaped : List (Stage × WaitStatus)}
    (standing : solo.Standing choices files run done started reaped)
    (longer : choices <+: choices') (same : files' = files) :
    solo.Standing choices' files' run done started reaped := by
  unfold Standing at standing ⊢
  split at standing
  case h_3 =>
    obtain ⟨workspace, holds, plan, linked, seen⟩ := standing
    exact ⟨workspace, holds, plan, linked, seen.mono longer same⟩
  case h_8 =>
    obtain ⟨workspace, staging, reserved, plan⟩ := standing
    exact ⟨workspace, staging, reserved.mono longer, plan⟩
  case h_12 =>
    obtain ⟨outcome, workspace, staging, reserved, plan⟩ := standing
    exact ⟨outcome, workspace, staging, reserved.mono longer, plan⟩
  all_goals exact standing

namespace Ledger

variable {choices choices' : List Choice} {before after : World} {run run' : BuildRun State}
  {trace events : List Event} {done : List (Command × WaitStatus)} {started : List Command}
  {reaped : List (Stage × WaitStatus)}

/-- A step that starts and reaps no process, and adds no result. -/
theorem quiet (ledger : solo.Ledger choices before run trace done started reaped)
    (longer : choices <+: choices') (request : run'.request = run.request)
    (results : run'.results = run.results)
    (silent : ∀ event ∈ events, event.start? = none ∧ event.reap? = none)
    (reserved : ∀ staging, run'.staging? = some staging → solo.Reserved choices' staging)
    (standing : solo.Standing choices' after.files run' done started reaped) :
    solo.Ledger choices' after run' (events.reverse ++ trace) done started reaped where
  request_eq := request.trans ledger.request_eq
  starts_eq := by
    have none_started : events.filterMap Event.start? = [] :=
      List.filterMap_eq_nil_iff.mpr fun event member => (silent event member).1
    rw [starts_append, none_started, List.append_nil, ledger.starts_eq]
  reaps_eq := by
    have none_reaped : events.filterMap Event.reap? = [] :=
      List.filterMap_eq_nil_iff.mpr fun event member => (silent event member).2
    rw [reaps_append, none_reaped, List.append_nil, ledger.reaps_eq]
  results_eq := by rw [results, ledger.results_eq]
  succeeded := fun entry member => (ledger.succeeded entry member).mono longer
  reserved := reserved
  standing := standing

/-- The names that were reserved stay so while the build holds on to the same one. -/
theorem reserved_mono (ledger : solo.Ledger choices before run trace done started reaped)
    (longer : choices <+: choices') :
    ∀ staging, run.staging? = some staging → solo.Reserved choices' staging :=
  fun staging holds => (ledger.reserved staging holds).mono longer

end Ledger

end Solo

end CalcBuild

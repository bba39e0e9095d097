/-
**What a raised flag does to a build.**

The flag keeps the first signal other than zero that it is raised with. A stage looks at it before it
does anything, and again each time it looks at its process.

* `CancelFlag.raised_foldl`: what a flag says is the first signal other than zero;
* `System.calls`, `Solo.signal?`: the signals that the flag is raised with in a run;
* `Comes.checked`: a stage that goes on found the flag lowered when it began;
* `Comes.after_raise`: after the flag was raised no stage begins but the one that had looked already;
* `Comes.interrupted`: a build that is interrupted carries the first signal;
* `cancellation_safe`: the main theorem.
-/

import CalcBuild.Proofs.Build.Order
import Mathlib

namespace CalcBuild

open Files

variable {State : Type}

/-! ### The flag -/

namespace CancelFlag

/-- The first signal that is not zero. -/
def first? (signals : List Int32) : Option Int32 := signals.find? (· ≠ 0)

theorem first?_append {signals : List Int32} {signal : Int32} (found : first? signals = some signal)
    (more : List Int32) : first? (signals ++ more) = some signal := by
  unfold first? at found ⊢
  rw [List.find?_append, found, Option.some_or]

/-- **What a flag says is the first signal other than zero** that it was raised with. -/
theorem raised_foldl (flag : CancelFlag) (signals : List Int32) :
    (signals.foldl raise flag).raised = first? (flag.signal :: signals) := by
  induction signals generalizing flag with
  | nil =>
    by_cases zero : flag.signal = 0 <;> simp [raised, first?, zero]
  | cons signal signals ih =>
    rw [List.foldl_cons, ih]
    by_cases zero : flag.signal = 0 <;> simp [raise, first?, zero]

theorem raise_zero (flag : CancelFlag) : flag.raise 0 = flag := by
  unfold raise
  split
  · rename_i zero
    rw [← zero]
  · rfl

end CancelFlag

theorem StageOptions.cancelledBy_eq {options : StageOptions} (cancellable : options.cancellable = true)
    (flag : CancelFlag) : options.cancelledBy flag = flag.raised :=
  if_pos cancellable

namespace System

variable (programs : Programs State) (setting : Setting) (builder : Builder)

/-- What the flag is raised with when the process of a job takes its next step. -/
def childCalls (system : System State) (job : Job State) : List Int32 :=
  match job.child? with
  | some (.running state wakes) =>
    if wakes ≤ system.world.clock then
      match (programs.step system.world.files state).2 with
      | .signals signal _ =>
        if setting.signalEffect signal = .raises then [Int32.ofNat signal] else []
      | _ => []
    else []
  | _ => []

/-- What the flag is raised with when a choice is made: from outside, or by a process that sends the
driver a signal. -/
def calls (system : System State) : Choice → List Int32
  | .raise signal => [signal]
  | .child index => (system.jobs[index]?.map (system.childCalls programs setting)).getD []
  | _ => []

/-- What the flag is raised with in a run. -/
def callsIn (system : System State) : List Choice → List Int32
  | [] => []
  | choice :: choices =>
    system.calls programs setting choice ++
      (system.act programs setting builder choice).callsIn choices

theorem callsIn_append (system : System State) (choices more : List Choice) :
    system.callsIn programs setting builder (choices ++ more)
      = system.callsIn programs setting builder choices ++
        (system.run programs setting builder choices).callsIn programs setting builder more := by
  induction choices generalizing system with
  | nil => rfl
  | cons choice choices ih =>
    simp only [List.cons_append, callsIn, ih, List.append_assoc]
    rfl

/-- The flag after a choice. -/
theorem flag_act (system : System State) (choice : Choice) :
    (system.act programs setting builder choice).world.flag
      = (system.calls programs setting choice).foldl CancelFlag.raise system.world.flag := by
  cases choice with
  | pass time | raise signal => rfl
  | job index =>
    show (system.actJob programs setting builder index).world.flag = system.world.flag
    unfold actJob
    split
    · rename_i job _ _
      split
      · rename_i able
        cases job with
        | stage run => rfl
        | build run =>
          exact (BuildRun.act_step programs setting builder system.world run
            (BuildRun.result?_of_isAble able)).flag
      · rfl
    · rfl
  | child index =>
    show (system.actChild programs setting index).world.flag = _
    cases listed : system.jobs[index]? with
    | none => simp only [actChild, calls, listed]; rfl
    | some job =>
      cases waits : job.child? with
      | none => simp only [actChild, calls, childCalls, listed, waits, Option.map_some]; rfl
      | some child =>
        cases child with
        | ended status =>
          simp only [actChild, calls, childCalls, listed, waits, Option.map_some]
          rfl
        | running state wakes =>
          by_cases awake : wakes ≤ system.world.clock
          · simp only [actChild, calls, childCalls, listed, waits, awake, if_true, Option.map_some,
              Option.getD_some]
            cases moves : (programs.step system.world.files state).2 with
            | signals signal next =>
              dsimp only
              unfold deliver
              cases setting.signalEffect signal <;> rfl
            | _ => rfl
          · simp only [actChild, calls, childCalls, listed, waits, awake, if_false, Option.map_some]
            rfl

/-- The flag after a run. -/
theorem flag_run (system : System State) (choices : List Choice) :
    (system.run programs setting builder choices).world.flag
      = (system.callsIn programs setting builder choices).foldl CancelFlag.raise
          system.world.flag := by
  induction choices generalizing system with
  | nil => rfl
  | cons choice choices ih =>
    have after := ih (system.act programs setting builder choice)
    rw [flag_act, ← List.foldl_append] at after
    exact after

/-- A driver that was ended stays so. -/
theorem endedBy?_of_act {system : System State} {choice : Choice}
    (alive : (system.act programs setting builder choice).endedBy? = none) :
    system.endedBy? = none := by
  cases choice with
  | pass time | raise signal => exact alive
  | job index =>
    change (system.actJob programs setting builder index).endedBy? = none at alive
    unfold actJob at alive
    split at alive
    · assumption
    · exact alive
  | child index =>
    change (system.actChild programs setting index).endedBy? = none at alive
    unfold actChild at alive
    repeat' split at alive
    all_goals try exact alive
    dsimp only at alive
    split at alive <;> try exact alive
    unfold deliver at alive
    split at alive
    · exact alive
    · exact alive
    · cases alive

end System

/-! ### How far a build has come -/

namespace BuildRun

/-- The command of the stage that has looked at the flag, but has not started its process. -/
def pending? (run : BuildRun State) : Option Command :=
  match run.phase with
  | .running ⟨command, .inspecting⟩ _ | .running ⟨command, .launching⟩ _ => some command
  | _ => none

/-- The command of the stage that has looked at the flag, and goes on. -/
def admitted? (run : BuildRun State) : Option Command :=
  match run.phase with
  | .running ⟨command, .inspecting⟩ _ | .running ⟨command, .launching⟩ _
  | .running ⟨command, .waiting ..⟩ _ | .running ⟨command, .collected ..⟩ _ => some command
  | _ => none

/-- What a build fails with, if it has gone wrong. -/
def failure? (run : BuildRun State) : Option BuildFailure :=
  match run.phase with
  | .running ⟨_, .finished (.error failure)⟩ _ => some failure
  | .withdrawing failure | .abandoning failure | .finished (.error failure) => some failure
  | _ => none

/-- How many steps a build that has gone wrong still takes, or one that is about to. -/
def stepsLeft (run : BuildRun State) : Nat :=
  match run.phase with
  | .running ⟨_, .finished _⟩ _ => 3
  | .running .. => 4
  | .withdrawing _ => 2
  | .abandoning _ => 1
  | _ => 0

theorem pending?_admitted {run : BuildRun State} {command : Command}
    (pending : run.pending? = some command) : run.admitted? = some command := by
  unfold pending? at pending
  unfold admitted?
  split at pending <;> simp_all

theorem pending?_eq_none {run : BuildRun State} (nothing : run.admitted? = none) :
    run.pending? = none := by
  cases pending : run.pending? with
  | none => rfl
  | some command =>
    rw [pending?_admitted pending] at nothing
    cases nothing

theorem child?_admitted {run : BuildRun State} {child : Child State}
    (waits : (Job.build run).child? = some child) : ∃ command, run.admitted? = some command := by
  obtain ⟨command, since, due, later, phase⟩ := phase_of_child waits
  exact ⟨command, by simp only [admitted?, phase]⟩

end BuildRun

/-- Between two stages none has looked at the flag, and nothing has gone wrong. -/
theorem BuildRun.following_quiet (run : BuildRun State) (later : List Command)
    (phase : run.phase = following later) : run.admitted? = none ∧ run.failure? = none := by
  unfold admitted? failure?
  rw [phase]
  cases later with
  | nil => exact ⟨rfl, rfl⟩
  | cons command later =>
    by_cases isLink : command.stage = .link
    · rw [Solo.following_link later isLink]
      exact ⟨rfl, rfl⟩
    · rw [Solo.following_other later isLink]
      exact ⟨rfl, rfl⟩

namespace Solo

/-! ### The signals of a run -/

section Signals

variable (solo : Solo State)

/-- What the flag is raised with in a run, and before it. -/
def calls (choices : List Choice) : List Int32 :=
  solo.world.flag.signal ::
    (System.start solo.world [.build (.start solo.request)]).callsIn solo.programs solo.setting
      solo.builder choices

/-- The first signal other than zero that the flag is raised with in a run. -/
def signal? (choices : List Choice) : Option Int32 := CancelFlag.first? (solo.calls choices)

variable {solo}

/-- **The flag says the first signal** that it was raised with. -/
theorem Comes.flag_raised {choices : List Choice} {world : World} {run : BuildRun State}
    {trace : List Event} (comes : solo.Comes choices world run trace) :
    world.flag.raised = solo.signal? choices := by
  rw [← comes.world_eq]
  unfold after signal? calls
  rw [System.flag_run]
  exact CancelFlag.raised_foldl ..

/-- The first signal stays the first. -/
theorem signal?_append {choices : List Choice} {signal : Int32}
    (raised : solo.signal? choices = some signal) (more : List Choice) :
    solo.signal? (choices ++ more) = some signal := by
  unfold signal? calls at raised ⊢
  rw [System.callsIn_append, ← List.cons_append]
  exact CancelFlag.first?_append raised _

theorem after_append (choices more : List Choice) : solo.after (choices ++ more)
    = (solo.after choices).run solo.programs solo.setting solo.builder more :=
  List.foldl_append

/-- **Raising the flag with zero has no effect.** -/
theorem after_raise_zero (choices more : List Choice) :
    solo.after (choices ++ .raise 0 :: more) = solo.after (choices ++ more) := by
  have same : (solo.after choices).act solo.programs solo.setting solo.builder (.raise 0)
      = solo.after choices := by
    simp only [System.act, CancelFlag.raise_zero]
  rw [after_append, after_append, System.run, List.foldl_cons, same]
  rfl

theorem alive_of_append {choices more : List Choice}
    (alive : (solo.after (choices ++ more)).endedBy? = none) :
    (solo.after choices).endedBy? = none := by
  induction more using List.reverseRecOn with
  | nil => rwa [List.append_nil] at alive
  | append_singleton more choice ih =>
    rw [← List.append_assoc, after_append] at alive
    exact ih (System.endedBy?_of_act solo.programs solo.setting solo.builder alive)

/-- The build takes its next step when it is its turn and it is able to. -/
theorem Comes.own {choices : List Choice} {world : World} {run : BuildRun State}
    {trace : List Event} (comes : solo.Comes choices world run trace)
    (alive : (solo.after choices).endedBy? = none)
    (able : run.isAble solo.builder world.clock = true) :
    ∃ world' run' events, solo.Comes (choices ++ [.job 0]) world' run' (events.reverse ++ trace) ∧
      BuildRun.Step solo.programs solo.setting solo.builder world run world' run' events := by
  have steps := BuildRun.act_step solo.programs solo.setting solo.builder world run
    (BuildRun.result?_of_isAble able)
  have acts : solo.after (choices ++ [.job 0])
      = (solo.after choices).actJob solo.programs solo.setting solo.builder 0 :=
    after_append ..
  simp only [System.actJob, comes.jobs_eq, List.getElem?_cons_zero, alive, comes.world_eq,
    Job.isAble, able, if_true, Job.act] at acts
  exact ⟨_, _, _, ⟨by rw [acts], by rw [acts]; rfl, by rw [acts, comes.trace_eq]⟩, steps⟩

end Signals

/-! ### Builds that are lost -/

section Lost

variable (solo : Solo State)

/-- A build is lost: it has gone wrong, or its next stage is about to find the flag raised. -/
def IsLost (choices : List Choice) (run : BuildRun State) (failure : BuildFailure) : Prop :=
  run.failure? = some failure ∨ ∃ command later signal,
    run.phase = .running ⟨command, .ready⟩ later ∧ solo.signal? choices = some signal ∧
      failure = .interrupted command.stage signal

/-- From some moment on nothing more is seen of a build. It has no process, and after four more steps
of its own at the latest it is done, with a failure. -/
def EndsWith (choices : List Choice) (failure : BuildFailure) : Prop :=
  ∀ more world run trace, solo.Comes (choices ++ more) world run trace →
    trace = (solo.after choices).trace ∧ (Job.build run).child? = none ∧
      (∀ result, run.result? = some result → result = .error failure) ∧
      (4 ≤ more.count (.job 0) → (solo.after (choices ++ more)).endedBy? = none →
        run.result? = some (.error failure))

variable {solo} {choices : List Choice} {before after world : World} {run run' : BuildRun State}
  {trace events : List Event} {failure : BuildFailure}

theorem IsLost.append (lost : solo.IsLost choices run failure) (more : List Choice) :
    solo.IsLost (choices ++ more) run failure := by
  rcases lost with fails | ⟨command, later, signal, phase, raised, same⟩
  · exact .inl fails
  · exact .inr ⟨command, later, signal, phase, signal?_append raised more, same⟩

theorem IsLost.childless (lost : solo.IsLost choices run failure) :
    (Job.build run).child? = none := by
  cases waits : (Job.build run).child? with
  | none => rfl
  | some child =>
    obtain ⟨_, _, _, _, waiting⟩ := BuildRun.phase_of_child waits
    rcases lost with fails | ⟨_, _, _, phase, _⟩
    · simp [BuildRun.failure?, waiting] at fails
    · rw [waiting] at phase
      cases phase

/-- A lost build that is done has failed. -/
theorem IsLost.result (lost : solo.IsLost choices run failure)
    {result : Except BuildFailure BuildOutcome} (ends : run.result? = some result) :
    result = .error failure := by
  have phase := BuildRun.phase_of_result? ends
  rcases lost with fails | ⟨_, _, _, phase', _⟩
  · cases result <;> simp_all [BuildRun.failure?]
  · rw [phase] at phase'
    cases phase'

theorem IsLost.done (lost : solo.IsLost choices run failure) (none_left : run.stepsLeft = 0) :
    run.result? = some (.error failure) := by
  rcases lost with fails | ⟨_, _, _, phase, _⟩
  · unfold BuildRun.failure? at fails
    unfold BuildRun.stepsLeft at none_left
    unfold BuildRun.result?
    split at fails <;> simp_all
  · simp [BuildRun.stepsLeft, phase] at none_left

theorem IsLost.able (lost : solo.IsLost choices run failure) (some_left : run.stepsLeft ≠ 0)
    (clock : Nat) : run.isAble solo.builder clock = true := by
  rcases lost with fails | ⟨_, _, _, phase, _⟩
  · unfold BuildRun.failure? at fails
    unfold BuildRun.stepsLeft at some_left
    unfold BuildRun.isAble
    split at fails <;> simp_all [StageRun.result?]
  · simp [BuildRun.isAble, phase, StageRun.isAble]

/-- A build that has gone wrong stays so: a turn is not seen, and brings it closer to its failure. -/
theorem failure?_turn (fails : run.failure? = some failure)
    (turn : solo.Turn before run after run' events) :
    run'.failure? = some failure ∧ events = [] ∧ run'.stepsLeft < run.stepsLeft := by
  cases turn with
  | process phase _ _ _ _ _ => simp [BuildRun.failure?, phase] at fails
  | own steps =>
    cases steps with
    | advanced phase steps => cases steps <;> simp [BuildRun.failure?, phase] at fails
    | failed phase | withdrawn phase | abandoned phase =>
      simp only [BuildRun.failure?, phase] at fails
      exact ⟨fails, rfl, by simp [BuildRun.stepsLeft, phase]⟩
    | _ => simp [BuildRun.failure?, *] at fails

/-- **A turn of a lost build** is not seen, and brings the build closer to its failure. -/
theorem IsLost.turn (cancellable : solo.builder.stageOptions.cancellable = true)
    (lost : solo.IsLost choices run failure) (comes : solo.Comes choices before run trace)
    (turn : solo.Turn before run after run' events) :
    run'.failure? = some failure ∧ events = [] ∧ run'.stepsLeft < run.stepsLeft := by
  rcases lost with fails | ⟨command, later, signal, phase, raised, rfl⟩
  · exact failure?_turn fails turn
  · rw [← comes.flag_raised, ← StageOptions.cancelledBy_eq cancellable] at raised
    cases turn with
    | process phase' _ _ _ _ _ => simp [phase'] at phase
    | own steps =>
      cases steps with
      | advanced phase' steps =>
        rw [phase] at phase'
        cases phase'
        cases steps with
        | cancelled raised' =>
          rw [raised] at raised'
          cases raised'
          exact ⟨rfl, rfl, by simp [BuildRun.stepsLeft, phase]⟩
        | admitted lowered =>
          rw [raised] at lowered
          cases lowered
      | _ => simp_all

/-- **A lost build fails**, whatever is chosen. -/
theorem Comes.endsWith (cancellable : solo.builder.stageOptions.cancellable = true)
    (comes : solo.Comes choices world run trace) (lost : solo.IsLost choices run failure) :
    solo.EndsWith choices failure := by
  have stays (more : List Choice) : ∀ world' run' trace',
      solo.Comes (choices ++ more) world' run' trace' →
      trace' = trace ∧ solo.IsLost (choices ++ more) run' failure ∧
        ((solo.after (choices ++ more)).endedBy? = none →
          run'.stepsLeft ≤ run.stepsLeft - more.count (.job 0)) := by
    induction more using List.reverseRecOn with
    | nil =>
      intro world' run' trace' comes'
      rw [List.append_nil] at comes' ⊢
      obtain ⟨rfl, rfl, rfl⟩ := comes.unique comes'
      exact ⟨rfl, lost, fun _ => Nat.le_refl _⟩
    | append_singleton more choice ih =>
      intro world' run' trace' comes'
      obtain ⟨before, run₀, trace₀, comes₀⟩ := solo.exists_comes (choices ++ more)
      obtain ⟨rfl, lost₀, bound⟩ := ih _ _ _ comes₀
      rw [← List.append_assoc] at comes' ⊢
      rcases comes₀.next comes' with ⟨rfl, rfl, _⟩ | ⟨events, turn, rfl⟩
      · refine ⟨rfl, lost₀.append _, fun alive => ?_⟩
        have before := bound (alive_of_append alive)
        by_cases own : choice = .job 0 ∧ run'.stepsLeft ≠ 0
        · -- The build was able to take the step that was chosen, so it did not stay as it was.
          obtain ⟨rfl, some_left⟩ := own
          obtain ⟨_, _, _, comes₁, steps⟩ := comes₀.own (alive_of_append alive) (lost₀.able some_left _)
          obtain ⟨_, rfl, _⟩ := comes₁.unique comes'
          have closer := (lost₀.turn cancellable comes₀ (.own steps)).2.2
          omega
        · rw [List.count_append, List.count_singleton]
          split
          · rename_i same
            have : run'.stepsLeft = 0 := by
              by_contra some_left
              exact own ⟨by simpa using same, some_left⟩
            omega
          · omega
      · obtain ⟨fails, rfl, closer⟩ := lost₀.turn cancellable comes₀ turn
        refine ⟨rfl, .inl fails, fun alive => ?_⟩
        have before := bound (alive_of_append alive)
        rw [List.count_append, List.count_singleton]
        split <;> omega
  intro more world' run' trace' comes'
  obtain ⟨rfl, lost', bound⟩ := stays more _ _ _ comes'
  refine ⟨comes.trace_eq.symm, lost'.childless, fun _ => lost'.result, fun enough alive => ?_⟩
  have left := bound alive
  have most : run.stepsLeft ≤ 4 := by
    unfold BuildRun.stepsLeft
    split <;> omega
  exact lost'.done (by omega)

end Lost

/-! ### What begins, and what does not -/

section Admission

variable {solo : Solo State} {choices earlier : List Choice} {past before after world : World}
  {went run run' : BuildRun State} {seen trace events : List Event} {signal : Int32}

variable (solo) in
/-- At some moment of a run the stage of a command looked at the flag for the first time, when it had
not been raised, and went on. -/
def Checked (choices : List Choice) (command : Command) : Prop :=
  ∃ earlier choice before went seen later after run trace,
    earlier ++ [choice] <+: choices ∧ solo.Comes earlier before went seen ∧
    went.phase = .running ⟨command, .ready⟩ later ∧ solo.signal? earlier = none ∧
    solo.Comes (earlier ++ [choice]) after run trace ∧
    run.phase = .running ⟨command, .inspecting⟩ later

theorem Checked.mono {choices choices' : List Choice} {command : Command}
    (checked : solo.Checked choices command) (longer : choices <+: choices') :
    solo.Checked choices' command := by
  obtain ⟨earlier, choice, before, went, seen, later, after, run, trace, shorter, rest⟩ := checked
  exact ⟨earlier, choice, before, went, seen, later, after, run, trace, shorter.trans longer, rest⟩

/-- **A stage that goes on found the flag lowered** when it began. -/
theorem Comes.checked (cancellable : solo.builder.stageOptions.cancellable = true)
    (comes : solo.Comes choices world run trace) :
    ∀ command, run.admitted? = some command → solo.Checked choices command := by
  refine comes.induction (motive := fun choices _ run _ =>
    ∀ command, run.admitted? = some command → solo.Checked choices command) ?_ ?_ ?_
  · intro command admitted
    cases admitted
  · intro choices choice before after run trace _ _ _ _ ih command admitted
    exact (ih command admitted).mono (List.prefix_append ..)
  · intro choices choice before after run run' trace events comes comes' turn ih command admitted
    by_cases same : run.admitted? = some command
    · exact (ih command same).mono (List.prefix_append ..)
    · -- The stage looked at the flag in this very turn.
      cases turn with
      | process phase _ _ _ _ _ => simp_all [BuildRun.admitted?]
      | own steps =>
        cases steps with
        | advanced phase steps =>
          cases steps with
          | admitted lowered =>
            rw [StageOptions.cancelledBy_eq cancellable, comes.flag_raised] at lowered
            cases admitted
            exact ⟨choices, choice, _, _, _, _, _, _, _, List.prefix_refl _, comes, phase, lowered,
              comes', rfl⟩
          | _ => simp_all [BuildRun.admitted?]
        | @opened _ workspace =>
          rw [(BuildRun.following_quiet _ (BuildRun.commands _ workspace _) rfl).1] at admitted
          cases admitted
        | @succeeded _ _ later =>
          rw [(BuildRun.following_quiet _ later rfl).1] at admitted
          cases admitted
        | _ => cases admitted

/-- What happens in one turn after the flag was raised: no stage looks at it and goes on, and only
the one that had looked already may start its process. -/
theorem admitted?_turn (cancellable : solo.builder.stageOptions.cancellable = true)
    (comes : solo.Comes choices before run trace) (raised : solo.signal? choices = some signal)
    (turn : solo.Turn before run after run' events) :
    (run'.admitted? = none ∨ run'.admitted? = run.admitted?) ∧
      ((run'.pending? = none ∨ run'.pending? = run.pending?) ∧
          events.filterMap Event.start? = [] ∨
        ∃ command, run.pending? = some command ∧ run'.pending? = none ∧
          events.filterMap Event.start? = [(command.stage, command.launch solo.setting)]) := by
  cases turn with
  | process phase _ _ _ _ prints =>
    have silent : events.filterMap Event.start? = [] :=
      List.filterMap_eq_nil_iff.mpr fun event member => by
        obtain ⟨_, _, rfl⟩ := prints event member
        rfl
    exact ⟨.inr (by simp [BuildRun.admitted?, phase]), .inl ⟨.inl rfl, silent⟩⟩
  | own steps =>
    cases steps with
    | advanced phase steps =>
      cases steps with
      | admitted lowered =>
        rw [StageOptions.cancelledBy_eq cancellable, comes.flag_raised, raised] at lowered
        cases lowered
      | launched _ =>
        exact ⟨.inr (by simp [BuildRun.admitted?, phase]),
          .inr ⟨_, by simp [BuildRun.pending?, phase], rfl, rfl⟩⟩
      | inspected _ =>
        exact ⟨.inr (by simp [BuildRun.admitted?, phase]),
          .inl ⟨.inr (by simp [BuildRun.pending?, phase]), rfl⟩⟩
      | reaped | looked =>
        exact ⟨.inr (by simp [BuildRun.admitted?, phase]), .inl ⟨.inl rfl, rfl⟩⟩
      | _ => exact ⟨.inl rfl, .inl ⟨.inl rfl, rfl⟩⟩
    | @opened _ workspace =>
      refine ⟨.inl ?_, .inl ⟨.inl (BuildRun.pending?_eq_none ?_), rfl⟩⟩ <;>
        exact (BuildRun.following_quiet _ (BuildRun.commands _ workspace _) rfl).1
    | @succeeded _ _ later =>
      refine ⟨.inl ?_, .inl ⟨.inl (BuildRun.pending?_eq_none ?_), rfl⟩⟩ <;>
        exact (BuildRun.following_quiet _ later rfl).1
    | closed _ _ records =>
      have silent : events.filterMap Event.start? = [] :=
        List.filterMap_eq_nil_iff.mpr fun event member => by
          obtain ⟨_, rfl⟩ := records event member
          rfl
      exact ⟨.inl rfl, .inl ⟨.inl rfl, silent⟩⟩
    | _ => exact ⟨.inl rfl, .inl ⟨.inl rfl, rfl⟩⟩

/-- **After the flag was raised** at most one process is started, that of the stage which had looked
at the flag before; and only the stage that had looked at it goes on. -/
theorem Comes.after_raise (cancellable : solo.builder.stageOptions.cancellable = true)
    (comes : solo.Comes earlier past went seen) (raised : solo.signal? earlier = some signal)
    (comes' : solo.Comes choices world run trace) (shorter : earlier <+: choices) :
    (∀ command, run.admitted? = some command → went.admitted? = some command) ∧
      (starts trace = starts seen ∨ ∃ command, went.pending? = some command ∧
        starts trace = starts seen ++ [(command.stage, command.launch solo.setting)]) := by
  have whole := comes.induction_from
    (motive := fun choices _ run trace => solo.signal? choices = some signal ∧
      (run.admitted? = none ∨ run.admitted? = went.admitted?) ∧
      ((run.pending? = none ∨ run.pending? = went.pending?) ∧ starts trace = starts seen ∨
        run.pending? = none ∧ ∃ command, went.pending? = some command ∧
          starts trace = starts seen ++ [(command.stage, command.launch solo.setting)]))
    ⟨raised, .inr rfl, .inl ⟨.inr rfl, rfl⟩⟩ ?_ ?_ comes' shorter
  · obtain ⟨_, admitted, started⟩ := whole
    refine ⟨fun command goes => ?_, ?_⟩
    · rcases admitted with nothing | same
      · rw [nothing] at goes
        cases goes
      · rw [← same, goes]
    · exact started.imp (·.2) (·.2)
  · exact fun _ _ _ ih => ⟨signal?_append ih.1 _, ih.2⟩
  · rintro choices choice before after run run' trace events comes _ turn ⟨raised, admitted, started⟩
    obtain ⟨kept, turned⟩ := admitted?_turn cancellable comes raised turn
    refine ⟨signal?_append raised _, ?_, ?_⟩
    · rcases kept with nothing | same
      · exact .inl nothing
      · rw [same]
        exact admitted
    · rw [starts_append]
      rcases turned with ⟨pending, silent⟩ | ⟨command, pending, nothing, one⟩
      · rw [silent, List.append_nil]
        rcases started with ⟨before, same⟩ | ⟨none_pending, rest⟩
        · refine .inl ⟨?_, same⟩
          rcases pending with nothing | same
          · exact .inl nothing
          · rw [same]
            exact before
        · refine .inr ⟨?_, rest⟩
          rcases pending with nothing | same
          · exact nothing
          · rw [same, none_pending]
      · rcases started with ⟨before, same⟩ | ⟨none_pending, _⟩
        · rw [pending] at before
          obtain before := before.resolve_left nofun
          exact .inr ⟨nothing, command, before.symm, by rw [one, same]⟩
        · rw [none_pending] at pending
          cases pending

/-- A process that ended is rejected for its status, or because it made nothing. -/
theorem rejection_cases {files : FileSystem} {command : Command} {status : WaitStatus}
    {failure : BuildFailure}
    (reason : StageRun.rejection? solo.setting files command status = some failure) :
    failure = .stageFailed command.stage command.line status ∨
      failure = .missingArtifact command.stage command.output := by
  unfold StageRun.rejection? at reason
  split at reason
  · exact .inl (Option.some.inj reason).symm
  · split at reason
    · exact .inr (Option.some.inj reason).symm
    · cases reason

/-- **A build fails because a stage does**, if what it fails with is about a stage, and is no missing
artifact. -/
theorem failure_of_turn {failure : BuildFailure} {stage : Stage}
    (turn : solo.Turn before run after run' events) (fails : run'.failure? = some failure)
    (about : failure.stage? = some stage)
    (other : ∀ stage path, failure ≠ .missingArtifact stage path) :
    run.failure? = some failure ∨ ∃ command phase later events,
      run.phase = .running ⟨command, phase⟩ later ∧
        StageRun.Step solo.programs solo.setting solo.builder.stageOptions before command phase
          (.finished (.error failure)) events := by
  -- What goes wrong outside of stages is about none.
  have outside {failure' : BuildFailure} (about' : failure'.stage? = none)
      (same : failure' = failure) : run.failure? = some failure := by
    rw [same, about] at about'
    cases about'
  cases turn with
  | process phase _ _ _ _ _ => cases fails
  | own steps =>
    cases steps with
    | @advanced command phase _ later events stands steps =>
      refine .inr ⟨command, phase, later, events, stands, ?_⟩
      cases steps <;> cases fails <;> constructor <;> assumption
    | @opened _ workspace =>
      rw [(BuildRun.following_quiet _ (BuildRun.commands _ workspace _) rfl).2] at fails
      cases fails
    | @succeeded _ _ later =>
      rw [(BuildRun.following_quiet _ later rfl).2] at fails
      cases fails
    | sourceless => exact .inl (outside rfl (Option.some.inj fails))
    | unopened _ fails' => exact .inl (outside (stage?_of_workspace (create_error fails').1) (Option.some.inj fails))
    | unprepared _ fails' =>
      exact .inl (outside (stage?_of_output (prepare_error fails')) (Option.some.inj fails))
    | unreserved _ fails' =>
      exact .inl (outside (stage?_of_output (reserve_error fails').1) (Option.some.inj fails))
    | unvacated _ fails' =>
      exact .inl (outside (stage?_of_output (vacate_error fails')) (Option.some.inj fails))
    | unpublished _ _ fails' =>
      exact .inl (outside (stage?_of_output (publish_error fails').1) (Option.some.inj fails))
    | unstaged => exact absurd (Option.some.inj fails).symm (other _ _)
    | failed phase | withdrawn phase | abandoned phase =>
      exact .inl (by simp only [BuildRun.failure?, phase]; exact fails)
    | _ => cases fails

/-- **A build that is interrupted carries the first signal** that the flag was raised with. -/
theorem Comes.interrupted (cancellable : solo.builder.stageOptions.cancellable = true)
    (comes : solo.Comes choices world run trace) :
    ∀ stage signal, run.failure? = some (.interrupted stage signal) →
      solo.signal? choices = some signal := by
  refine comes.induction (motive := fun choices _ run _ =>
    ∀ stage signal, run.failure? = some (.interrupted stage signal) →
      solo.signal? choices = some signal) ?_ ?_ ?_
  · intro stage signal fails
    cases fails
  · exact fun _ _ _ _ ih stage signal fails => signal?_append (ih stage signal fails) _
  · intro choices choice before after run run' trace events comes _ turn ih stage signal fails
    refine signal?_append ?_ _
    rcases failure_of_turn turn fails rfl nofun with fails | ⟨command, phase, later, _, _, steps⟩
    · exact ih stage signal fails
    · cases steps with
      | cancelled raised | interrupted raised =>
        rw [StageOptions.cancelledBy_eq cancellable, comes.flag_raised] at raised
        exact raised
      | rejected reason => rcases rejection_cases reason with same | same <;> cases same

/-- **A poll that finds the process running and the flag raised** kills the process. -/
theorem Comes.kills (cancellable : solo.builder.stageOptions.cancellable = true)
    (comes : solo.Comes choices world run trace) (raised : solo.signal? choices = some signal)
    {command : Command} {state : State} {wakes since due : Nat} {later : List Command}
    (phase : run.phase = .running ⟨command, .waiting (.running state wakes) since due⟩ later)
    (alive : (solo.after choices).endedBy? = none)
    (able : run.isAble solo.builder world.clock = true) :
    ∃ world' run', solo.Comes (choices ++ [.job 0]) world' run' (.killed command.stage :: trace) ∧
      run'.failure? = some (.interrupted command.stage signal) := by
  obtain ⟨world', run', events, comes', steps⟩ := comes.own alive able
  rw [← comes.flag_raised, ← StageOptions.cancelledBy_eq cancellable] at raised
  cases steps with
  | advanced phase' steps =>
    rw [phase] at phase'
    cases phase'
    cases steps with
    | interrupted raised' =>
      rw [raised] at raised'
      cases raised'
      exact ⟨_, _, comes', rfl⟩
    | timedOut lowered | looked lowered =>
      rw [raised] at lowered
      cases lowered
  | _ => simp_all

end Admission

/-! ### The main theorem -/

/-- What a raised flag does to a build, from some moment on: it stays raised with the signal; a stage
that begins is interrupted and starts nothing; a look at a running process kills it; and at most one
process is started, and at most one goes on, that of the stage which had looked at the flag before. -/
structure Heeds (solo : Solo State) (choices : List Choice) (world : World) (run : BuildRun State)
    (trace : List Event) (signal : Int32) : Prop where
  stays : ∀ more, solo.signal? (choices ++ more) = some signal
  unstarted : ∀ command later, run.phase = .running ⟨command, .ready⟩ later →
    solo.EndsWith choices (.interrupted command.stage signal)
  killed : ∀ command state wakes since due later,
    run.phase = .running ⟨command, .waiting (.running state wakes) since due⟩ later →
    (solo.after choices).endedBy? = none → run.isAble solo.builder world.clock = true →
    (solo.after (choices ++ [.job 0])).trace = .killed command.stage :: trace ∧
      solo.EndsWith (choices ++ [.job 0]) (.interrupted command.stage signal)
  started : ∀ more world' run' trace', solo.Comes (choices ++ more) world' run' trace' →
    starts trace' = starts trace ∨ ∃ command, run.pending? = some command ∧
      starts trace' = starts trace ++ [(command.stage, command.launch solo.setting)]
  goesOn : ∀ more world' run' trace' child, solo.Comes (choices ++ more) world' run' trace' →
    (Job.build run').child? = some child →
    ∃ command, run.admitted? = some command ∧ run'.admitted? = some command

/-- **Cancellation is safe.** Whatever is chosen, and whatever the flag is raised with on the way: the
build heeds the first signal other than zero; an interruption that it returns carries that signal; it
succeeds only if the flag was not raised when the linker's stage began; and zero has no effect. -/
theorem cancellation_safe (solo : Solo State)
    (cancellable : solo.builder.stageOptions.cancellable = true) (choices : List Choice) :
    ∃ world run trace, solo.Comes choices world run trace ∧
      (∀ signal, solo.signal? choices = some signal → solo.Heeds choices world run trace signal) ∧
      (∀ stage signal, run.result? = some (.error (.interrupted stage signal)) →
        solo.signal? choices = some signal) ∧
      (∀ outcome, run.result? = some (.ok outcome) →
        ∃ command, command.stage = .link ∧ solo.Checked choices command) ∧
      (∀ more, solo.after (choices ++ .raise 0 :: more) = solo.after (choices ++ more)) := by
  obtain ⟨world, run, trace, comes⟩ := solo.exists_comes choices
  refine ⟨world, run, trace, comes, fun signal raised => ?_, fun stage signal ends => ?_,
    fun outcome ends => ?_, after_raise_zero choices⟩
  · constructor
    case stays => exact signal?_append raised
    case unstarted =>
      exact fun command later phase =>
        comes.endsWith cancellable (.inr ⟨command, later, signal, phase, raised, rfl⟩)
    case killed =>
      intro command state wakes since due later phase alive able
      obtain ⟨_, _, comes', fails⟩ := comes.kills cancellable raised phase alive able
      exact ⟨comes'.trace_eq, comes'.endsWith cancellable (.inl fails)⟩
    case started =>
      exact fun more _ _ _ comes' =>
        (comes.after_raise cancellable raised comes' (List.prefix_append ..)).2
    case goesOn =>
      intro more _ run' _ child comes' waits
      obtain ⟨command, admitted⟩ := BuildRun.child?_admitted waits
      exact ⟨command,
        (comes.after_raise cancellable raised comes' (List.prefix_append ..)).1 _ admitted, admitted⟩
  · refine comes.interrupted cancellable stage signal ?_
    unfold BuildRun.failure?
    rw [BuildRun.phase_of_result? ends]
  · have succeeds := BuildRun.phase_of_result? ends
    obtain ⟨_, _, _, ledger⟩ := comes.ledger
    have complete := ledger.complete succeeds (comes.renamed_iff.mpr (.inr ⟨outcome, succeeds⟩))
    obtain ⟨command, status, isLink, succeeded⟩ := complete.succeeded .link (by decide)
    obtain ⟨earlier, _, went, _, _, _, shorter, comes', phase, _⟩ := succeeded
    have admitted : went.admitted? = some command := by
      unfold BuildRun.admitted?
      rw [phase]
    exact ⟨command, isLink, (comes'.checked cancellable command admitted).mono shorter⟩

/-- The small build, if signals cancel it. -/
def heedful : Solo Launch :=
  let solo := small (stamp (fun _ _ => (Mode.ofFile, [])) fun _ => .exited 0) (Bytes.ofText "/t/x")
  { solo with builder := { solo.builder with stageOptions := ⟨none, true⟩ } }

/-- The small build is asked to stop with zero, fifteen and two when its first stage is about to
begin. It starts nothing, and is interrupted by fifteen. -/
theorem cancellation_safe_early : ∃ world run trace,
    heedful.Comes ([.job 0, .job 0, .raise 0, .raise 15, .raise 2] ++ List.replicate 4 (.job 0)) world
      run trace ∧
    run.result? = some (.error (.interrupted .runtimeCompile 15)) ∧ starts trace = [] := by
  obtain ⟨world, run, trace, comes, heeds, _⟩ :=
    cancellation_safe heedful rfl [.job 0, .job 0, .raise 0, .raise 15, .raise 2]
  have raised : heedful.signal? [.job 0, .job 0, .raise 0, .raise 15, .raise 2] = some 15 := by
    cbv
  have begins : ∃ command later, run.phase = .running ⟨command, .ready⟩ later ∧
      command.stage = .runtimeCompile :=
    comes.running Command.stage (by cbv)
  obtain ⟨command, later, phase, stage⟩ := begins
  have silent : starts trace = [] := by
    rw [← comes.trace_eq]
    cbv
  obtain ⟨world', run', trace', comes'⟩ := heedful.exists_comes
    ([.job 0, .job 0, .raise 0, .raise 15, .raise 2] ++ List.replicate 4 (.job 0))
  obtain ⟨same, _, _, ends⟩ := (heeds 15 raised).unstarted command later phase _ _ _ _ comes'
  rw [stage] at ends
  refine ⟨world', run', trace', comes', ends (by decide) (by cbv), ?_⟩
  rw [same, comes.trace_eq, silent]

end Solo

end CalcBuild

/-
**Waits that end in time.**

A stage with a timeout looks at its process in intervals. Nothing in the wait counts down: it ends
because each look comes at least an interval after the one before, so that after as many looks as there
are intervals in the timeout the time is up, however long the pauses are and whatever the process does.

* `StageOptions.mostLooks`: how many looks a wait takes at most;
* `Paced`, `Paced.ends`: looks that are an interval apart, and the one that ends the wait;
* `Solo.looks`: how often a build has looked at the process of each stage;
* `Clocked`, `Comes.clocked`: what the clock says about that, at every moment of every run;
* `Driven.lowers`: a build with a timeout gets on, also if its process never ends;
* `waits_end`: the main theorem.
-/

import CalcBuild.Proofs.Build.Fairness
import CalcBuild.Proofs.Build.Polling

namespace CalcBuild

open Files

variable {State : Type}

/-- How many looks a wait with a timeout takes at most: one for each interval that begins before the
timeout, and the one that finds that the time is up. -/
def StageOptions.mostLooks (timeout : Nat) : Nat :=
  (timeout + pollInterval - 1) / pollInterval + 1

theorem StageOptions.lt_mostLooks {timeout count : Nat} :
    count < mostLooks timeout ↔ count * pollInterval < timeout + pollInterval := by
  unfold mostLooks pollInterval
  omega

/-! ### Looks that are an interval apart -/

/-- Looks on a clock that does not go back, with a pause of at least an interval after each. -/
structure Paced (since : Nat) (looks : Nat → Look State) : Prop where
  begins : since ≤ (looks 0).world.clock
  pauses : ∀ count,
    (looks count).world.clock + StageOptions.pollInterval ≤ (looks (count + 1)).world.clock

namespace Paced

variable {since : Nat} {looks : Nat → Look State}

theorem clock (paced : Paced since looks) (count : Nat) :
    since + count * StageOptions.pollInterval ≤ (looks count).world.clock := by
  induction count with
  | zero => simpa using paced.begins
  | succ count ih =>
    have pause := paced.pauses count
    rw [Nat.succ_mul]
    omega

/-- A look that is late enough is not quiet. -/
theorem not_quiet (paced : Paced since looks) {options : StageOptions} {timeout : Nat}
    (limit : options.timeout? = some timeout) {count : Nat}
    (late : timeout ≤ count * StageOptions.pollInterval) : ¬ (looks count).IsQuiet options since := by
  intro quiet
  have early := quiet.early timeout limit
  have clock := paced.clock count
  omega

/-- **One of the looks ends the wait**, after as many as there are intervals in the timeout at the
latest. -/
theorem ends (paced : Paced since looks) {options : StageOptions} {timeout : Nat}
    (limit : options.timeout? = some timeout) (command : Command) :
    ∃ count phase events, count < StageOptions.mostLooks timeout ∧
      (∀ earlier < count, (looks earlier).IsQuiet options since) ∧
      (looks count).Ends options since command phase events := by
  classical
  let last := (timeout + StageOptions.pollInterval - 1) / StageOptions.pollInterval
  have late : timeout ≤ last * StageOptions.pollInterval := by
    simp only [last, StageOptions.pollInterval]
    omega
  have ended := paced.not_quiet limit late
  have loud : ∃ count, ¬ (looks count).IsQuiet options since := ⟨last, ended⟩
  have within : Nat.find loud ≤ last := Nat.find_min' loud ended
  rcases StageRun.look_cases options since command (looks (Nat.find loud)) with
    quiet | ⟨phase, events, ends⟩
  · exact absurd quiet (Nat.find_spec loud)
  · exact ⟨Nat.find loud, phase, events, Nat.lt_succ_of_le within,
      fun earlier lower => not_not.mp (Nat.find_min loud lower), ends⟩

end Paced

/-! ### Counting looks -/

namespace System

/-- Whether a choice is a look of the build at the process of a stage. -/
def isLook (builder : Builder) (system : System State) (stage : Stage) (choice : Choice) : Bool :=
  choice = .job 0 && system.endedBy?.isNone && match system.build? with
    | some run => run.isAble builder system.world.clock && run.attended == [stage]
    | none => false

variable (programs : Programs State) (setting : Setting) (builder : Builder)

/-- How often the build looks at the process of a stage in a run. -/
def looksIn (system : System State) (stage : Stage) : List Choice → Nat
  | [] => 0
  | choice :: choices =>
    (system.isLook builder stage choice).toNat +
      (system.act programs setting builder choice).looksIn stage choices

theorem looksIn_append (system : System State) (stage : Stage) (choices more : List Choice) :
    system.looksIn programs setting builder stage (choices ++ more)
      = system.looksIn programs setting builder stage choices +
        (system.run programs setting builder choices).looksIn programs setting builder stage more := by
  induction choices generalizing system with
  | nil => simp [looksIn, run]
  | cons choice choices ih =>
    simp only [List.cons_append, looksIn, ih, Nat.add_assoc]
    rfl

end System

namespace Solo

variable {solo : Solo State} {choices : List Choice} {choice : Choice} {world world' : World}
  {run run' : BuildRun State} {trace trace' : List Event}

variable (solo) in
/-- How often the build has looked at the process of a stage. -/
def looks (choices : List Choice) (stage : Stage) : Nat :=
  (System.start solo.world [.build (.start solo.request)]).looksIn solo.programs solo.setting
    solo.builder stage choices

theorem looks_concat (stage : Stage) : solo.looks (choices ++ [choice]) stage
    = solo.looks choices stage + ((solo.after choices).isLook solo.builder stage choice).toNat := by
  unfold looks
  rw [System.looksIn_append]
  rfl

theorem Comes.isLook_iff (comes : solo.Comes choices world run trace) {stage : Stage} :
    (solo.after choices).isLook solo.builder stage choice = true ↔
      choice = .job 0 ∧ (solo.after choices).endedBy? = none ∧
        run.isAble solo.builder world.clock = true ∧ run.attended = [stage] := by
  simp [System.isLook, comes.build?_eq, comes.world_eq, and_assoc]

/-- A look counts for the stage that waits. -/
theorem looks_of_look {stage : Stage}
    (looks : (solo.after choices).isLook solo.builder stage choice = true) :
    solo.looks (choices ++ [choice]) stage = solo.looks choices stage + 1 := by
  rw [looks_concat, looks, Bool.toNat_true]

/-- It counts for no other stage. -/
theorem Comes.looks_of_other_look (comes : solo.Comes choices world run trace) {stage other : Stage}
    (looks : (solo.after choices).isLook solo.builder stage choice = true) (differ : other ≠ stage) :
    solo.looks (choices ++ [choice]) other = solo.looks choices other := by
  have unseen : (solo.after choices).isLook solo.builder other choice = false := by
    refine Bool.eq_false_iff.mpr fun seen => differ ?_
    obtain ⟨_, _, _, attends⟩ := comes.isLook_iff.mp looks
    obtain ⟨_, _, _, attends'⟩ := comes.isLook_iff.mp seen
    exact List.singleton_inj.mp (attends'.symm.trans attends)
  rw [looks_concat, unseen, Bool.toNat_false, Nat.add_zero]

/-! ### Starts -/

/-- No process is started for a stage twice. -/
theorem Comes.starts_nodup (comes : solo.Comes choices world run trace) :
    ((starts trace).map Prod.fst).Nodup := by
  obtain ⟨_, _, _, ledger⟩ := comes.ledger
  exact Stage.order_nodup.sublist ledger.starts_prefix.sublist

theorem Comes.starts_length (comes : solo.Comes choices world run trace) :
    (starts trace).length ≤ 4 := by
  obtain ⟨_, _, _, ledger⟩ := comes.ledger
  simpa [Stage.order] using ledger.starts_prefix.length_le

/-- A build that waits for a process has started it. -/
theorem Comes.started (comes : solo.Comes choices world run trace) {command : Command}
    {child : Child State} {since due : Nat} {later : List Command}
    (phase : run.phase = .running ⟨command, .waiting child since due⟩ later) :
    command.stage ∈ (starts trace).map Prod.fst := by
  obtain ⟨done, started, reaped, ledger⟩ := comes.ledger
  have standing := ledger.standing
  simp only [Standing, phase] at standing
  obtain ⟨_, _, _, _, seen⟩ := standing
  cases seen
  simp [ledger.starts_eq]

theorem starts_subset (events trace : List Event) :
    (starts trace).map Prod.fst ⊆ (starts (events.reverse ++ trace)).map Prod.fst := by
  rw [starts_append, List.map_append]
  exact List.subset_append_left _ _

/-- A turn with which a build begins to wait starts the process that it waits for. -/
theorem launch_of_turn {events : List Event} (turn : solo.Turn world run world' run' events)
    (idle : ∀ {command child since due later},
      run.phase ≠ .running ⟨command, .waiting child since due⟩ later)
    {command : Command} {child : Child State} {since due : Nat} {later : List Command}
    (phase' : run'.phase = .running ⟨command, .waiting child since due⟩ later) :
    due = since ∧ ∃ launch, events.filterMap Event.start? = [(command.stage, launch)] := by
  cases turn with
  | process phase => exact absurd phase idle
  | own steps =>
    cases steps with
    | advanced phase steps =>
      cases phase'
      cases steps with
      | launched _ => exact ⟨rfl, _, rfl⟩
      | looked => exact absurd phase idle
    | @opened _ workspace =>
      exact absurd phase' (BuildRun.following_childless (BuildRun.commands _ workspace _))
    | @succeeded _ _ later => exact absurd phase' (BuildRun.following_childless later)
    | _ => cases phase'

/-! ### What the clock says -/

/-- What the clock says about the looks of a build. A stage that has not started its process has not
looked at it. While a stage waits, each look has moved the time of the next one by an interval, and the
last look was before the time was up. -/
structure Clocked (solo : Solo State) (timeout : Nat) (choices : List Choice) (run : BuildRun State)
    (trace : List Event) : Prop where
  few : ∀ stage, solo.looks choices stage ≤ StageOptions.mostLooks timeout
  unstarted : ∀ stage, stage ∉ (starts trace).map Prod.fst → solo.looks choices stage = 0
  advanced : ∀ command child since due later,
    run.phase = .running ⟨command, .waiting child since due⟩ later →
      since + solo.looks choices command.stage * StageOptions.pollInterval ≤ due
  early : ∀ command child since due later,
    run.phase = .running ⟨command, .waiting child since due⟩ later →
      solo.looks choices command.stage = 0 ∨ due < since + timeout + StageOptions.pollInterval

/-- A stage that waits can look once more. -/
theorem Clocked.lt_mostLooks {timeout : Nat} (clocked : solo.Clocked timeout choices run trace)
    {command : Command} {child : Child State} {since due : Nat} {later : List Command}
    (phase : run.phase = .running ⟨command, .waiting child since due⟩ later) :
    solo.looks choices command.stage < StageOptions.mostLooks timeout := by
  rw [StageOptions.lt_mostLooks]
  have advanced := clocked.advanced _ _ _ _ _ phase
  rcases clocked.early _ _ _ _ _ phase with nothing | early
  · rw [nothing]
    simp [StageOptions.pollInterval]
  · omega

/-- Times that stay as they are while a stage waits, and begin when it begins to. -/
theorem Clocked.keep {timeout : Nat} {choices' : List Choice}
    (clocked : solo.Clocked timeout choices run trace)
    (same : ∀ stage, solo.looks choices' stage = solo.looks choices stage)
    (longer : (starts trace).map Prod.fst ⊆ (starts trace').map Prod.fst)
    (waits : ∀ command child since due later,
      run'.phase = .running ⟨command, .waiting child since due⟩ later →
        (∃ child, run.phase = .running ⟨command, .waiting child since due⟩ later) ∨
          solo.looks choices command.stage = 0 ∧ since ≤ due) :
    solo.Clocked timeout choices' run' trace' where
  few := by simpa only [same] using clocked.few
  unstarted := by
    intro stage absent
    rw [same]
    exact clocked.unstarted stage fun member => absent (longer member)
  advanced := by
    intro command child since due later phase
    rw [same]
    rcases waits _ _ _ _ _ phase with ⟨child, before⟩ | ⟨nothing, order⟩
    · exact clocked.advanced _ _ _ _ _ before
    · rw [nothing, Nat.zero_mul]
      exact order
  early := by
    intro command child since due later phase
    rw [same]
    rcases waits _ _ _ _ _ phase with ⟨child, before⟩ | ⟨nothing, _⟩
    · exact clocked.early _ _ _ _ _ before
    · exact .inl nothing

section Step

variable {timeout : Nat}
  (clocked : solo.Clocked timeout choices run trace) (comes : solo.Comes choices world run trace)
  (comes' : solo.Comes (choices ++ [choice]) world' run' trace')
include clocked comes comes'

/-- **A look at a process** comes an interval after the one before. -/
theorem Clocked.look (limit : solo.builder.stageOptions.timeout? = some timeout) {stage : Stage}
    (looks : (solo.after choices).isLook solo.builder stage choice = true) :
    solo.Clocked timeout (choices ++ [choice]) run' trace' := by
  obtain ⟨rfl, alive, able, attends⟩ := comes.isLook_iff.mp looks
  obtain ⟨command, child, since, due, later, phase, rfl⟩ := BuildRun.attended_eq attends
  have others (stage : Stage) (other : stage ≠ command.stage) := comes.looks_of_other_look looks other
  have once := looks_of_look looks
  have few (stage : Stage) :
      solo.looks (choices ++ [.job 0]) stage ≤ StageOptions.mostLooks timeout := by
    by_cases same : stage = command.stage
    · rw [same, once]
      exact clocked.lt_mostLooks phase
    · rw [others stage same]
      exact clocked.few stage
  have reached : due ≤ world.clock := by
    simpa [BuildRun.isAble, phase, StageRun.result?, StageRun.isAble, StageOptions.isBlocking, limit]
      using able
  have unstarted (events : List Event) (silent : events.filterMap Event.start? = []) (stage : Stage)
      (absent : stage ∉ (starts (events.reverse ++ trace)).map Prod.fst) :
      solo.looks (choices ++ [.job 0]) stage = 0 := by
    rw [starts_append, silent, List.append_nil] at absent
    rw [others stage fun same => absent (same ▸ comes.started phase)]
    exact clocked.unstarted stage absent
  rcases StageRun.look_cases solo.builder.stageOptions since command ⟨child, world⟩ with
    quiet | ⟨phase', events, ends⟩
  · obtain ⟨_, rfl, rfl⟩ := comes'.unique (comes.looks phase alive able (StageRun.look_quiet quiet))
    have early := quiet.early timeout limit
    refine ⟨few, unstarted [] rfl, fun _ _ _ _ _ waits => ?_, fun _ _ _ _ _ waits => .inr ?_⟩
    · cases waits
      have advanced := clocked.advanced _ _ _ _ _ phase
      rw [once, Nat.succ_mul]
      dsimp only
      omega
    · cases waits
      dsimp only at early ⊢
      omega
  · obtain ⟨_, rfl, rfl⟩ := comes'.unique (comes.looks phase alive able (StageRun.look_ends ends))
    cases ends <;> refine ⟨few, unstarted _ rfl, ?_, ?_⟩ <;> intro _ _ _ _ _ waits <;> cases waits

/-- **Anything else** is no look, and leaves the times as they are while a stage waits. -/
theorem Clocked.other
    (still : ∀ stage, (solo.after choices).isLook solo.builder stage choice = false) :
    solo.Clocked timeout (choices ++ [choice]) run' trace' := by
  have same (stage : Stage) : solo.looks (choices ++ [choice]) stage = solo.looks choices stage := by
    rw [looks_concat, still, Bool.toNat_false, Nat.add_zero]
  by_cases waits : ∃ command child since due later,
      run.phase = .running ⟨command, .waiting child since due⟩ later
  · obtain ⟨command, child, since, due, later, phase⟩ := waits
    have attends : run.attended = [command.stage] := by simp only [BuildRun.attended, phase]
    have unable : ¬ (choice = .job 0 ∧ (solo.after choices).endedBy? = none ∧
        run.isAble solo.builder world.clock = true) := by
      rintro ⟨isJob, alive, able⟩
      have looks := comes.isLook_iff.mpr ⟨isJob, alive, able, attends⟩
      rw [still] at looks
      cases looks
    obtain ⟨_, child', events, comes₁, silent⟩ := comes.waits_on phase unable
    obtain ⟨_, rfl, rfl⟩ := comes₁.unique comes'
    refine clocked.keep same (starts_subset events trace) fun _ _ _ _ _ phase' => .inl ?_
    cases phase'
    exact ⟨child, phase⟩
  · simp only [not_exists] at waits
    rcases comes.next comes' with ⟨rfl, rfl, _⟩ | ⟨events, turn, rfl⟩
    · exact clocked.keep same (List.Subset.refl _) fun _ _ _ _ _ phase => .inl ⟨_, phase⟩
    · refine clocked.keep same (starts_subset events trace) fun command _ since due _ phase' => .inr ?_
      obtain ⟨rfl, launch, launches⟩ := launch_of_turn turn (waits _ _ _ _ _) phase'
      have once := comes'.starts_nodup
      rw [starts_append, launches, List.map_append, List.nodup_append] at once
      have absent : command.stage ∉ (starts trace).map Prod.fst :=
        fun member => once.2.2 _ member _ (List.mem_singleton_self _) rfl
      exact ⟨clocked.unstarted _ absent, Nat.le_refl _⟩

end Step

/-- **The clock at every moment of every run** says how often the build has looked. -/
theorem Comes.clocked {timeout : Nat} (limit : solo.builder.stageOptions.timeout? = some timeout)
    (comes : solo.Comes choices world run trace) : solo.Clocked timeout choices run trace := by
  induction choices using List.reverseRecOn generalizing world run trace with
  | nil =>
    obtain ⟨rfl, rfl, rfl⟩ := comes.unique (⟨rfl, rfl, rfl⟩ : solo.Comes [] _ _ _)
    exact ⟨fun _ => Nat.zero_le _, fun _ _ => rfl, nofun, nofun⟩
  | append_singleton choices choice ih =>
    obtain ⟨before, run₀, trace₀, earlier⟩ := solo.exists_comes choices
    by_cases looks : ∃ stage, (solo.after choices).isLook solo.builder stage choice = true
    · obtain ⟨stage, looks⟩ := looks
      exact (ih earlier).look earlier comes limit looks
    · simp only [not_exists, Bool.not_eq_true] at looks
      exact (ih earlier).other earlier comes looks

/-! ### A build with a timeout gets on -/

section Progress

variable {timeout : Nat} {command : Command} {state : State} {wakes since due : Nat}
  {later : List Command}

/-- A step of a build that waits for a running process lowers its rank, or is a look before the time is
up. -/
theorem look_of_step {events : List Event}
    (limit : solo.builder.stageOptions.timeout? = some timeout)
    (steps : BuildRun.Step solo.programs solo.setting solo.builder world run world' run' events)
    (phase : run.phase = .running ⟨command, .waiting (.running state wakes) since due⟩ later) :
    run'.phase.rank < run.phase.rank ∨
      world.clock < since + timeout ∧ run'.phase = .running ⟨command, .waiting (.running state wakes)
        since (world.clock + StageOptions.pollInterval)⟩ later := by
  rcases steps.rank with lower | ⟨_, _, _, _, _, _, _, before, after, _⟩
  · exact .inl lower
  · rw [phase] at before
    cases before
    cases steps with
    | advanced before steps =>
      rw [phase] at before
      cases before
      cases steps with
      | looked _ early =>
        have early := early timeout limit
        exact .inr ⟨by omega, rfl⟩
      | _ => cases after
    | @succeeded _ _ later => exact absurd after (BuildRun.following_childless later)
    | @opened _ workspace =>
      exact absurd after (BuildRun.following_childless (BuildRun.commands _ workspace _))
    | _ => cases after

/-- A turn of such a build lowers its rank, or leaves it waiting, with the next look at most an interval
after the time is up if it was not set before. -/
theorem waits_of_turn {events : List Event}
    (limit : solo.builder.stageOptions.timeout? = some timeout)
    (turn : solo.Turn world run world' run' events)
    (phase : run.phase = .running ⟨command, .waiting (.running state wakes) since due⟩ later) :
    run'.phase.rank < run.phase.rank ∨ ∃ state' wakes' due',
      run'.phase = .running ⟨command, .waiting (.running state' wakes') since due'⟩ later ∧
        due' ≤ max due (since + timeout + StageOptions.pollInterval) := by
  cases turn with
  | own steps =>
    rcases look_of_step limit steps phase with lower | ⟨early, waits⟩
    · exact .inl lower
    · exact .inr ⟨_, _, _, waits, by omega⟩
  | @process _ _ _ _ _ _ _ child _ before =>
    rw [phase] at before
    cases before
    cases child with
    | running state' wakes' => exact .inr ⟨_, _, _, rfl, Nat.le_max_left _ _⟩
    | ended status =>
      refine .inl ?_
      simp only [phase, BuildPhase.rank, StagePhase.rank]
      omega

variable {schedule : Nat → Choice} {count : Nat}

/-- **A build that waits gets on when the time is up**, whatever its process does. -/
theorem Driven.lowers_waiting (driven : Driven schedule)
    (limit : solo.builder.stageOptions.timeout? = some timeout)
    (alive : ∀ after, count ≤ after → (solo.at_ schedule after).endedBy? = none)
    (phase : (solo.runAt schedule count).phase
      = .running ⟨command, .waiting (.running state wakes) since due⟩ later) :
    ∃ after, count ≤ after ∧
      (solo.runAt schedule after).phase.rank < (solo.runAt schedule count).phase.rank := by
  by_contra never
  simp only [not_exists, not_and, Nat.not_lt] at never
  let last := max due (since + timeout + StageOptions.pollInterval)
  have waits : ∀ after, count ≤ after → ∃ state wakes due', (solo.runAt schedule after).phase
      = .running ⟨command, .waiting (.running state wakes) since due'⟩ later ∧ due' ≤ last := by
    intro after order
    induction order with
    | refl => exact ⟨state, wakes, due, phase, Nat.le_max_left _ _⟩
    | @step after order ih =>
      obtain ⟨state', wakes', due', phase', within⟩ := ih
      rcases solo.at_next schedule after with ⟨same, _⟩ | ⟨events, turn⟩
      · exact ⟨state', wakes', due', by rw [same, phase'], within⟩
      · rcases waits_of_turn limit turn phase' with lower | ⟨_, _, _, next, within'⟩
        · have kept := never (after + 1) (Nat.le_succ_of_le order)
          rw [phase] at kept
          rw [phase'] at lower
          simp only [BuildPhase.rank, StagePhase.rank] at kept lower
          omega
        · exact ⟨_, _, _, next, by omega⟩
  obtain ⟨ready, order, reached⟩ := driven.clock_reaches solo last count
  obtain ⟨turn, order', isTurn⟩ := driven.build ready
  have passed := solo.clock_mono schedule order'
  have from_ := Nat.le_trans order order'
  obtain ⟨state', wakes', due', phase', within⟩ := waits turn from_
  have reached' : due' ≤ (solo.at_ schedule turn).world.clock := by omega
  obtain ⟨events, steps⟩ := own_step isTurn (alive turn from_) (by
    simp [BuildRun.isAble, phase', StageRun.isAble, StageOptions.isBlocking, limit, reached'])
  rcases look_of_step limit steps phase' with lower | ⟨early, _⟩
  · have kept := never (turn + 1) (Nat.le_succ_of_le from_)
    rw [phase] at kept
    rw [phase'] at lower
    simp only [BuildPhase.rank, StagePhase.rank] at kept lower
    omega
  · omega

/-- **A build with a timeout is done at some point**, and stays so, if nothing ends the driver. -/
theorem Driven.done (driven : Driven schedule)
    (limit : solo.builder.stageOptions.timeout? = some timeout)
    (alive : ∀ count, (solo.at_ schedule count).endedBy? = none) :
    ∃ count result, ∀ after, count ≤ after →
      (solo.runAt schedule after).phase = .finished result := by
  have done : ∃ count result, 0 ≤ count ∧ ∀ after, count ≤ after →
      (solo.runAt schedule after).phase = .finished result := by
    refine done_of_lowers fun count _ unfinished => ?_
    by_cases waits : ∃ command state wakes since due later, (solo.runAt schedule count).phase
        = .running ⟨command, .waiting (.running state wakes) since due⟩ later
    · obtain ⟨command, state, wakes, since, due, later, phase⟩ := waits
      exact driven.lowers_waiting limit (fun after _ => alive after) phase
    · simp only [not_exists] at waits
      exact driven.lowers_idle (fun after _ => alive after) unfinished waits
  obtain ⟨count, result, _, done⟩ := done
  exact ⟨count, result, done⟩

end Progress

/-! ### Timeouts that are reported -/

variable (solo) in
/-- At some moment of a run a stage waited for a process that had run for some time at least. -/
def WaitedFor (choices : List Choice) (stage : Stage) (time : Nat) : Prop :=
  ∃ earlier world run trace command state wakes since due later, earlier <+: choices ∧
    solo.Comes earlier world run trace ∧
    run.phase = .running ⟨command, .waiting (.running state wakes) since due⟩ later ∧
    command.stage = stage ∧ time ≤ world.clock - since

theorem WaitedFor.concat {stage : Stage} {time : Nat} (waited : solo.WaitedFor choices stage time)
    (choice : Choice) : solo.WaitedFor (choices ++ [choice]) stage time := by
  obtain ⟨earlier, world, run, trace, command, state, wakes, since, due, later, shorter, rest⟩ := waited
  exact ⟨earlier, world, run, trace, command, state, wakes, since, due, later,
    shorter.trans (List.prefix_append _ _), rest⟩

/-- **A timeout is reported only when it is over.** -/
theorem Comes.timedOut (comes : solo.Comes choices world run trace) :
    ∀ stage timeout, run.failure? = some (.stageTimedOut stage timeout) →
      solo.builder.stageOptions.timeout? = some timeout ∧ solo.WaitedFor choices stage timeout := by
  refine comes.induction (motive := fun choices _ run _ =>
    ∀ stage timeout, run.failure? = some (.stageTimedOut stage timeout) →
      solo.builder.stageOptions.timeout? = some timeout ∧ solo.WaitedFor choices stage timeout) ?_ ?_ ?_
  · intro stage timeout fails
    cases fails
  · exact fun _ _ _ _ ih stage timeout fails =>
      ⟨(ih stage timeout fails).1, (ih stage timeout fails).2.concat _⟩
  · intro choices choice before after run run' trace events comes _ turn ih stage timeout fails
    rcases failure_of_turn turn fails rfl nofun with fails | ⟨command, _, later, _, phase, steps⟩
    · exact ⟨(ih stage timeout fails).1, (ih stage timeout fails).2.concat _⟩
    · cases steps with
      | timedOut _ limit late =>
        exact ⟨limit, choices, before, run, trace, command, _, _, _, _, later,
          List.prefix_append _ _, comes, phase, rfl, late⟩
      | rejected reason => rcases rejection_cases reason with same | same <;> cases same

/-! ### The main theorem -/

/-- A wait returns in time: one of the looks ends it, after as many as there are intervals in the timeout
at the latest, and finds that the time is up only if it is. -/
def ReturnsInTime (solo : Solo State) (timeout : Nat) (run : StageRun State) (since : Nat)
    (looks : Nat → Look State) : Prop :=
  ∃ count phase events, count < StageOptions.mostLooks timeout ∧
    (∀ earlier < count, (looks earlier).IsQuiet solo.builder.stageOptions since) ∧
    (looks count).Ends solo.builder.stageOptions since run.command phase events ∧
    (∀ later, count < later →
      run.watch solo.programs solo.setting solo.builder.stageOptions looks later
        = (⟨run.command, phase⟩, events)) ∧
    ∀ stage timeout', phase = .finished (.error (.stageTimedOut stage timeout')) →
      timeout' = timeout ∧ timeout ≤ (looks count).world.clock - since

/-- **Waits with a timeout end.** Whatever the processes and the flag do, and however long the pauses are:
every wait returns in time; a build waits at most four times, and looks at each process at most as often
as that takes; it reports a timeout only when it is over; and in every schedule in which it and time get
their turns it is done at some point, unless a signal ends the driver. -/
theorem waits_end (solo : Solo State) {timeout : Nat}
    (limit : solo.builder.stageOptions.timeout? = some timeout) :
    (∀ command child since due looks, Paced since looks →
      solo.ReturnsInTime timeout ⟨command, .waiting child since due⟩ since looks) ∧
    (∀ choices world run trace, solo.Comes choices world run trace →
      (starts trace).length ≤ 4 ∧
      (∀ stage, solo.looks choices stage ≤ StageOptions.mostLooks timeout) ∧
      ∀ stage timeout', run.result? = some (.error (.stageTimedOut stage timeout')) →
        timeout' = timeout ∧ solo.WaitedFor choices stage timeout) ∧
    (∀ schedule, Driven schedule →
      (∃ count signal, (solo.at_ schedule count).endedBy? = some signal) ∨
      ∃ count result, ∀ after, count ≤ after →
        (solo.runAt schedule after).phase = .finished result) := by
  refine ⟨fun command child since due looks paced => ?_, fun choices world run trace comes => ?_,
    fun schedule driven => ?_⟩
  · obtain ⟨count, phase, events, within, quiet, ends⟩ := paced.ends limit command
    refine ⟨count, phase, events, within, quiet, ends,
      fun later => StageRun.watch_ends _ _ quiet ends, fun stage timeout' same => ?_⟩
    cases ends with
    | timedOut _ _ limit' late =>
      cases same
      rw [limit] at limit'
      cases limit'
      exact ⟨rfl, late⟩
    | _ => cases same
  · refine ⟨comes.starts_length, (comes.clocked limit).few, fun stage timeout' ends => ?_⟩
    have fails : run.failure? = some (.stageTimedOut stage timeout') := by
      unfold BuildRun.failure?
      rw [BuildRun.phase_of_result? ends]
    obtain ⟨limit', waited⟩ := comes.timedOut stage timeout' fails
    rw [limit] at limit'
    cases limit'
    exact ⟨rfl, waited⟩
  · by_cases alive : ∀ count, (solo.at_ schedule count).endedBy? = none
    · exact .inr (driven.done limit alive)
    · obtain ⟨count, ended⟩ := not_forall.mp alive
      exact .inl ⟨count, Option.ne_none_iff_exists'.mp ended⟩

/-- Programs whose processes run forever. -/
def endless : Programs Unit where
  start := fun _ _ => .ok ()
  step := fun files state => (files, .goesOn state)

/-- The small build, if its processes run forever and it has some timeout. -/
def hanging (timeout : Nat) : Solo Unit :=
  let solo := small endless (Bytes.ofText "/t/x")
  { solo with builder := { solo.builder with stageOptions := ⟨some timeout, false⟩ } }

theorem hanging_alive (timeout : Nat) (schedule : Nat → Choice) (count : Nat) :
    ((hanging timeout).at_ schedule count).endedBy? = none := by
  induction count with
  | zero => rfl
  | succ count ih =>
    rw [at_succ]
    refine System.endedBy?_act _ ih fun _ _ state _ _ _ _ sends => ?_
    have goesOn (fs : FileSystem) : ((hanging timeout).programs.step fs state).2 = .goesOn state := rfl
    rw [goesOn] at sends
    cases sends

/-- A build whose processes run forever is done at some point. -/
theorem waits_end_hanging : ∃ count result, ∀ after, count ≤ after →
    ((hanging 30000000).runAt inTurn after).phase = .finished result := by
  rcases (waits_end (hanging 30000000) rfl).2.2 inTurn inTurn_fair.driven with
    ⟨count, signal, ended⟩ | done
  · rw [hanging_alive] at ended
    cases ended
  · exact done

end Solo

end CalcBuild

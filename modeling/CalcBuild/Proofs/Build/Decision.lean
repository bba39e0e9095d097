/-
**What decides how a stage ends.**

A stage looks for what is wrong with it in the order of the ranks, and ends with the first thing that
applies; before it has started its process it leaves no trace.

* `Single.Course`: what is known of a stage wherever it stands;
* `Course.rests`, `Course.steps`, `course`: choice by choice, and over every run;
* `Single.Decided`: what the result of a stage says;
* `stage_decided`: the main theorem.
-/

import CalcBuild.Proofs.Build.Objection
import Mathlib

namespace CalcBuild

open Files

variable {State : Type}

namespace Single

/-! ### Where a stage stands -/

/-- The stage has left no trace: no process was started, and the files are as they were. -/
structure Untouched (single : Single State) (choices : List Choice) : Prop where
  files : (single.after choices).world.files = single.world.files
  unstarted : starts (single.after choices).trace = []

/-- One process was started, by the launch of the command, and nothing is wrong up to there. -/
structure Launched (single : Single State) (choices : List Choice) : Prop where
  cleared : single.Cleared choices 3
  started : starts (single.after choices).trace
    = [(single.command.stage, single.command.launch single.setting)]

variable {single : Single State} {choices : List Choice} {choice : Choice}

/-- What is known of a stage wherever it stands. It has left no trace until it starts its process, and
nothing is wrong up to the place in the order that it has reached. -/
inductive Course (single : Single State) (choices : List Choice) : StagePhase State → Prop where
  | ready (untaken : choices.count (.job 0) = 0) (untouched : single.Untouched choices)
      (alive : (single.after choices).endedBy? = none) (unwaited : single.waited? choices = none) :
      Course single choices .ready
  | inspecting (once : choices.count (.job 0) = 1) (untouched : single.Untouched choices)
      (alive : (single.after choices).endedBy? = none) (unwaited : single.waited? choices = none)
      (cleared : single.Cleared choices 1) : Course single choices .inspecting
  | launching (twice : choices.count (.job 0) = 2) (untouched : single.Untouched choices)
      (alive : (single.after choices).endedBy? = none) (unwaited : single.waited? choices = none)
      (cleared : single.Cleared choices 2) : Course single choices .launching
  | waiting {child : Child State} {since due : Nat} (taken : 0 < choices.count (.job 0))
      (launched : single.Launched choices) (unwaited : single.waited? choices = none) :
      Course single choices (.waiting child since due)
  | collected {status : WaitStatus} {elapsed : Nat} (taken : 0 < choices.count (.job 0))
      (launched : single.Launched choices) (alive : (single.after choices).endedBy? = none)
      (waited : single.waited? choices = some (.ended status)) :
      Course single choices (.collected status elapsed)
  | spared {rank : Nat} {failure : BuildFailure} (taken : 0 < choices.count (.job 0))
      (untouched : single.Untouched choices) (early : rank < 3)
      (first : single.IsFirst choices rank failure) : Course single choices (.finished (.error failure))
  | refused {rank : Nat} {failure : BuildFailure} {found : Poll} (taken : 0 < choices.count (.job 0))
      (launched : single.Launched choices) (waited : single.waited? choices = some found)
      (late : 3 ≤ rank) (first : single.IsFirst choices rank failure) :
      Course single choices (.finished (.error failure))
  | accepted {status : WaitStatus} {elapsed : Nat} (taken : 0 < choices.count (.job 0))
      (launched : single.Launched choices) (waited : single.waited? choices = some (.ended status))
      (cleared : single.Cleared choices 6) :
      Course single choices
        (.finished (.ok ⟨single.command.stage, single.command.line, status, elapsed⟩))

theorem Untouched.concat (untouched : single.Untouched choices)
    (files : (single.after (choices ++ [choice])).world.files = (single.after choices).world.files)
    (trace : starts (single.after (choices ++ [choice])).trace = starts (single.after choices).trace) :
    single.Untouched (choices ++ [choice]) :=
  ⟨files.trans untouched.files, trace.trans untouched.unstarted⟩

theorem Launched.concat (launched : single.Launched choices) (taken : 0 < choices.count (.job 0))
    (trace : starts (single.after (choices ++ [choice])).trace = starts (single.after choices).trace) :
    single.Launched (choices ++ [choice]) :=
  ⟨launched.cleared.early le_rfl (flagAtStart_concat single taken choice), trace.trans launched.started⟩

/-- The end of the wait is found once. -/
theorem waited?_keeps {found : Poll} (waited : single.waited? choices = some found) (choice : Choice) :
    single.waited? (choices ++ [choice]) = some found := by
  rw [waited?_concat, waited, Option.some_or]

theorem turns_concat (choices : List Choice) :
    (choices ++ [Choice.job 0]).count (.job 0) = choices.count (.job 0) + 1 := by
  simp [List.count_append]

theorem turns_concat_other (choices : List Choice) (other : choice ≠ .job 0) :
    (choices ++ [choice]).count (.job 0) = choices.count (.job 0) := by
  simp [List.count_append, other]

theorem turns_mono (taken : 0 < choices.count (.job 0)) (choice : Choice) :
    0 < (choices ++ [choice]).count (.job 0) := by
  rw [List.count_append]
  exact Nat.add_pos_left taken _

section Looks

variable {system : System State} {phase : StagePhase State}

/-- A choice that does not let the stage take a step does not let it look at its process. -/
theorem endsWait?_refused (jobs : system.jobs = [.stage ⟨single.command, phase⟩])
    (refused : choice = .job 0 → system.endedBy? = none →
      StageRun.isAble single.options system.world.clock ⟨single.command, phase⟩ = false) :
    single.endsWait? system choice = none := by
  unfold endsWait?
  split
  · rename_i command child since due alive waits
    cases jobs.symm.trans waits
    rw [if_neg (Bool.eq_false_iff.mp (refused rfl alive))]
  · rfl

/-- A stage that does not wait looks at no process. -/
theorem endsWait?_idle (jobs : system.jobs = [.stage ⟨single.command, phase⟩])
    (idle : ∀ child since due, phase ≠ .waiting child since due) (choice : Choice) :
    single.endsWait? system choice = none := by
  unfold endsWait?
  split
  · rename_i command child since due alive waits
    cases jobs.symm.trans waits
    exact absurd rfl (idle child since due)
  · rfl

/-- What a stage finds that looks at its process. -/
theorem endsWait?_look {child : Child State} {since due : Nat} {found : Poll}
    (jobs : system.jobs = [.stage ⟨single.command, .waiting child since due⟩])
    (alive : system.endedBy? = none)
    (able : StageRun.isAble single.options system.world.clock
      ⟨single.command, .waiting child since due⟩ = true)
    (finds : poll single.options child.status? system.world.flag (system.world.clock - since) = found) :
    single.endsWait? system (.job 0) = if found = .pending then none else some found := by
  unfold endsWait?
  simp only [jobs, alive, able, if_true, finds]
  cases found <;> rfl

end Looks

/-- A choice that leaves the stage where it stands leaves what is known of it. -/
theorem Course.rests {phase : StagePhase State} (course : single.Course choices phase)
    (jobs : (single.after choices).jobs = [.stage ⟨single.command, phase⟩])
    (files : (single.after (choices ++ [choice])).world.files = (single.after choices).world.files)
    (trace : (single.after (choices ++ [choice])).trace = (single.after choices).trace)
    (ended : (single.after (choices ++ [choice])).endedBy? = (single.after choices).endedBy?)
    (refused : choice = .job 0 → (single.after choices).endedBy? = none →
      StageRun.isAble single.options (single.after choices).world.clock ⟨single.command, phase⟩ = false) :
    single.Course (choices ++ [choice]) phase := by
  have started := congrArg starts trace
  have unlooked := endsWait?_refused jobs refused
  have flag (taken : 0 < choices.count (.job 0)) :=
    flagAtStart_concat single taken choice
  have unwaited' (unwaited : single.waited? choices = none) :
      single.waited? (choices ++ [choice]) = none := by
    rw [waited?_concat, unwaited, unlooked, Option.or_none]
  -- before its process is started a stage takes every turn
  have other (alive : (single.after choices).endedBy? = none)
      (able : StageRun.isAble single.options (single.after choices).world.clock
        ⟨single.command, phase⟩ = true) : choice ≠ .job 0 :=
    fun same => Bool.noConfusion ((refused same alive).symm.trans able)
  cases course with
  | ready untaken untouched alive unwaited =>
    have count := turns_concat_other choices (other alive rfl)
    exact .ready (count.trans untaken) (untouched.concat files started) (ended.trans alive)
      (unwaited' unwaited)
  | inspecting once untouched alive unwaited cleared =>
    have count := turns_concat_other choices (other alive rfl)
    exact .inspecting (count.trans once) (untouched.concat files started) (ended.trans alive)
      (unwaited' unwaited) (cleared.early (by decide) (flag (once ▸ Nat.one_pos)))
  | launching twice untouched alive unwaited cleared =>
    have count := turns_concat_other choices (other alive rfl)
    exact .launching (count.trans twice) (untouched.concat files started) (ended.trans alive)
      (unwaited' unwaited) (cleared.early (by decide) (flag (twice ▸ Nat.two_pos)))
  | waiting taken launched unwaited =>
    exact .waiting (turns_mono taken choice) (launched.concat taken started) (unwaited' unwaited)
  | collected taken launched alive waited =>
    exact .collected (turns_mono taken choice) (launched.concat taken started) (ended.trans alive)
      (waited?_keeps waited choice)
  | spared taken untouched early first =>
    exact .spared (turns_mono taken choice) (untouched.concat files started) early
      (first.early early (flag taken))
  | refused taken launched waited late first =>
    have same := objection_congr (flag taken) ((waited?_keeps waited choice).trans waited.symm) files
    exact .refused (turns_mono taken choice) (launched.concat taken started)
      (waited?_keeps waited choice) late (first.congr same)
  | accepted taken launched waited cleared =>
    have same := objection_congr (flag taken) ((waited?_keeps waited choice).trans waited.symm) files
    exact .accepted (turns_mono taken choice) (launched.concat taken started)
      (waited?_keeps waited choice) (cleared.congr same)

theorem Cleared.succ {bound : Nat} (cleared : single.Cleared choices bound)
    (fine : ∀ failure, ¬ single.Objection choices bound failure) : single.Cleared choices (bound + 1) := by
  intro rank lower
  rcases Nat.lt_succ_iff_lt_or_eq.mp lower with lower | rfl
  · exact cleared rank lower
  · exact fine

theorem cleared_zero : single.Cleared choices 0 := fun _ lower => absurd lower (Nat.not_lt_zero _)

/-- When the process has ended, the wait was not cut short. -/
theorem Launched.uncut {status : WaitStatus} (launched : single.Launched choices)
    (waited : single.waited? choices = some (.ended status)) : single.Cleared choices 4 :=
  launched.cleared.succ fun failure objection => by
    cases objection with
    | interrupted cut => cases cut.symm.trans waited
    | timedOut cut => cases cut.symm.trans waited

/-- The verdict on a stage whose process has ended. -/
theorem Launched.verdict {status : WaitStatus} (launched : single.Launched choices)
    (waited : single.waited? choices = some (.ended status)) :
    match StageRun.rejection? single.setting (single.after choices).world.files single.command status with
    | some failure => ∃ rank, 3 ≤ rank ∧ single.IsFirst choices rank failure
    | none => single.Cleared choices 6 := by
  have uncut := launched.uncut waited
  unfold StageRun.rejection?
  cases success : status.isSuccess with
  | false => exact ⟨4, by decide, .failed waited success, uncut⟩
  | true =>
    have successful : single.Cleared choices 5 := uncut.succ fun failure objection => by
      cases objection with
      | failed ended unsuccessful =>
        cases ended.symm.trans waited
        cases success.symm.trans unsuccessful
    cases made : (single.after choices).world.files.pathExists single.setting.cwd
        single.command.output with
    | false =>
      exact ⟨5, by decide, .unmade fun has => Bool.noConfusion (made.symm.trans has), successful⟩
    | true =>
      refine successful.succ fun failure objection => ?_
      cases objection with
      | unmade missing => exact missing made

/-- What is known of a stage is known after each of its steps. -/
theorem Course.steps {phase phase' : StagePhase State} {events : List Event}
    (course : single.Course choices phase)
    (jobs : (single.after choices).jobs = [.stage ⟨single.command, phase⟩])
    (alive : (single.after choices).endedBy? = none)
    (able : StageRun.isAble single.options (single.after choices).world.clock
      ⟨single.command, phase⟩ = true)
    (step : StageRun.Step single.programs single.setting single.options (single.after choices).world
      single.command phase phase' events)
    (files : (single.after (choices ++ [.job 0])).world.files = (single.after choices).world.files)
    (trace : (single.after (choices ++ [.job 0])).trace = events.reverse ++ (single.after choices).trace)
    (alive' : (single.after (choices ++ [.job 0])).endedBy? = none) :
    single.Course (choices ++ [.job 0]) phase' := by
  have turns := turns_concat choices
  have taken' : 0 < (choices ++ [Choice.job 0]).count (.job 0) := turns ▸ Nat.succ_pos _
  have started : starts (single.after (choices ++ [.job 0])).trace
      = starts (single.after choices).trace ++ events.filterMap Event.start? := by
    rw [trace, starts_append]
  have unstarted (none_ : events.filterMap Event.start? = []) :
      starts (single.after (choices ++ [.job 0])).trace = starts (single.after choices).trace := by
    rw [started, none_, List.append_nil]
  have unwaited' (unwaited : single.waited? choices = none)
      (idle : ∀ child since due, phase ≠ .waiting child since due) :
      single.waited? (choices ++ [.job 0]) = none := by
    rw [waited?_concat, unwaited, endsWait?_idle jobs idle, Option.or_none]
  -- what a look at the process finds
  have looks {child : Child State} {since due : Nat} {found : Poll}
      (phase_eq : phase = .waiting child since due) (unwaited : single.waited? choices = none)
      (finds : poll single.options child.status? (single.after choices).world.flag
        ((single.after choices).world.clock - since) = found) :
      single.waited? (choices ++ [.job 0]) = if found = .pending then none else some found := by
    subst phase_eq
    rw [waited?_concat, unwaited, Option.none_or, endsWait?_look jobs alive able finds]
  cases step with
  | cancelled raised =>
    obtain ⟨untaken, untouched, -, -⟩ := course
    refine .spared taken' (untouched.concat files (unstarted rfl)) (show 0 < 3 by decide)
      ⟨.cancelled ?_, cleared_zero⟩
    rwa [flagAtStart_first untaken]
  | admitted lowered =>
    obtain ⟨untaken, untouched, -, unwaited⟩ := course
    refine .inspecting (turns.trans (congrArg (· + 1) untaken)) (untouched.concat files (unstarted rfl))
      alive' (unwaited' unwaited nofun) (cleared_zero.succ fun failure objection => ?_)
    obtain ⟨raised⟩ := objection
    rw [flagAtStart_first untaken] at raised
    cases lowered.symm.trans raised
  | deprived missing =>
    obtain _ | ⟨once, untouched, -, -, cleared⟩ := course
    have flag := flagAtStart_concat single (once ▸ Nat.one_pos) (.job 0)
    rw [untouched.files] at missing
    obtain ⟨before, after, inputs, present, missing⟩ := missingInput?_split.mp missing
    exact .spared taken' (untouched.concat files (unstarted rfl)) (show 1 < 3 by decide)
      ⟨.deprived inputs present missing, cleared.early (by decide) flag⟩
  | inspected complete =>
    obtain _ | ⟨once, untouched, -, unwaited, cleared⟩ := course
    have flag := flagAtStart_concat single (once ▸ Nat.one_pos) (.job 0)
    rw [untouched.files] at complete
    refine .launching (turns.trans (congrArg (· + 1) once)) (untouched.concat files (unstarted rfl))
      alive' (unwaited' unwaited nofun)
      ((cleared.early (by decide) flag).succ fun failure objection => ?_)
    obtain _ | ⟨inputs, present, missing⟩ := objection
    cases complete.symm.trans (missingInput?_split.mpr ⟨_, _, inputs, present, missing⟩)
  | unspawned fails =>
    obtain _ | _ | ⟨twice, untouched, -, -, cleared⟩ := course
    have flag := flagAtStart_concat single (twice ▸ Nat.two_pos) (.job 0)
    rw [untouched.files] at fails
    exact .spared taken' (untouched.concat files (unstarted rfl)) (show 2 < 3 by decide)
      ⟨.unspawned fails, cleared.early (by decide) flag⟩
  | launched starts_ =>
    obtain _ | _ | ⟨twice, untouched, -, unwaited, cleared⟩ := course
    have flag := flagAtStart_concat single (twice ▸ Nat.two_pos) (.job 0)
    rw [untouched.files] at starts_
    refine .waiting taken' ⟨(cleared.early (by decide) flag).succ fun failure objection => ?_, ?_⟩
      (unwaited' unwaited nofun)
    · obtain _ | _ | ⟨fails⟩ := objection
      cases starts_.symm.trans fails
    · rw [started, untouched.unstarted]
      rfl
  | reaped =>
    obtain _ | _ | _ | ⟨taken, launched, unwaited⟩ := course
    exact .collected taken' (launched.concat taken (unstarted rfl)) alive' (looks rfl unwaited rfl)
  | interrupted raised =>
    obtain _ | _ | _ | ⟨taken, launched, unwaited⟩ := course
    have launched' := launched.concat taken (unstarted rfl)
    have waited := looks rfl unwaited (poll_raised raised)
    exact .refused taken' launched' waited le_rfl ⟨.interrupted waited, launched'.cleared⟩
  | timedOut lowered limit late =>
    obtain _ | _ | _ | ⟨taken, launched, unwaited⟩ := course
    have launched' := launched.concat taken (unstarted rfl)
    have waited := looks rfl unwaited (poll_late lowered limit late)
    exact .refused taken' launched' waited le_rfl ⟨.timedOut waited, launched'.cleared⟩
  | looked lowered early =>
    obtain _ | _ | _ | ⟨taken, launched, unwaited⟩ := course
    have waited := looks rfl unwaited (poll_early lowered early)
    exact .waiting taken' (launched.concat taken (unstarted rfl)) waited
  | rejected reason =>
    obtain _ | _ | _ | _ | ⟨taken, launched, -, waited⟩ := course
    have launched' := launched.concat taken (unstarted rfl)
    have waited' := waited?_keeps waited (.job 0)
    have verdict := launched'.verdict waited'
    rw [files, reason] at verdict
    obtain ⟨rank, late, first⟩ := verdict
    exact .refused taken' launched' waited' late first
  | accepted fine =>
    obtain _ | _ | _ | _ | ⟨taken, launched, -, waited⟩ := course
    have launched' := launched.concat taken (unstarted rfl)
    have waited' := waited?_keeps waited (.job 0)
    have verdict := launched'.verdict waited'
    rw [files, fine] at verdict
    exact .accepted taken' launched' waited' verdict

/-- **What is known of a stage is known at every moment of every run.** -/
theorem course (single : Single State) (choices : List Choice) :
    ∃ phase, (single.after choices).jobs = [.stage ⟨single.command, phase⟩] ∧
      single.Course choices phase := by
  induction choices using List.reverseRecOn with
  | nil => exact ⟨.ready, rfl, .ready rfl ⟨rfl, rfl⟩ rfl rfl⟩
  | append_singleton choices choice ih =>
    obtain ⟨phase, jobs, course⟩ := ih
    obtain ⟨phase', jobs', turned⟩ := System.act_turned single.programs single.setting
      single.builder jobs choice
    rw [← after_concat] at jobs' turned
    refine ⟨phase', jobs', ?_⟩
    cases turned with
    | rests files trace ended refused => exact course.rests jobs files trace ended refused
    | steps alive able step files trace alive' =>
      exact course.steps jobs alive able step files trace alive'
    | process phase_eq trace =>
      subst phase_eq
      obtain _ | _ | _ | ⟨taken, launched, unwaited⟩ := course
      have unlooked : single.endsWait? (single.after choices) (.child 0) = none := rfl
      refine .waiting (turns_mono taken _) (launched.concat taken trace) ?_
      rw [waited?_concat, unwaited, unlooked, Option.or_none]

/-! ### What a stage returns -/

/-- The stage is done, with a result. -/
def Returns (single : Single State) (choices : List Choice)
    (result : Except BuildFailure StageResult) : Prop :=
  (single.after choices).jobs = [.stage ⟨single.command, .finished result⟩]

/-- What the result of a stage says. -/
structure Decided (single : Single State) (choices : List Choice)
    (result : Except BuildFailure StageResult) : Prop where
  /-- A failure is the first thing that is wrong. -/
  failure_iff : ∀ failure, result = .error failure ↔ ∃ rank, single.IsFirst choices rank failure
  /-- A success means that nothing is wrong. -/
  success_iff : (∃ report, result = .ok report) ↔
    ∀ rank failure, ¬ single.Objection choices rank failure
  /-- A success reports the command, and the status that the process ended with. -/
  reported : ∀ report, result = .ok report → report.stage = single.command.stage ∧
    report.command = single.command.line ∧ single.waited? choices = some (.ended report.status)
  /-- What is wrong before the process is started keeps it from being started. -/
  untouched : ∀ rank failure, rank < 3 → single.IsFirst choices rank failure →
    (single.after choices).world.files = single.world.files ∧ starts (single.after choices).trace = []
  /-- Otherwise one process was started, by the program and the arguments of the command, and with
  nothing on its standard input. -/
  launched : (∀ rank failure, rank < 3 → ¬ single.IsFirst choices rank failure) →
    starts (single.after choices).trace = [(single.command.stage,
      { program := single.command.program, arguments := single.command.arguments,
        cwd := single.setting.cwd, environment := single.setting.environment, input := [] })]

theorem Objection.rank_lt {rank : Nat} {failure : BuildFailure}
    (objection : single.Objection choices rank failure) : rank < 6 := by
  cases objection <;> decide

/-- The failure that is the first thing wrong is the only one. -/
theorem IsFirst.failure_iff {rank : Nat} {failure : BuildFailure}
    (first : single.IsFirst choices rank failure) (failure' : BuildFailure) :
    (Except.error failure : Except BuildFailure StageResult) = .error failure' ↔
      ∃ rank, single.IsFirst choices rank failure' := by
  constructor
  · rintro ⟨⟩
    exact ⟨rank, first⟩
  · rintro ⟨_, first'⟩
    rw [(first.unique first').2]

/-- When the process was started, nothing was wrong before. -/
theorem Launched.early {rank : Nat} {failure : BuildFailure} (launched : single.Launched choices)
    (early : rank < 3) : ¬ single.IsFirst choices rank failure :=
  fun first => launched.cleared rank early failure first.applies

theorem Course.decided {result : Except BuildFailure StageResult}
    (course : single.Course choices (.finished result)) : single.Decided choices result := by
  cases course with
  | @spared rank failure taken untouched early first =>
    exact {
      failure_iff := first.failure_iff
      success_iff := iff_of_false nofun fun none_ => none_ rank failure first.applies
      reported := nofun
      untouched := fun _ _ _ _ => ⟨untouched.files, untouched.unstarted⟩
      launched := fun none_ => absurd first (none_ rank failure early) }
  | @refused rank failure found taken launched waited late first =>
    exact {
      failure_iff := first.failure_iff
      success_iff := iff_of_false nofun fun none_ => none_ rank failure first.applies
      reported := nofun
      untouched := fun _ _ early first' => absurd first' (launched.early early)
      launched := fun _ => launched.started }
  | @accepted status elapsed taken launched waited cleared =>
    have fine : ∀ rank failure, ¬ single.Objection choices rank failure :=
      fun rank failure objection => cleared rank objection.rank_lt failure objection
    exact {
      failure_iff := fun failure => iff_of_false nofun fun ⟨rank, first⟩ =>
        fine rank failure first.applies
      success_iff := iff_of_true ⟨_, rfl⟩ fine
      reported := by
        rintro report ⟨⟩
        exact ⟨rfl, rfl, waited⟩
      untouched := fun _ _ early first' => absurd first' (launched.early early)
      launched := fun _ => launched.started }

/-- A stage with something wrong before its process is started returns in three turns. -/
theorem Course.returns_early {phase : StagePhase State} {rank : Nat} {failure : BuildFailure}
    (course : single.Course choices phase) (turns : 3 ≤ choices.count (.job 0)) (early : rank < 3)
    (first : single.IsFirst choices rank failure) : phase = .finished (.error failure) := by
  cases course with
  | ready untaken => omega
  | inspecting once => omega
  | launching twice => omega
  | waiting _ launched => exact absurd first (launched.early early)
  | collected _ launched => exact absurd first (launched.early early)
  | spared _ _ _ first' => rw [(first.unique first').2]
  | refused _ launched => exact absurd first (launched.early early)
  | accepted _ launched => exact absurd first (launched.early early)

/-- When the wait is over the stage returns in its next turn. -/
theorem returns_late {found : Poll} (waited : single.waited? choices = some found) :
    ∃ result, single.Returns (choices ++ [.job 0]) result := by
  obtain ⟨phase, jobs, course⟩ := single.course choices
  obtain ⟨phase', jobs', turned⟩ := System.act_turned single.programs single.setting single.builder
    jobs (.job 0)
  rw [← after_concat] at jobs'
  cases course with
  | ready _ _ _ unwaited => cases waited.symm.trans unwaited
  | inspecting _ _ _ unwaited => cases waited.symm.trans unwaited
  | launching _ _ _ unwaited => cases waited.symm.trans unwaited
  | waiting _ _ unwaited => cases waited.symm.trans unwaited
  | collected _ _ alive _ =>
    cases turned with
    | rests _ _ _ refused => cases refused rfl alive
    | steps _ _ step =>
      cases step with
      | rejected => exact ⟨_, jobs'⟩
      | accepted => exact ⟨_, jobs'⟩
  | _ =>
    cases turned with
    | rests => exact ⟨_, jobs'⟩
    | steps _ able => cases able

/-- When a look at the process ends the wait, the stage returns in two turns. -/
theorem returns_of_look {child : Child State} {since due time : Nat}
    (jobs : (single.after choices).jobs = [.stage ⟨single.command, .waiting child since due⟩])
    (alive : (single.after choices).endedBy? = none)
    (able : StageRun.isAble single.options ((single.after choices).world.clock + time)
      ⟨single.command, .waiting child since due⟩ = true)
    (ends : poll single.options child.status? (single.after choices).world.flag
      ((single.after choices).world.clock + time - since) ≠ .pending) :
    ∃ result, single.Returns (choices ++ [.pass time, .job 0, .job 0]) result := by
  have later : single.after (choices ++ [.pass time])
      = { single.after choices with
          world := { (single.after choices).world with
            clock := (single.after choices).world.clock + time } } :=
    after_concat choices (.pass time)
  have jobs' : (single.after (choices ++ [.pass time])).jobs
      = [.stage ⟨single.command, .waiting child since due⟩] := later ▸ jobs
  have look : single.endsWait? (single.after (choices ++ [.pass time])) (.job 0)
      = some (poll single.options child.status? (single.after choices).world.flag
        ((single.after choices).world.clock + time - since)) := by
    rw [endsWait?_look jobs' (later ▸ alive) (later ▸ able) rfl, later, if_neg ends]
  obtain ⟨found, waited⟩ : ∃ found,
      single.waited? (choices ++ [.pass time] ++ [.job 0]) = some found := by
    rw [waited?_concat, look]
    cases single.waited? (choices ++ [.pass time]) <;> exact ⟨_, rfl⟩
  obtain ⟨result, returns⟩ := returns_late waited
  exact ⟨result, by simpa using returns⟩

/-- **A stage returns the first thing that is wrong with it**, and succeeds exactly if nothing is. What
is wrong before its process is started keeps it from being started; otherwise one process was started, as
the command says. The stage does return: in three turns if something is wrong before the start, in its
next turn once the wait is over, and the wait is over when it looks at a process that has ended, at a
raised flag or when the time is up. -/
theorem stage_decided (single : Single State) (choices : List Choice) :
    (∀ result, single.Returns choices result → single.Decided choices result) ∧
    (∀ rank failure, rank < 3 → single.IsFirst choices rank failure → 3 ≤ choices.count (.job 0) →
      single.Returns choices (.error failure)) ∧
    (∀ found, single.waited? choices = some found →
      ∃ result, single.Returns (choices ++ [.job 0]) result) ∧
    (∀ child since due time,
      (single.after choices).jobs = [.stage ⟨single.command, .waiting child since due⟩] →
      (single.after choices).endedBy? = none →
      StageRun.isAble single.options ((single.after choices).world.clock + time)
        ⟨single.command, .waiting child since due⟩ = true →
      poll single.options child.status? (single.after choices).world.flag
        ((single.after choices).world.clock + time - since) ≠ .pending →
      ∃ result, single.Returns (choices ++ [.pass time, .job 0, .job 0]) result) := by
  obtain ⟨phase, jobs, course⟩ := single.course choices
  refine ⟨fun result returns => ?_, fun rank failure early first turns => ?_,
    fun found waited => returns_late waited,
    fun child since due time jobs alive able ends => returns_of_look jobs alive able ends⟩
  · cases jobs.symm.trans returns
    exact course.decided
  · rw [Returns, jobs, course.returns_early turns early first]

/-- A stage whose process fails at once and makes nothing. Signals cancel it. -/
def failing : Single Unit where
  programs := ⟨fun _ _ => .ok (), fun files _ => (files, .ends (.exited 1))⟩
  setting := ⟨[], ⟨[]⟩, fun _ => [0x61], fun _ => .ignored⟩
  builder := ⟨⟨[0x66], [0x63], [0x62]⟩, Bytes.ofText "/r", none, ⟨none, true⟩⟩
  world := ⟨FileSystem.empty.put [[0x72]] (.file Mode.ofFile []), .lowered, 0, 0⟩
  command := ⟨.lower, [0x62], [], [Bytes.ofText "/r"], Bytes.ofText "/o"⟩

/-- The failing stage when its process has failed. -/
def failed : List Choice := [.job 0, .job 0, .job 0, .child 0]

/-- The failing stage returns that its process failed, not that nothing was made; if it is asked to stop
before its first step, it returns that. -/
theorem stage_decided_failing :
    (∃ result, failing.Returns (failed ++ [.pass 0, .job 0, .job 0]) result) ∧
    (∃ result, failing.Returns ((failed ++ [.job 0]) ++ [.job 0]) result) ∧
    failing.Decided (failed ++ [.job 0, .job 0])
      (.error (.stageFailed .lower "b" (.exited 1))) ∧
    failing.Returns [.raise 15, .job 0, .job 0, .job 0] (.error (.interrupted .lower 15)) := by
  refine ⟨(stage_decided failing failed).2.2.2 (.ended (.exited 1)) 0 0 0 ?_ ?_ ?_ nofun,
    (stage_decided failing _).2.2.1 (.ended (.exited 1)) ?_, (stage_decided failing _).1 _ ?_,
    (stage_decided failing _).2.1 0 _ (by decide) ⟨.cancelled ?_, cleared_zero⟩ (by decide)⟩
  all_goals cbv

end Single

end CalcBuild

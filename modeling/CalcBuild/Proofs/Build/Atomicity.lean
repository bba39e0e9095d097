/-
**What is seen at the output paths.**

While any number of builds go on, what is at an output path is what was there before all of them, or the
complete file that the linker of a build had left when it ended with success, in a build all of whose
stages succeeded. For this the names that the builds draw must not be those of the outputs or of
directories on the way to them, and no output may be on the way to one.

* `Crowd.Owned`, `Crowd.Aimed`, `Crowd.Crossed`: what builds own, what outputs denote, and what is on the
  way, at any moment of a run;
* `Crowd.Apart`: that these do not get in the way of each other;
* `Comes.placed`: the name for a linker denotes a place that is no directory;
* `Crowd.Left`, `Comes.left`: what a linker left is at its name until the build publishes it;
* `Crowd.Complete`, `Comes.settled`: what is at a place;
* `outputs_atomic`: what is seen at the output paths;
* `Survey`, `apart_of_isClear`: that all is apart in a run, computed;
* `outputs_exposed`: outputs that are on the way to themselves, or in a workspace.
-/

import CalcBuild.Proofs.Build.Territory
import Mathlib

namespace CalcBuild

open Files FileSystem

variable {State : Type}

namespace Crowd

/-! ### Moments of a run -/

/-- What some builds had come to at some moment of a run. -/
def Moment (crowd : Crowd State) (choices : List Choice) (world : World)
    (runs : List (BuildRun State)) : Prop :=
  ∃ earlier, earlier <+: choices ∧ crowd.Comes earlier world runs

/-- What a build owns at some moment of a run. -/
def Owned (crowd : Crowd State) (choices : List Choice) (place : Place) : Prop :=
  ∃ world runs run, crowd.Moment choices world runs ∧ run ∈ runs ∧
    run.Owns crowd.setting world.files place

/-- What an output path denotes at some moment of a run. -/
def Aimed (crowd : Crowd State) (choices : List Choice) (place : Place) : Prop :=
  ∃ world runs request, crowd.Moment choices world runs ∧ request ∈ crowd.requests ∧
    world.files.placeOf crowd.setting.cwd request.output = some place

/-- What is on the way to an output at some moment of a run: it is looked at to find out what the path,
or a name for the linker, denotes, or it is denoted by one of the directories that are made for it. -/
def Crossed (crowd : Crowd State) (choices : List Choice) (place : Place) : Prop :=
  ∃ world runs, crowd.Moment choices world runs ∧
    ((∃ request ∈ crowd.requests, place ∈ world.files.lookedAt crowd.setting.cwd request.output ∨
        ∃ path ∈ Path.ancestors (Staging.directory request.output),
          world.files.placeOf crowd.setting.cwd path = some place) ∨
      ∃ run ∈ runs, ∃ staging, run.staging? = some staging ∧
        place ∈ world.files.lookedAt crowd.setting.cwd staging)

/-- What builds draw and aim at is apart in a run. -/
structure Apart (crowd : Crowd State) (choices : List Choice) : Prop where
  /-- No output is on the way to one. -/
  outputs : ∀ place, crowd.Aimed choices place → ¬ crowd.Crossed choices place
  /-- What builds own is no output and not on the way to one. -/
  names : ∀ place, crowd.Owned choices place →
    ¬ crowd.Aimed choices place ∧ ¬ crowd.Crossed choices place
  /-- What is at a name for a linker belongs at no time to anything else. -/
  distinct : ∀ (world : World) (runs : List (BuildRun State)), crowd.Moment choices world runs →
    ∀ (index other : Nat) (run run' : BuildRun State),
    runs[index]? = some run → runs[other]? = some run' → ∀ place,
    run.AtStaging crowd.setting world.files place →
    ¬ run'.InWorkspace crowd.setting world.files place ∧
      (run'.AtStaging crowd.setting world.files place → other = index)

variable {crowd : Crowd State} {choices choices' : List Choice} {world : World}
  {runs : List (BuildRun State)} {place : Place}

theorem Comes.moment (comes : crowd.Comes choices world runs) : crowd.Moment choices world runs :=
  ⟨choices, List.prefix_refl _, comes⟩

theorem Moment.mono (moment : crowd.Moment choices world runs) (longer : choices <+: choices') :
    crowd.Moment choices' world runs := by
  obtain ⟨earlier, shorter, comes⟩ := moment
  exact ⟨earlier, shorter.trans longer, comes⟩

theorem Owned.mono (owned : crowd.Owned choices place) (longer : choices <+: choices') :
    crowd.Owned choices' place := by
  obtain ⟨world, runs, run, moment, rest⟩ := owned
  exact ⟨world, runs, run, moment.mono longer, rest⟩

theorem Aimed.mono (aimed : crowd.Aimed choices place) (longer : choices <+: choices') :
    crowd.Aimed choices' place := by
  obtain ⟨world, runs, request, moment, rest⟩ := aimed
  exact ⟨world, runs, request, moment.mono longer, rest⟩

theorem Crossed.mono (crossed : crowd.Crossed choices place) (longer : choices <+: choices') :
    crowd.Crossed choices' place := by
  obtain ⟨world, runs, moment, rest⟩ := crossed
  exact ⟨world, runs, moment.mono longer, rest⟩

theorem Apart.shorter (apart : crowd.Apart choices') (longer : choices <+: choices') :
    crowd.Apart choices where
  outputs := fun place aimed crossed =>
    apart.outputs place (aimed.mono longer) (crossed.mono longer)
  names := fun place owned =>
    have clear := apart.names place (owned.mono longer)
    ⟨fun aimed => clear.1 (aimed.mono longer), fun crossed => clear.2 (crossed.mono longer)⟩
  distinct := fun world runs moment => apart.distinct world runs (moment.mono longer)

/-! ### A turn of one of the builds -/

/-- A turn of one of the builds, in a run in which all is apart. -/
structure Turns (crowd : Crowd State) (choices : List Choice) (choice : Choice) (before after : World)
    (runs : List (BuildRun State)) (index : Nat) (run run' : BuildRun State) : Prop where
  confined : crowd.programs.Confined
  sound : before.files.Sound
  apart : crowd.Apart (choices ++ [choice])
  earlier : crowd.Comes choices before runs
  now : crowd.Comes (choices ++ [choice]) after (runs.set index run')
  listed : runs[index]? = some run
  effect : BuildRun.Effect crowd.setting run run' before.files after.files

namespace Turns

variable {choice : Choice} {before after : World} {index : Nat} {run run' : BuildRun State}

theorem past (turns : crowd.Turns choices choice before after runs index run run') :
    crowd.Moment (choices ++ [choice]) before runs :=
  turns.earlier.moment.mono (List.prefix_append ..)

/-- The build that takes the turn is among the builds after it. -/
theorem listed' (turns : crowd.Turns choices choice before after runs index run run') :
    (runs.set index run')[index]? = some run' := by
  obtain ⟨short, _⟩ := List.getElem?_eq_some_iff.mp turns.listed
  exact List.getElem?_set_self short

theorem requested (turns : crowd.Turns choices choice before after runs index run run') :
    run.request ∈ crowd.requests := by
  obtain ⟨request, asked, wired⟩ := turns.earlier.wired turns.listed
  rw [wired.1]
  exact List.mem_of_getElem? asked

/-- The build that takes the turn owns nothing that is on the way. -/
theorem unowned (turns : crowd.Turns choices choice before after runs index run run')
    (crossed : crowd.Crossed (choices ++ [choice]) place) :
    ¬ run.Owns crowd.setting before.files place ∧ ¬ run'.Owns crowd.setting after.files place := by
  constructor
  · intro owns
    have owned : crowd.Owned (choices ++ [choice]) place :=
      ⟨before, runs, run, turns.past, List.mem_of_getElem? turns.listed, owns⟩
    exact (turns.apart.names place owned).2 crossed
  · intro owns
    have owned : crowd.Owned (choices ++ [choice]) place :=
      ⟨after, _, run', turns.now.moment, List.mem_of_getElem? turns.listed', owns⟩
    exact (turns.apart.names place owned).2 crossed

/-- What the build that takes the turn aims at is not on the way. -/
theorem unaimed (turns : crowd.Turns choices choice before after runs index run run')
    (crossed : crowd.Crossed (choices ++ [choice]) place) :
    before.files.placeOf crowd.setting.cwd run.request.output ≠ some place := by
  intro denotes
  exact turns.apart.outputs place ⟨before, runs, _, turns.past, turns.requested, denotes⟩ crossed

/-- What is on the way to an output before the turn. -/
theorem crossed_output {request : BuildRequest}
    (turns : crowd.Turns choices choice before after runs index run run')
    (asked : request ∈ crowd.requests)
    (member : place ∈ before.files.lookedAt crowd.setting.cwd request.output) :
    crowd.Crossed (choices ++ [choice]) place :=
  ⟨before, runs, turns.past, .inl ⟨request, asked, .inl member⟩⟩

/-- What is on the way to a name for a linker before the turn. -/
theorem crossed_staging {holder : BuildRun State} {staging : Bytes}
    (turns : crowd.Turns choices choice before after runs index run run') (member : holder ∈ runs)
    (holds : holder.staging? = some staging)
    (looked : place ∈ before.files.lookedAt crowd.setting.cwd staging) :
    crowd.Crossed (choices ++ [choice]) place :=
  ⟨before, runs, turns.past, .inr ⟨holder, member, staging, holds, looked⟩⟩

/-- **What an output path denotes, it denotes after the turn.** -/
theorem output_kept (turns : crowd.Turns choices choice before after runs index run run')
    (placed : run.Placed crowd.setting before.files) {request : BuildRequest}
    (asked : request ∈ crowd.requests)
    (denotes : before.files.placeOf crowd.setting.cwd request.output = some place) :
    after.files.placeOf crowd.setting.cwd request.output = some place := by
  obtain ⟨dir, name, rfl, ends⟩ := placeOf_eq_some_iff.mp denotes
  exact placeOf_of_ending (turns.effect.ending_kept turns.sound placed ends
    (fun _ member => turns.unowned (turns.crossed_output asked member))
    (fun _ member => turns.unaimed (turns.crossed_output asked member)))

/-- **The name that another build holds** denotes what it denoted, and what was there is there. -/
theorem staging_kept (turns : crowd.Turns choices choice before after runs index run run')
    (placed : run.Placed crowd.setting before.files) {other : Nat} {holder : BuildRun State}
    (differs : other ≠ index) (listed : runs[other]? = some holder) {staging : Bytes}
    (holds : holder.staging? = some staging) {dir : Place} {name : Bytes}
    (ends : before.files.ending crowd.setting.cwd staging = .ok (.name dir name false)) :
    after.files.ending crowd.setting.cwd staging = .ok (.name dir name false) ∧
      after.files.get? (name :: dir) = before.files.get? (name :: dir) := by
  have member := List.mem_of_getElem? listed
  have ends' := turns.effect.ending_kept turns.sound placed ends
    (fun _ looked => turns.unowned (turns.crossed_staging member holds looked))
    (fun _ looked => turns.unaimed (turns.crossed_staging member holds looked))
  refine ⟨ends', ?_⟩
  have here : holder.AtStaging crowd.setting before.files (name :: dir) :=
    ⟨staging, holds, placeOf_of_ending ends⟩
  have there : holder.AtStaging crowd.setting after.files (name :: dir) :=
    ⟨staging, holds, placeOf_of_ending ends'⟩
  have owned : crowd.Owned (choices ++ [choice]) (name :: dir) :=
    ⟨before, runs, holder, turns.past, member, .inr here⟩
  have listed' : (runs.set index run')[other]? = some holder := by
    rw [List.getElem?_set_ne (Ne.symm differs)]
    exact listed
  cases turns.effect.frame turns.sound placed (name :: dir) with
  | kept same => exact same
  | owned owns =>
    obtain ⟨outside, alone⟩ := turns.apart.distinct before runs turns.past other index holder run
      listed turns.listed _ here
    rcases owns with inside | shared
    · exact absurd inside outside
    · exact absurd (alone shared).symm differs
  | new owns _ =>
    obtain ⟨outside, alone⟩ := turns.apart.distinct after _ turns.now.moment other index holder run'
      listed' turns.listed' _ there
    rcases owns with inside | shared
    · exact absurd inside outside
    · exact absurd (alone shared).symm differs
  | made _ path ancestor denotes _ _ =>
    have crossed : crowd.Crossed (choices ++ [choice]) (name :: dir) :=
      ⟨after, _, turns.now.moment, .inl ⟨run.request, turns.requested, .inr ⟨path, ancestor, denotes⟩⟩⟩
    exact absurd crossed (turns.apart.names _ owned).2
  | moved _ denotes _ _ _ _ _ =>
    have aimed : crowd.Aimed (choices ++ [choice]) (name :: dir) :=
      ⟨before, runs, _, turns.past, turns.requested, denotes⟩
    exact absurd aimed (turns.apart.names _ owned).1

end Turns

/-- Induction over a run in which all is apart. -/
theorem Comes.apart_induction (confined : crowd.programs.Confined) (sound : crowd.world.files.Sound)
    {motive : List Choice → World → List (BuildRun State) → Prop}
    (begins : motive [] crowd.world (crowd.requests.map .start))
    (idles : ∀ {choices : List Choice} {choice : Choice} {before after : World}
      {runs : List (BuildRun State)},
      crowd.Comes choices before runs → crowd.Comes (choices ++ [choice]) after runs →
      after.files = before.files → motive choices before runs →
      motive (choices ++ [choice]) after runs)
    (turns : ∀ {choices : List Choice} {choice : Choice} {before after : World}
      {runs : List (BuildRun State)} {index : Nat} {run run' : BuildRun State} {events : List Event},
      crowd.Turns choices choice before after runs index run run' →
      crowd.Turn before run after run' events → motive choices before runs →
      motive (choices ++ [choice]) after (runs.set index run'))
    (comes : crowd.Comes choices world runs) (apart : crowd.Apart choices) :
    motive choices world runs := by
  refine comes.induction (motive := fun choices world runs =>
    crowd.Apart choices → motive choices world runs) (fun _ => begins) ?_ ?_ apart
  · exact fun earlier now files _ ih apart =>
      idles earlier now files (ih (apart.shorter (List.prefix_append ..)))
  · intro choices choice before after runs index run run' events earlier now listed turn ih apart
    exact turns ⟨confined, earlier.sound confined sound, apart, earlier, now, listed,
      earlier.effect confined sound listed turn⟩ turn (ih (apart.shorter (List.prefix_append ..)))

/-- **The name that a build holds denotes a place that is no directory**, at every moment. -/
theorem Comes.placed (confined : crowd.programs.Confined) (sound : crowd.world.files.Sound)
    (comes : crowd.Comes choices world runs) (apart : crowd.Apart choices) :
    ∀ (index : Nat) (run : BuildRun State), runs[index]? = some run →
      run.Placed crowd.setting world.files := by
  refine comes.apart_induction confined sound (motive := fun _ world runs =>
    ∀ (index : Nat) (run : BuildRun State), runs[index]? = some run →
      run.Placed crowd.setting world.files) ?_ ?_ ?_ apart
  · intro index run listed staging holds
    rw [List.getElem?_map, Option.map_eq_some_iff] at listed
    obtain ⟨_, _, rfl⟩ := listed
    cases holds
  · intro choices choice before after runs _ _ files ih
    rwa [files]
  · intro choices choice before after runs index run run' events turns _ ih other run'' listed'
    have placed := ih index run turns.listed
    rw [List.getElem?_set] at listed'
    by_cases same : index = other
    · subst same
      rw [if_pos rfl] at listed'
      split at listed'
      · cases listed'
        have member := List.mem_of_getElem? turns.listed
        exact turns.effect.placed turns.sound placed
          (fun _ holds _ looked => turns.unowned (turns.crossed_staging member holds looked))
          (fun _ holds _ looked => turns.unaimed (turns.crossed_staging member holds looked))
      · cases listed'
    · rw [if_neg same] at listed'
      intro staging holds
      obtain ⟨dir, name, ends, short, leaf⟩ := ih other run'' listed' staging holds
      obtain ⟨ends', kept⟩ := turns.staging_kept placed (Ne.symm same) listed' holds ends
      refine ⟨dir, name, ends', short, ?_⟩
      unfold isDirectoryAt directoryMode? at leaf ⊢
      rwa [kept]

/-! ### What a linker left -/

/-- The linker of a build has ended with success, and the build has not published what it left. -/
def Exited (run : BuildRun State) : Prop :=
  match run.phase with
  | .running ⟨command, .waiting (.ended status) _ _⟩ _ | .running ⟨command, .collected status _⟩ _ =>
    command.stage = .link ∧ status.isSuccess = true
  | .running ⟨command, .finished (.ok _)⟩ _ => command.stage = .link
  | .publishing => True
  | _ => False

/-- What the linker of a build left at its name, at the moment at which it ended with success. -/
inductive Left (crowd : Crowd State) (choices : List Choice) (index : Nat) (place : Place)
    (found? : Option Entry) : Prop where
  | exited {earlier : List Choice} {choice : Choice} {past now : World}
      {went come : List (BuildRun State)} {run run' : BuildRun State} {command : Command}
      {state : State} {wakes since due : Nat} {later : List Command} {status : WaitStatus}
      (shorter : earlier ++ [choice] <+: choices) (before : crowd.Comes earlier past went)
      (after : crowd.Comes (earlier ++ [choice]) now come) (listed : went[index]? = some run)
      (listed' : come[index]? = some run')
      (runs : run.phase = .running ⟨command, .waiting (.running state wakes) since due⟩ later)
      (ends : run'.phase = .running ⟨command, .waiting (.ended status) since due⟩ later)
      (links : command.stage = .link) (succeeds : status.isSuccess = true)
      (holds : run'.staging? = some command.output)
      (denotes : now.files.placeOf crowd.setting.cwd command.output = some place)
      (left : now.files.get? place = found?) : Left crowd choices index place found?

theorem Left.mono {index : Nat} {found? : Option Entry}
    (left : crowd.Left choices index place found?) (longer : choices <+: choices') :
    crowd.Left choices' index place found? := by
  obtain ⟨shorter, before, after, listed, listed', runs, ends, links, succeeds, holds, denotes, left⟩ :=
    left
  exact ⟨shorter.trans longer, before, after, listed, listed', runs, ends, links, succeeds, holds,
    denotes, left⟩

/-- A build that goes on to the commands that are left has no linker that has ended, unless it
publishes. -/
theorem exited_following {run : BuildRun State} (later : List Command)
    (phase : run.phase = BuildRun.following later) (exited : Exited run) : later = [] := by
  cases later with
  | nil => rfl
  | cons command later =>
    exfalso
    unfold Exited at exited
    rw [phase] at exited
    unfold BuildRun.following BuildRun.before at exited
    dsimp only at exited
    by_cases links : command.stage = .link
    · rw [if_pos links] at exited
      exact exited
    · rw [if_neg links] at exited
      exact exited

/-- A build whose linker has ended held the name before its own step, and its linker had ended then; its
step changed no files. -/
theorem exited_of_step {programs : Programs State} {setting : Setting} {builder : Builder}
    {request : BuildRequest} {before after : World} {run run' : BuildRun State} {events : List Event}
    (wired : run.Wired builder request)
    (steps : BuildRun.Step programs setting builder before run after run' events)
    (exited : Exited run') :
    Exited run ∧ run'.staging? = run.staging? ∧ after.files = before.files := by
  cases steps with
  | advanced phase steps =>
    cases steps with
    | reaped =>
      refine ⟨?_, rfl, rfl⟩
      unfold Exited
      rw [phase]
      exact exited
    | accepted fine =>
      refine ⟨?_, rfl, rfl⟩
      unfold Exited
      rw [phase]
      exact ⟨exited, (StageRun.rejection?_eq_none fine).1⟩
    | _ => exact False.elim exited
  | @succeeded command _ later phase =>
    have ends := exited_following later rfl exited
    have stands := wired.2
    rw [phase] at stands
    obtain ⟨workspace, done, _, _, plan, _, _⟩ := stands
    have stages := planned_stages builder request workspace run.staging?
    rw [plan, List.map_append, List.map_cons, ends] at stages
    refine ⟨?_, rfl, rfl⟩
    unfold Exited
    rw [phase]
    exact (Stage.order_split stages).2.mpr rfl
  | @opened _ workspace phase _ =>
    have empty := exited_following (BuildRun.commands builder workspace run.request) rfl exited
    cases empty
  | _ => exact False.elim exited

/-- **What a linker left is at its name** until the build publishes it. -/
theorem Comes.left (confined : crowd.programs.Confined) (sound : crowd.world.files.Sound)
    (comes : crowd.Comes choices world runs) (apart : crowd.Apart choices) :
    ∀ (index : Nat) (run : BuildRun State), runs[index]? = some run → Exited run →
      ∀ staging place, run.staging? = some staging →
        world.files.placeOf crowd.setting.cwd staging = some place →
        crowd.Left choices index place (world.files.get? place) := by
  refine comes.apart_induction confined sound (motive := fun choices world runs =>
    ∀ (index : Nat) (run : BuildRun State), runs[index]? = some run → Exited run →
      ∀ staging place, run.staging? = some staging →
        world.files.placeOf crowd.setting.cwd staging = some place →
        crowd.Left choices index place (world.files.get? place)) ?_ ?_ ?_ apart
  · intro index run listed exited
    rw [List.getElem?_map, Option.map_eq_some_iff] at listed
    obtain ⟨_, _, rfl⟩ := listed
    exact exited.elim
  · intro choices choice before after runs _ _ files ih index run listed exited staging place holds
      denotes
    rw [files] at denotes ⊢
    exact (ih index run listed exited staging place holds denotes).mono (List.prefix_append ..)
  · intro choices choice before after runs index run run' events turns turn ih other run'' listed'
      exited staging place holds denotes
    have placed := turns.earlier.placed confined sound
      (turns.apart.shorter (List.prefix_append ..))
    by_cases same : other = index
    · subst same
      rw [turns.listed'] at listed'
      cases listed'
      obtain ⟨request, _, wired⟩ := turns.earlier.wired turns.listed
      cases turn with
      | own steps =>
        obtain ⟨exited', stagings, files⟩ := exited_of_step wired steps exited
        rw [files] at denotes ⊢
        exact (ih other run turns.listed exited' staging place (stagings ▸ holds) denotes).mono
          (List.prefix_append ..)
      | @process command _ _ since due later _ child _ phase _ _ _ follows _ =>
        obtain ⟨_, _, _, _, atStaging⟩ := wired.artifact phase
        have output := atStaging staging holds
        cases child with
        | running _ _ => exact exited.elim
        | ended status =>
          obtain ⟨links, succeeds⟩ := exited
          subst output
          exact .exited (List.prefix_refl _) turns.earlier turns.now turns.listed turns.listed' phase
            rfl links succeeds holds denotes rfl
    · rw [List.getElem?_set_ne (Ne.symm same)] at listed'
      obtain ⟨dir, name, ends, _⟩ := placed other run'' listed' staging holds
      obtain ⟨ends', kept⟩ := turns.staging_kept (placed index run turns.listed) same listed' holds ends
      rw [placeOf_of_ending ends'] at denotes
      cases denotes
      rw [kept]
      exact (ih other run'' listed' exited staging _ holds (placeOf_of_ending ends)).mono
        (List.prefix_append ..)

/-! ### What is at a place -/

/-- A complete file: the linker of a build left it when it ended with success, and all stages of the
build succeeded. -/
def Complete (crowd : Crowd State) (choices : List Choice) (entry : Entry) : Prop :=
  ∃ index place, crowd.Left choices index place (some entry) ∧
    ∃ world runs run, crowd.Moment choices world runs ∧ runs[index]? = some run ∧
      run.results.map StageResult.stage = Stage.order ∧
      ∀ result ∈ run.results, result.status.isSuccess = true

theorem Complete.mono {entry : Entry} (complete : crowd.Complete choices entry)
    (longer : choices <+: choices') : crowd.Complete choices' entry := by
  obtain ⟨index, place, left, world, runs, run, moment, rest⟩ := complete
  exact ⟨index, place, left.mono longer, world, runs, run, moment.mono longer, rest⟩

/-- What is at a place is what was there in the beginning, or a complete file, unless the place belongs to
a build or is a directory made for an output. -/
def Settled (crowd : Crowd State) (choices : List Choice) (fs : FileSystem) (place : Place) : Prop :=
  fs.get? place = crowd.world.files.get? place ∨
    (∃ entry, fs.get? place = some entry ∧ crowd.Complete choices entry) ∨
    crowd.Owned choices place ∨ crowd.Crossed choices place

theorem Settled.mono {fs fs' : FileSystem} (settled : crowd.Settled choices fs place)
    (same : fs'.get? place = fs.get? place) (longer : choices <+: choices') :
    crowd.Settled choices' fs' place := by
  unfold Settled at settled ⊢
  rw [same]
  rcases settled with begun | ⟨entry, found, complete⟩ | owned | crossed
  · exact .inl begun
  · exact .inr (.inl ⟨entry, found, complete.mono longer⟩)
  · exact .inr (.inr (.inl (owned.mono longer)))
  · exact .inr (.inr (.inr (crossed.mono longer)))

/-- All stages of a build that publishes succeeded. -/
theorem results_publishing {builder : Builder} {request : BuildRequest} {run : BuildRun State}
    (wired : run.Wired builder request) (phase : run.phase = .publishing) :
    run.results.map StageResult.stage = Stage.order ∧
      ∀ result ∈ run.results, result.status.isSuccess = true := by
  have stands := wired.2
  rw [phase] at stands
  obtain ⟨workspace, staging, _, _, same, succeeded⟩ := stands
  refine ⟨?_, succeeded⟩
  have stages := congrArg (List.map Prod.fst) same
  rw [List.map_map, List.map_map] at stages
  exact stages.trans (planned_stages builder request workspace (some staging))

/-- **What is at a place at every moment.** -/
theorem Comes.settled (confined : crowd.programs.Confined) (sound : crowd.world.files.Sound)
    (comes : crowd.Comes choices world runs) (apart : crowd.Apart choices) :
    ∀ place, crowd.Settled choices world.files place := by
  refine comes.apart_induction confined sound (motive := fun choices world _ =>
    ∀ place, crowd.Settled choices world.files place) ?_ ?_ ?_ apart
  · exact fun place => .inl rfl
  · exact fun _ _ files ih place => (ih place).mono (by rw [files]) (List.prefix_append ..)
  · intro choices choice before after runs index run run' events turns _ ih place
    have apart := turns.apart.shorter (List.prefix_append ..)
    have placed := turns.earlier.placed confined sound apart index run turns.listed
    cases turns.effect.frame turns.sound placed place with
    | kept same => exact (ih place).mono same (List.prefix_append ..)
    | owned owns =>
      exact .inr (.inr (.inl ⟨before, runs, run, turns.past, List.mem_of_getElem? turns.listed, owns⟩))
    | new owns _ =>
      exact .inr (.inr (.inl ⟨after, _, run', turns.now.moment, List.mem_of_getElem? turns.listed',
        owns⟩))
    | made _ path ancestor denotes _ _ =>
      exact .inr (.inr (.inr ⟨after, _, turns.now.moment,
        .inl ⟨run.request, turns.requested, .inr ⟨path, ancestor, denotes⟩⟩⟩))
    | moved phase _ source owns entry found arrives =>
      obtain ⟨staging, holds, denotes⟩ := owns
      obtain ⟨request, _, wired⟩ := turns.earlier.wired turns.listed
      have exited : Exited run := by
        unfold Exited
        rw [phase]
        exact True.intro
      have left := turns.earlier.left confined sound apart index run turns.listed exited staging source
        holds denotes
      rw [found] at left
      exact .inr (.inl ⟨entry, arrives, index, source, left.mono (List.prefix_append ..), before, runs,
        run, turns.past, turns.listed, results_publishing wired phase⟩)

/-- **What an output path denotes in the beginning it denotes at every moment.** -/
theorem Comes.denotes (confined : crowd.programs.Confined) (sound : crowd.world.files.Sound)
    (comes : crowd.Comes choices world runs) (apart : crowd.Apart choices) {request : BuildRequest}
    (asked : request ∈ crowd.requests)
    (denoted : crowd.world.files.placeOf crowd.setting.cwd request.output = some place) :
    world.files.placeOf crowd.setting.cwd request.output = some place := by
  refine comes.apart_induction confined sound (motive := fun _ world _ =>
    world.files.placeOf crowd.setting.cwd request.output = some place) denoted ?_ ?_ apart
  · intro choices choice before after runs _ _ files ih
    rwa [files]
  · intro choices choice before after runs index run run' events turns _ ih
    have placed := turns.earlier.placed confined sound
      (turns.apart.shorter (List.prefix_append ..)) index run turns.listed
    exact turns.output_kept placed asked ih

/-- **What is seen at an output path**, at every moment of every run of any number of builds, is what was
there before them or a complete file, as long as the names that are drawn and the outputs are apart; and
what the path denotes stays the same. -/
theorem outputs_atomic (crowd : Crowd State) (confined : crowd.programs.Confined)
    (sound : crowd.world.files.Sound) {choices : List Choice} {world : World}
    {runs : List (BuildRun State)} (comes : crowd.Comes choices world runs)
    (apart : crowd.Apart choices) {request : BuildRequest} (asked : request ∈ crowd.requests) :
    (∀ place, crowd.world.files.placeOf crowd.setting.cwd request.output = some place →
      world.files.placeOf crowd.setting.cwd request.output = some place) ∧
    ∀ place, world.files.placeOf crowd.setting.cwd request.output = some place →
      world.files.get? place = crowd.world.files.get? place ∨
        ∃ entry, world.files.get? place = some entry ∧ crowd.Complete choices entry := by
  refine ⟨fun place => comes.denotes confined sound apart asked, fun place denotes => ?_⟩
  have aimed : crowd.Aimed choices place := ⟨world, runs, request, comes.moment, asked, denotes⟩
  rcases comes.settled confined sound apart place with begun | complete | owned | crossed
  · exact .inl begun
  · exact .inr complete
  · exact absurd aimed (apart.names place owned).1
  · exact absurd crossed (apart.outputs place aimed)

/-! ### Surveying a run -/

/-- The builds and their world at every moment from one on. -/
def passed (crowd : Crowd State) (system : System State) : List Choice → List (System State)
  | [] => [system]
  | choice :: later =>
    system :: crowd.passed (system.act crowd.programs crowd.setting crowd.builder choice) later

theorem run_mem_passed (crowd : Crowd State) (system : System State) (earlier later : List Choice) :
    system.run crowd.programs crowd.setting crowd.builder earlier
      ∈ crowd.passed system (earlier ++ later) := by
  induction earlier generalizing system with
  | nil => cases later <;> exact List.mem_cons_self
  | cons choice earlier ih => exact List.mem_cons_of_mem _ (ih _)

/-- The moments of a run are those that it passes. -/
theorem Moment.passed (moment : crowd.Moment choices world runs) :
    ∃ system ∈ crowd.passed (crowd.after []) choices,
      system.world = world ∧ system.jobs = runs.map Job.build := by
  obtain ⟨_, ⟨later, rfl⟩, comes⟩ := moment
  exact ⟨_, crowd.run_mem_passed _ _ later, comes.world_eq, comes.jobs_eq⟩

/-- What the path of the workspace that a job holds leads to. -/
def rootsOf (crowd : Crowd State) (files : FileSystem) : Job State → List Place
  | .build run => run.workspace?.toList.flatMap fun workspace =>
      [false, true].filterMap fun follow =>
        match files.find crowd.setting.cwd follow workspace.path with
        | .ok (root, _) => some root
        | .error _ => none
  | .stage _ => []

/-- What is on the way to the outputs and to the names for the linkers. -/
def waysOf (crowd : Crowd State) (system : System State) : List Place :=
  (crowd.requests.flatMap fun request =>
    system.world.files.lookedAt crowd.setting.cwd request.output ++
      (Path.ancestors (Staging.directory request.output)).filterMap
        (system.world.files.placeOf crowd.setting.cwd)) ++
  (system.jobs.filterMap held?).flatMap (system.world.files.lookedAt crowd.setting.cwd)

/-- What builds own, aim at and cross in some moments. -/
structure Survey where
  roots : List Place
  names : List (Nat × Place)
  aims : List Place
  ways : List Place

def survey (crowd : Crowd State) (systems : List (System State)) : Survey where
  roots := systems.flatMap fun system => system.jobs.flatMap (crowd.rootsOf system.world.files)
  names := systems.flatMap fun system => system.jobs.zipIdx.filterMap fun (job, index) =>
    (held? job).bind fun staging =>
      (system.world.files.placeOf crowd.setting.cwd staging).map (index, ·)
  aims := systems.flatMap fun system => crowd.requests.filterMap fun request =>
    system.world.files.placeOf crowd.setting.cwd request.output
  ways := systems.flatMap crowd.waysOf

/-- Nothing in a survey is in the way of anything else. -/
def Survey.isClear (survey : Survey) : Bool :=
  survey.aims.all (fun place => !survey.ways.contains place) &&
    (survey.aims ++ survey.ways).all (fun place =>
      survey.roots.all (fun root => !isWithin root place) &&
        survey.names.all fun named => named.2 != place) &&
    survey.names.all fun named =>
      survey.roots.all (fun root => !isWithin root named.2) &&
        survey.names.all fun named' => named.2 != named'.2 || named.1 == named'.1

/-- The whole run. -/
def surveyed (crowd : Crowd State) (choices : List Choice) : Survey :=
  crowd.survey (crowd.passed (crowd.after []) choices)

theorem Aimed.surveyed (aimed : crowd.Aimed choices place) : place ∈ (crowd.surveyed choices).aims := by
  obtain ⟨world, runs, request, moment, asked, denotes⟩ := aimed
  obtain ⟨system, member, rfl, _⟩ := moment.passed
  exact List.mem_flatMap.mpr ⟨system, member, List.mem_filterMap.mpr ⟨request, asked, denotes⟩⟩

theorem Crossed.surveyed (crossed : crowd.Crossed choices place) :
    place ∈ (crowd.surveyed choices).ways := by
  obtain ⟨world, runs, moment, ways⟩ := crossed
  obtain ⟨system, member, rfl, jobs⟩ := moment.passed
  refine List.mem_flatMap.mpr ⟨system, member, List.mem_append.mpr ?_⟩
  rcases ways with ⟨request, asked, looked | above⟩ | ⟨run, listed, staging, holds, looked⟩
  · exact .inl (List.mem_flatMap.mpr ⟨request, asked, List.mem_append_left _ looked⟩)
  · exact .inl (List.mem_flatMap.mpr ⟨request, asked, List.mem_append_right _
      (List.mem_filterMap.mpr above)⟩)
  · refine .inr (List.mem_flatMap.mpr ⟨staging, List.mem_filterMap.mpr ⟨.build run, ?_, holds⟩, looked⟩)
    rw [jobs]
    exact List.mem_map_of_mem listed

theorem rootsOf_surveyed (moment : crowd.Moment choices world runs) {run : BuildRun State}
    (listed : run ∈ runs) (inside : run.InWorkspace crowd.setting world.files place) :
    ∃ root ∈ (crowd.surveyed choices).roots, isWithin root place = true := by
  obtain ⟨workspace, follow, root, entry, holds, finds, within⟩ := inside
  obtain ⟨system, member, rfl, jobs⟩ := moment.passed
  refine ⟨root, List.mem_flatMap.mpr ⟨system, member, List.mem_flatMap.mpr ⟨.build run, ?_, ?_⟩⟩, within⟩
  · rw [jobs]
    exact List.mem_map_of_mem listed
  · refine List.mem_flatMap.mpr ⟨workspace, Option.mem_toList.mpr holds,
      List.mem_filterMap.mpr ⟨follow, by cases follow <;> simp, ?_⟩⟩
    rw [finds]

theorem names_surveyed (moment : crowd.Moment choices world runs) {index : Nat} {run : BuildRun State}
    (listed : runs[index]? = some run) (named : run.AtStaging crowd.setting world.files place) :
    (index, place) ∈ (crowd.surveyed choices).names := by
  obtain ⟨staging, holds, denotes⟩ := named
  obtain ⟨system, member, rfl, jobs⟩ := moment.passed
  refine List.mem_flatMap.mpr ⟨system, member, List.mem_filterMap.mpr ⟨(.build run, index), ?_, ?_⟩⟩
  · rw [List.mem_zipIdx_iff_getElem?, jobs, List.getElem?_map, listed]
    rfl
  · have held : held? (.build run) = some staging := holds
    simp only [held, denotes, Option.bind_some, Option.map_some]

/-- **A run whose survey is clear** is one in which all is apart. -/
theorem apart_of_isClear (clear : (crowd.surveyed choices).isClear = true) : crowd.Apart choices := by
  simp only [Survey.isClear, Bool.and_eq_true, List.all_eq_true, Bool.not_eq_true', bne_iff_ne,
    Bool.or_eq_true, beq_iff_eq, List.contains_eq_mem, decide_eq_false_iff_not] at clear
  obtain ⟨⟨outputs, names⟩, distinct⟩ := clear
  have unowned {place : Place} (seen : place ∈ (crowd.surveyed choices).aims ++ (crowd.surveyed choices).ways) :
      ¬ crowd.Owned choices place := by
    rintro ⟨world, runs, run, moment, member, inside | named⟩
    · obtain ⟨root, listed, within⟩ := rootsOf_surveyed moment member inside
      exact absurd within (by rw [(names place seen).1 root listed]; exact Bool.false_ne_true)
    · obtain ⟨index, listed⟩ := List.getElem?_of_mem member
      exact (names place seen).2 _ (names_surveyed moment listed named) rfl
  refine ⟨fun place aimed crossed => outputs place aimed.surveyed crossed.surveyed,
    fun place owned => ⟨fun aimed => unowned (List.mem_append_left _ aimed.surveyed) owned,
      fun crossed => unowned (List.mem_append_right _ crossed.surveyed) owned⟩, ?_⟩
  intro world runs moment index other run run' listed listed' place named
  have clear := distinct _ (names_surveyed moment listed named)
  refine ⟨fun inside => ?_, fun named' => ?_⟩
  · obtain ⟨root, member, within⟩ := rootsOf_surveyed moment (List.mem_of_getElem? listed') inside
    exact absurd within (by rw [clear.1 root member]; exact Bool.false_ne_true)
  · exact ((clear.2 _ (names_surveyed moment listed' named')).resolve_left fun differs =>
      differs rfl).symm

/-- Without a name for a linker in a run there is no complete file. -/
theorem not_complete (unnamed : (crowd.surveyed choices).names = []) (entry : Entry) :
    ¬ crowd.Complete choices entry := by
  rintro ⟨index, place, left, _⟩
  obtain ⟨shorter, _, after, _, listed, _, _, _, _, holds, denotes, _⟩ := left
  have named := names_surveyed ⟨_, shorter, after⟩ listed ⟨_, holds, denotes⟩
  rw [unnamed] at named
  cases named

/-! ### Two small builds towards one output -/

/-- Two builds towards one output. The generator draws `a` and `b` for their workspaces, and then `c`. -/
def rivals : Crowd Launch :=
  small (fun drawn => if drawn = 0 then [0x61] else if drawn = 1 then [0x62] else [0x63])
    [Bytes.ofText "/t/x", Bytes.ofText "/t/x"]

/-- Both builds open their workspaces, and the second one goes on until its executable is published. -/
def overtaking : List Choice :=
  [.job 0, .job 0] ++ throughDraw 1 ++ [.job 1] ++ throughStage 1 ++ [.job 1]

set_option maxRecDepth 4000 in
theorem surveyed_rivals : ((rivals.surveyed overtaking).isClear,
    (rivals.after overtaking).world.files.get? [[0x78], [0x74]])
      = (true, some (.file Mode.ofFile
        (Bytes.ofText "/t/calccb/expr.o/t/calccb/runtime.o-lc-lm-o/t/.calc-out-c"))) := by
  cbv

/-- The executable that the second of the two builds publishes is a complete file. -/
theorem outputs_atomic_rivals : ∃ world runs entry, rivals.Comes overtaking world runs ∧
    world.files.get? [[0x78], [0x74]] = some entry ∧ rivals.Complete overtaking entry := by
  obtain ⟨world, runs, comes⟩ := rivals.exists_comes overtaking
  have seen := surveyed_rivals
  rw [comes.world_eq, Prod.mk.injEq] at seen
  obtain ⟨clear, found⟩ := seen
  obtain ⟨same, atomic⟩ := outputs_atomic rivals (stamp_confined _ _) (Solo.small_sound stampers [])
    comes (apart_of_isClear clear) List.mem_cons_self
  have denotes := same [[0x78], [0x74]] (by cbv)
  rcases atomic _ denotes with begun | ⟨entry, found', complete⟩
  · rw [found] at begun
    cases begun
  · exact ⟨world, runs, entry, comes, found', complete⟩

/-! ### Outputs that are not apart -/

/-- What is seen at an output path was not there in the beginning and is no complete file. -/
def Exposed (crowd : Crowd State) (choices : List Choice) : Prop :=
  ∃ world runs request place entry, crowd.Comes choices world runs ∧ request ∈ crowd.requests ∧
    world.files.placeOf crowd.setting.cwd request.output = some place ∧
    world.files.get? place = some entry ∧ crowd.world.files.get? place = none ∧
    ¬ crowd.Complete choices entry

theorem exposed_small {names : Nat → Bytes} {output : Bytes} {entry : Entry}
    (seen : (((small names [output]).surveyed choices).names,
      ((small names [output]).after choices).world.files.placeOf [] output,
      ((small names [output]).after choices).world.files.get? place) = ([], some place, some entry))
    (free : (small names [output]).world.files.get? place = none) :
    (small names [output]).Exposed choices := by
  obtain ⟨world, runs, comes⟩ := (small names [output]).exists_comes choices
  rw [comes.world_eq, Prod.mk.injEq, Prod.mk.injEq] at seen
  obtain ⟨unnamed, denotes, found⟩ := seen
  exact ⟨world, runs, _, place, entry, comes, List.mem_cons_self, denotes, found, free,
    not_complete unnamed entry⟩

/-- A build takes all steps up to that in which it makes the directories for its output. -/
def preparing : List Choice :=
  [.job 0, .job 0] ++ throughStage 0 ++ throughStage 0 ++ throughStage 0 ++ [.job 0]

set_option maxRecDepth 4000 in
theorem surveyed_detour :
    (((small (fun _ => [0x61]) [Bytes.ofText "/t/d/../d"]).surveyed preparing).names,
      ((small (fun _ => [0x61]) [Bytes.ofText "/t/d/../d"]).after preparing).world.files.placeOf []
        (Bytes.ofText "/t/d/../d"),
      ((small (fun _ => [0x61]) [Bytes.ofText "/t/d/../d"]).after preparing).world.files.get?
        [[0x64], [0x74]])
      = ([], some [[0x64], [0x74]], some (.directory Mode.ofDirectory)) := by
  cbv

set_option maxRecDepth 4000 in
theorem surveyed_insider :
    (((small (fun _ => [0x61]) [Bytes.ofText "/t/calcca/expr.o"]).surveyed preparing).names,
      ((small (fun _ => [0x61]) [Bytes.ofText "/t/calcca/expr.o"]).after preparing).world.files.placeOf
        [] (Bytes.ofText "/t/calcca/expr.o"),
      ((small (fun _ => [0x61]) [Bytes.ofText "/t/calcca/expr.o"]).after preparing).world.files.get?
        [Bytes.ofText "expr.o", Bytes.ofText "calcca", [0x74]])
      = ([], some [Bytes.ofText "expr.o", Bytes.ofText "calcca", [0x74]], some (.file Mode.ofFile
        (Bytes.ofText "--filetype=obj/t/calcca/expr.ll-o/t/calcca/expr.o"))) := by
  cbv

/-- **An output that is on the way to itself, or in a workspace, is seen before its executable is
there**: a directory made for it, or what the third stage writes. -/
theorem outputs_exposed :
    (small (fun _ => [0x61]) [Bytes.ofText "/t/d/../d"]).Exposed preparing ∧
      (small (fun _ => [0x61]) [Bytes.ofText "/t/calcca/expr.o"]).Exposed preparing :=
  ⟨exposed_small surveyed_detour (by decide), exposed_small surveyed_insider (by decide)⟩

end Crowd

end CalcBuild

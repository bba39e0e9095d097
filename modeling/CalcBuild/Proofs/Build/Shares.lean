/-
**The builds, and each of them on its own.**

At every moment the names that have been drawn are shared out among the builds, and each build is where it
is when it has the world for itself and draws the names of its share. What another build does is nothing to
a build on its own, and leaves what it has of its own alone.

* `System.actJob_able`, `System.actChild_moves`: what one choice comes to for a build;
* `Choice.alone`, `Crowd.alone`: one of the builds on its own;
* `Mirrored.frame`: what a turn of another build leaves of both sides;
* `Crowd.Split`, `Split.turn`, `Comes.split`: the builds and each of them on its own, at every moment.
-/

import CalcBuild.Proofs.Build.Lockstep

namespace CalcBuild

open Files FileSystem

variable {State : Type}

/-! ### Turns in a system -/

/-- A process after a move, as its parent sees it. -/
def Child.moved (wakes clock : Nat) : Move State → Child State
  | .goesOn next | .prints _ _ next | .signals _ next => .running next wakes
  | .sleeps pause next => .running next (clock + pause)
  | .ends status => .ended status

namespace System

variable {programs : Programs State} {setting : Setting} {builder : Builder} {system : System State}
  {index : Nat} {run : BuildRun State}

theorem actJob_absent (absent : system.jobs[index]? = none) :
    system.actJob programs setting builder index = system := by
  simp only [actJob, absent]

theorem actJob_unable (listed : system.jobs[index]? = some (.build run))
    (unable : ¬ run.isAble builder system.world.clock = true) :
    system.actJob programs setting builder index = system := by
  unfold actJob
  rw [listed]
  cases system.endedBy? with
  | none => exact if_neg unable
  | some signal => rfl

theorem actJob_able (listed : system.jobs[index]? = some (.build run)) (alive : system.endedBy? = none)
    (able : run.isAble builder system.world.clock = true) {world' : World} {run' : BuildRun State}
    {events : List Event} (acts : run.act programs setting builder system.world = (world', run', events)) :
    (system.actJob programs setting builder index).world = world' ∧
      (system.actJob programs setting builder index).jobs = system.jobs.set index (.build run') := by
  simp only [actJob, listed, alive, Job.isAble, able, if_true, Job.act, acts, and_self]

theorem actChild_absent (absent : system.jobs[index]? = none) :
    system.actChild programs setting index = system := by
  simp only [actChild, absent]

/-- The process of a build takes no step if there is none that runs and is awake. -/
theorem actChild_idle (listed : system.jobs[index]? = some (.build run))
    (idle : ∀ state wakes, (Job.build run).child? = some (.running state wakes) →
      ¬ wakes ≤ system.world.clock) : system.actChild programs setting index = system := by
  unfold actChild
  rw [listed]
  dsimp only
  split
  · rename_i state wakes waits
    exact if_neg (idle state wakes waits)
  · rfl

theorem actChild_moves (setting : Setting) (listed : system.jobs[index]? = some (.build run))
    {command : Command} {state : State} {wakes since due : Nat} {later : List Command}
    (phase : run.phase = .running ⟨command, .waiting (.running state wakes) since due⟩ later)
    (awake : wakes ≤ system.world.clock)
    (silent : ∀ signal next, (programs.step system.world.files state).2 ≠ .signals signal next) :
    (system.actChild programs setting index).world
        = { system.world with files := (programs.step system.world.files state).1 } ∧
      (system.actChild programs setting index).jobs = system.jobs.set index
        (.build { run with phase := .running ⟨command, .waiting (Child.moved wakes system.world.clock
          (programs.step system.world.files state).2) since due⟩ later }) := by
  simp only [actChild, listed, BuildRun.child_of_phase phase, awake, if_true,
    BuildRun.withChild_of_phase phase]
  cases moves : (programs.step system.world.files state).2 with
  | signals signal next => exact absurd moves (silent signal next)
  | _ => exact ⟨rfl, rfl⟩

/-- Nothing ends the driver where no process sends signals. -/
theorem alive_of_silent (silent : ∀ {fs : FileSystem} {state next : State} {signal : Nat},
      (programs.step fs state).2 ≠ .signals signal next) (system : System State)
    (alive : system.endedBy? = none) (choices : List Choice) :
    (system.run programs setting builder choices).endedBy? = none := by
  induction choices using List.reverseRecOn with
  | nil => exact alive
  | append_singleton choices choice ih =>
    unfold run
    rw [List.foldl_append]
    exact endedBy?_act choice ih fun _ _ _ _ _ _ _ sends => absurd sends silent

end System

/-! ### Builds on their own -/

/-- A choice as a build finds it that has the world for itself: what other builds do is nothing. -/
def Choice.alone (index : Nat) : Choice → Choice
  | .job other => if other = index then .job 0 else .pass 0
  | .child other => if other = index then .child 0 else .pass 0
  | .pass time => .pass time
  | .raise signal => .raise signal

namespace Crowd

variable {crowd : Crowd State} {ground : Ground} {always : List Bytes} {drawn : Nat}

/-! ### What other builds leave alone -/

/-- **What a turn of another build leaves of both sides**: it changes nothing but its own home, which
shares nothing with that of the build but missing directories. -/
theorem Mirrored.frame (lies : crowd.Lies ground always drawn) {index other : Nat}
    {request request' : BuildRequest} (asked : crowd.requests[index]? = some request)
    (asked' : crowd.requests[other]? = some request') (differ : index ≠ other)
    {drew drew' : List Nat} {upto upto' : Nat} {run run' : BuildRun State}
    {fs fs' own own' : FileSystem}
    (mirrored : crowd.Mirrored ground drawn index request drew upto run fs own)
    (turned : crowd.Mirrored ground drawn other request' drew' upto' run' fs' own')
    (later : upto ≤ upto') (inside : upto' ≤ drawn) (disjoint : ∀ number ∈ drew, number ∉ drew')
    (changes : ∀ place, fs'.get? place = fs.get? place ∨
      ground.Home crowd.setting.names other drew' place)
    (stays : (ground.site other).Stays fs fs') :
    crowd.Mirrored ground drawn index request drew upto' run fs' own := by
  have early := mirrored.before (later.trans inside)
  have early' := turned.before inside
  have listed := listed_of_asked asked
  have listed' := listed_of_asked asked'
  have owned {place : Place} (own : ground.Own crowd.setting.names index drew place) :
      fs'.get? place = fs.get? place := (changes place).resolve_right fun home =>
    lies.own_not_makes asked early own
      (lies.home_apart listed listed' differ early early' disjoint own.home home).1
  have named {number : Nat} (member : number ∈ drew) {place : Place}
      (named : ground.Named crowd.setting.names index number place) : fs'.get? place = fs.get? place :=
    owned (.inr ⟨number, member, named⟩)
  have calm {place : Place} (calm : crowd.Calm ground drawn place) :
      fs'.get? place = fs.get? place :=
    (changes place).resolve_right (calm.not_home asked' early')
  have made {place : Place} (makes : (ground.site index).Makes place) :
      fs'.get? place = fs.get? place ∨ fs'.get? place = some (.directory Mode.ofDirectory) ∧
        fs'.mayChange (ground.site index).base = true := by
    rcases changes place with same | home
    · exact .inl same
    · obtain ⟨_, makes'⟩ := lies.home_apart listed listed' differ early early' disjoint
        (.inr (.inl makes)) home
      rw [lies.bases_eq asked asked' makes makes']
      rcases stays place makes' with same | directory
      · exact .inl same
      · exact .inr ⟨directory, ((turned.part.listed place makes').resolve_left (by
          rw [directory]; exact nofun)).2⟩
  exact { mirrored with
    sound := turned.sound
    early := mirrored.before later
    steady := turned.steady
    agree := fun place own => by rw [owned own, mirrored.agree place own]
    fresh := fun number late before place named => by
      obtain ⟨was, wasOwn⟩ := mirrored.fresh number (later.trans late) before place named
      refine ⟨((changes place).resolve_right ?_).trans was, wasOwn⟩
      exact lies.fresh_not_home asked' listed turned.early inside late before named
    part :=
      { ordinary := mirrored.part.ordinary
        listed := fun place below => by
          rcases made below with same | made
          · rw [same, mayChange_congr (calm (lies.base_calm asked))]
            exact mirrored.part.listed place below
          · exact .inr made }
    grown := fun grown => by
      obtain ⟨full, lands⟩ := mirrored.grown grown
      refine ⟨full.congr fun place below => ?_, lands⟩
      rcases made below with same | ⟨directory, _⟩
      · exact same
      · rw [directory, full.get? below]
    settles :=
      { housed := fun workspace holds => by
          obtain ⟨number, member, path, housed⟩ := mirrored.settles.housed workspace holds
          exact ⟨number, member, path, housed.congr fun place within => named member (.inl within)⟩
        staged := fun staging holds => by
          obtain ⟨number, member, path, held⟩ := mirrored.settles.staged staging holds
          refine ⟨number, member, path, held.congr ?_⟩
          rw [named member (.inr rfl)]
          exact held.regular
        swept := fun number member place at_ => by
          rw [named member at_]
          exact mirrored.settles.swept number member place at_ } }

/-! ### The builds and each of them on its own -/

/-- One of the builds, on its own in the world as it is in the beginning, with a generator of names. -/
def alone (crowd : Crowd State) (request : BuildRequest) (names : Nat → Bytes) : Solo State where
  programs := crowd.programs
  setting := crowd.setting.renamed names
  builder := crowd.builder
  world := crowd.world.beside crowd.world.files 0
  request := request

/-- **Each build is where it is on its own**: the names that are drawn are shared out, and with its share
each build comes to the same when it has the world for itself. -/
structure Split (crowd : Crowd State) (ground : Ground) (drawn : Nat) (choices : List Choice)
    (world : World) (runs : List (BuildRun State)) (share : Nat → List Nat) : Prop where
  all : runs.length = crowd.requests.length
  apart : ∀ first second, first ≠ second → ∀ number ∈ share first, number ∉ share second
  early : ∀ index, ∀ number ∈ share index, number < world.drawn
  kept : ∀ place,
    (∀ index < crowd.requests.length,
      ¬ ground.Home crowd.setting.names index (share index) place) →
    world.files.get? place = crowd.world.files.get? place
  alone : ∀ index request run, crowd.requests[index]? = some request → runs[index]? = some run →
    ∀ names, Replays crowd.setting.names (share index) names →
    ∃ own trace, (crowd.alone request names).Comes (choices.map (Choice.alone index))
        (world.beside own (share index).length) run trace ∧
      crowd.Mirrored ground drawn index request (share index) world.drawn run world.files own

variable {choices : List Choice} {choice : Choice} {world world' : World}
  {runs runs' : List (BuildRun State)} {share : Nat → List Nat}

/-- There is a generator that gives the names that were drawn. -/
theorem exists_replays (names : Nat → Bytes) (drew : List Nat) : ∃ names', Replays names drew names' :=
  ⟨fun position => names (drew[position]?.getD 0), fun position number drawn => by
    simp only [drawn, Option.getD_some]⟩

/-- A build on its own after one more choice. -/
theorem alone_concat (request : BuildRequest) (names : Nat → Bytes) (choices : List Choice)
    (choice : Choice) (index : Nat) :
    (crowd.alone request names).after ((choices ++ [choice]).map (Choice.alone index))
      = ((crowd.alone request names).after (choices.map (Choice.alone index))).act crowd.programs
        (crowd.setting.renamed names) crowd.builder (choice.alone index) := by
  rw [List.map_append]
  exact List.foldl_append

/-- Before the first step a build is where it is on its own. -/
theorem Lies.mirrored_start (lies : crowd.Lies ground always drawn) {index : Nat}
    {request : BuildRequest} (asked : crowd.requests[index]? = some request) :
    crowd.Mirrored ground drawn index request [] crowd.world.drawn (BuildRun.start request)
      crowd.world.files crowd.world.files where
  sound := lies.sound
  soundOwn := lies.sound
  early := nofun
  steady := fun _ _ => rfl
  steadyOwn := fun _ _ => rfl
  agree := fun _ _ => rfl
  fresh := fun _ _ _ _ _ => ⟨rfl, rfl⟩
  part := lies.partly_start asked
  partOwn := lies.partly_start asked
  grown := fun grown => absurd grown (not_grown rfl id)
  grownOwn := fun grown => absurd grown (not_grown rfl id)
  settles := ⟨nofun, nofun, nofun⟩

theorem Lies.split_start (lies : crowd.Lies ground always drawn) :
    crowd.Split ground drawn [] crowd.world (crowd.requests.map .start) fun _ => [] where
  all := List.length_map ..
  apart := nofun
  early := nofun
  kept := fun _ _ => rfl
  alone := by
    intro index request run asked listed names _
    rw [List.getElem?_map, asked] at listed
    cases listed
    exact ⟨crowd.world.files, [], ⟨rfl, rfl, rfl⟩, lies.mirrored_start asked⟩

/-- Time passes, or nothing happens, for all builds and for each of them on its own. -/
theorem Split.idle (split : crowd.Split ground drawn choices world runs share)
    (files : world'.files = world.files) (numbers : world'.drawn = world.drawn)
    (quiet : ∀ index request run names own count trace, crowd.requests[index]? = some request →
      runs[index]? = some run →
      (crowd.alone request names).Comes (choices.map (Choice.alone index)) (world.beside own count) run
        trace →
      ∃ trace', (crowd.alone request names).Comes ((choices ++ [choice]).map (Choice.alone index))
        (world'.beside own count) run trace') :
    crowd.Split ground drawn (choices ++ [choice]) world' runs share where
  all := split.all
  apart := split.apart
  early := by
    rw [numbers]
    exact split.early
  kept := by
    rw [files]
    exact split.kept
  alone := by
    intro index request run asked listed names replays
    obtain ⟨own, trace, comes, mirrored⟩ := split.alone index request run asked listed names replays
    obtain ⟨trace', comes'⟩ := quiet index request run names own _ trace asked listed comes
    refine ⟨own, trace', comes', ?_⟩
    rw [files, numbers]
    exact mirrored

/-- **One of the builds takes a turn**, which comes to the same on its own. -/
theorem Split.turn (lies : crowd.Lies ground always drawn)
    (split : crowd.Split ground drawn choices world runs share) {index : Nat} {request : BuildRequest}
    {run run' : BuildRun State} (asked : crowd.requests[index]? = some request)
    (listed : runs[index]? = some run) (later : world.drawn ≤ world'.drawn)
    (bounded : world'.drawn ≤ drawn)
    (rests : ∀ other request' names own count trace run'', other ≠ index →
      (crowd.alone request' names).Comes (choices.map (Choice.alone other)) (world.beside own count)
        run'' trace →
      ∃ trace', (crowd.alone request' names).Comes ((choices ++ [choice]).map (Choice.alone other))
        (world'.beside own count) run'' trace')
    (turns : ∀ names own trace,
      Replays crowd.setting.names (drawing (share index) world world') names →
      (crowd.alone request names).Comes (choices.map (Choice.alone index))
        (world.beside own (share index).length) run trace →
      crowd.Mirrored ground drawn index request (share index) world.drawn run world.files own →
      ∃ own' trace', (crowd.alone request names).Comes
          ((choices ++ [choice]).map (Choice.alone index))
          (world'.beside own' (drawing (share index) world world').length) run' trace' ∧
        crowd.Matched ground drawn index request (share index) world world' run' own own') :
    crowd.Split ground drawn (choices ++ [choice]) world' (runs.set index run')
      (Function.update share index (drawing (share index) world world')) := by
  -- What the turn changes is told by one build on its own, whichever generator it has.
  obtain ⟨names₀, replays₀⟩ := exists_replays crowd.setting.names (drawing (share index) world world')
  obtain ⟨own₀, trace₀, comes₀, mirrored₀⟩ :=
    split.alone index request run asked listed names₀ replays₀.of_append
  obtain ⟨own₁, _, _, matched⟩ := turns names₀ own₀ trace₀ replays₀ comes₀ mirrored₀
  have changes (place : Place) : world'.files.get? place = world.files.get? place ∨
      ground.Home crowd.setting.names index (drawing (share index) world world') place :=
    (matched.together place).imp And.left And.left
  have disjoint {other : Nat} (differ : other ≠ index) :
      ∀ number ∈ share other, number ∉ drawing (share index) world world' := by
    intro number member new
    rcases List.mem_append.mp new with old | new
    · exact split.apart other index differ number member old
    · have before := split.early other number member
      have late := (mem_drawnUntil.mp new).1
      omega
  refine ⟨List.length_set.trans split.all, fun first second differ => ?_, fun other => ?_,
    fun place away => ?_, fun other request' run'' asked' listed' names replays => ?_⟩
  · rw [Function.update_apply, Function.update_apply]
    split
    · rename_i here
      subst here
      rw [if_neg differ.symm]
      exact fun number member member' => disjoint differ.symm number member' member
    · split
      · exact disjoint ‹_›
      · exact split.apart first second differ
  · rw [Function.update_apply]
    split
    · exact matched.mirrored.early
    · exact fun number member => Nat.lt_of_lt_of_le (split.early other number member) later
  · have home {other : Nat} (bound : other < crowd.requests.length) :
        ¬ ground.Home crowd.setting.names other (share other) place := fun home => by
      refine away other bound (home.mono ?_)
      rw [Function.update_apply]
      split
      · rename_i here
        subst here
        exact List.subset_append_left _ _
      · exact List.Subset.refl _
    rw [← split.kept place fun other bound => home bound]
    refine (changes place).resolve_right fun changed => ?_
    refine away index (listed_of_asked asked) ?_
    rw [Function.update_self]
    exact changed
  · by_cases here : other = index
    · subst here
      rw [asked] at asked'
      cases asked'
      rw [List.getElem?_set_self (List.getElem?_eq_some_iff.mp listed).1] at listed'
      cases listed'
      rw [Function.update_self] at replays ⊢
      obtain ⟨own, trace, comes, mirrored⟩ :=
        split.alone other request run asked listed names replays.of_append
      obtain ⟨own', trace', comes', matched'⟩ := turns names own trace replays comes mirrored
      exact ⟨own', trace', comes', matched'.mirrored⟩
    · rw [List.getElem?_set_ne (Ne.symm here)] at listed'
      rw [Function.update_of_ne here] at replays ⊢
      obtain ⟨own, trace, comes, mirrored⟩ :=
        split.alone other request' run'' asked' listed' names replays
      obtain ⟨trace', comes'⟩ := rests other request' names own _ trace run'' here comes
      exact ⟨own, trace', comes', mirrored.frame lies asked' asked here matched.mirrored later bounded
        (disjoint here) changes matched.stays⟩

/-- **What one more choice does to a build on its own.** -/
theorem alone_next (tame : crowd.programs.Tame always) {index : Nat} {request : BuildRequest}
    {names : Nat → Bytes} {own own' : FileSystem} {count count' : Nat} {run run' : BuildRun State}
    {trace : List Event}
    (comes : (crowd.alone request names).Comes (choices.map (Choice.alone index))
      (world.beside own count) run trace)
    (acts : ∀ system : System State, system.world = world.beside own count →
      system.jobs = [.build run] → system.endedBy? = none →
      (system.act crowd.programs (crowd.setting.renamed names) crowd.builder
          (choice.alone index)).world = world'.beside own' count' ∧
        (system.act crowd.programs (crowd.setting.renamed names) crowd.builder
          (choice.alone index)).jobs = [.build run']) :
    ∃ trace', (crowd.alone request names).Comes ((choices ++ [choice]).map (Choice.alone index))
      (world'.beside own' count') run' trace' := by
  obtain ⟨moment, jobs⟩ := acts _ comes.world_eq comes.jobs_eq
    (System.alive_of_silent tame.silent _ rfl _)
  refine ⟨_, ?_, ?_, rfl⟩
  · rw [alone_concat]
    exact moment
  · rw [alone_concat]
    exact jobs

/-- What another build does is nothing for a build on its own. -/
theorem alone_pass (tame : crowd.programs.Tame always) {index : Nat}
    (passes : choice.alone index = .pass 0) {request : BuildRequest} {names : Nat → Bytes}
    {own : FileSystem} {count : Nat} {run : BuildRun State} {trace : List Event}
    (same : world'.flag = world.flag ∧ world'.clock = world.clock)
    (comes : (crowd.alone request names).Comes (choices.map (Choice.alone index))
      (world.beside own count) run trace) :
    ∃ trace', (crowd.alone request names).Comes ((choices ++ [choice]).map (Choice.alone index))
      (world'.beside own count) run trace' := by
  refine alone_next tame comes fun system moment jobs _ => ?_
  rw [passes]
  refine ⟨?_, jobs⟩
  show { system.world with clock := system.world.clock + 0 } = _
  rw [moment]
  simp only [World.beside, same, Nat.add_zero]

/-- Where a build stands, in the system of all of them. -/
theorem Comes.job_eq (comes : crowd.Comes choices world runs) (index : Nat) :
    (crowd.after choices).jobs[index]? = (runs[index]?).map Job.build := by
  rw [comes.jobs_eq, List.getElem?_map]

/-- What one more choice comes to if it does nothing. -/
theorem Comes.same_of_act (earlier : crowd.Comes choices world runs)
    (comes : crowd.Comes (choices ++ [choice]) world' runs')
    (same : (crowd.after choices).act crowd.programs crowd.setting crowd.builder choice
      = crowd.after choices) : world' = world ∧ runs' = runs := by
  have now := comes.world_eq
  have jobs := comes.jobs_eq
  rw [after_concat, same] at now jobs
  rw [earlier.world_eq] at now
  rw [earlier.jobs_eq] at jobs
  exact ⟨now.symm, (List.map_injective_iff.mpr build_injective jobs).symm⟩

/-- What one more choice comes to if a build takes a turn. -/
theorem Comes.turn_of_act (earlier : crowd.Comes choices world runs)
    (comes : crowd.Comes (choices ++ [choice]) world' runs') (index : Nat) (after : World)
    (run' : BuildRun State)
    (acts : ((crowd.after choices).act crowd.programs crowd.setting crowd.builder choice).world = after ∧
      ((crowd.after choices).act crowd.programs crowd.setting crowd.builder choice).jobs
        = (crowd.after choices).jobs.set index (.build run')) :
    world' = after ∧ runs' = runs.set index run' :=
  comes.unique ⟨by rw [after_concat]; exact acts.1,
    by rw [after_concat, acts.2, earlier.jobs_eq, List.map_set]⟩

/-- **A choice that does nothing**, neither to all builds nor to the one that it is about on its own. -/
theorem Split.rest (tame : crowd.programs.Tame always) {index : Nat}
    (earlier : crowd.Comes choices world runs) (comes : crowd.Comes (choices ++ [choice]) world' runs')
    (others : ∀ other, other ≠ index → choice.alone other = .pass 0)
    (same : (crowd.after choices).act crowd.programs crowd.setting crowd.builder choice
      = crowd.after choices)
    (still : ∀ run, runs[index]? = some run → ∀ names own count, ∀ system : System State,
      system.world = world.beside own count → system.jobs = [.build run] →
      system.act crowd.programs (crowd.setting.renamed names) crowd.builder (choice.alone index) = system)
    (split : crowd.Split ground drawn choices world runs share) :
    ∃ share', crowd.Split ground drawn (choices ++ [choice]) world' runs' share' := by
  obtain ⟨rfl, rfl⟩ := earlier.same_of_act comes same
  refine ⟨share, split.idle rfl rfl fun other request run names own count trace _ listed comes' => ?_⟩
  by_cases here : other = index
  · subst here
    refine alone_next tame comes' fun system moment jobs _ => ?_
    rw [still run listed names own count system moment jobs]
    exact ⟨moment, jobs⟩
  · exact alone_pass tame (others other here) ⟨rfl, rfl⟩ comes'

theorem getElem?_of_single {system : System State} {run : BuildRun State}
    (jobs : system.jobs = [.build run]) : system.jobs[0]? = some (.build run) := by
  rw [jobs]
  rfl

theorem Split.job (lies : crowd.Lies ground always drawn) (tame : crowd.programs.Tame always)
    {index : Nat} (earlier : crowd.Comes choices world runs)
    (comes : crowd.Comes (choices ++ [.job index]) world' runs') (bounded : world'.drawn ≤ drawn)
    (split : crowd.Split ground drawn choices world runs share) :
    ∃ share', crowd.Split ground drawn (choices ++ [.job index]) world' runs' share' := by
  have alive : (crowd.after choices).endedBy? = none :=
    System.alive_of_silent tame.silent _ rfl choices
  have others (other : Nat) (differ : other ≠ index) :
      (Choice.job index).alone other = .pass 0 := if_neg (Ne.symm differ)
  have own_turn : (Choice.job index).alone index = .job 0 := if_pos rfl
  have present := earlier.job_eq index
  cases listed : runs[index]? with
  | none =>
    rw [listed] at present
    refine split.rest tame earlier comes others (System.actJob_absent present) fun run listed' => ?_
    rw [listed] at listed'
    cases listed'
  | some run =>
    rw [listed] at present
    by_cases able : run.isAble crowd.builder world.clock = true
    · obtain ⟨request, asked, wired⟩ := earlier.wired listed
      have going := BuildRun.result?_of_isAble able
      cases acts : run.act crowd.programs crowd.setting crowd.builder world with
      | mk after rest =>
        obtain ⟨run', events⟩ := rest
        obtain ⟨rfl, rfl⟩ := earlier.turn_of_act comes index after run' (System.actJob_able present alive
          (by rw [earlier.world_eq]; exact able) (by rw [earlier.world_eq]; exact acts))
        have draws := draws_of_act going acts
        refine ⟨_, split.turn lies asked listed draws.drawn bounded
          (fun other _ _ _ _ _ _ differ comes' =>
            alone_pass tame (others other differ) ⟨draws.flag, draws.clock⟩ comes')
          fun names own trace replays comes' mirrored => ?_⟩
        obtain ⟨_, _, _, own', acts', actsOwn, matched⟩ := mirrored.act lies tame asked wired going
          (by rw [acts]; exact bounded) (by rw [acts]; exact replays)
        rw [acts] at acts'
        cases acts'
        obtain ⟨trace', comes''⟩ : ∃ trace', (crowd.alone request names).Comes
            ((choices ++ [Choice.job index]).map (Choice.alone index)) _ run' trace' :=
          alone_next tame comes' fun system moment jobs alive' => by
            have able' : run.isAble crowd.builder system.world.clock = true := by
              rw [moment]
              exact able
            rw [← moment] at actsOwn
            have turned := System.actJob_able (getElem?_of_single jobs) alive' able' actsOwn
            rw [jobs] at turned
            rw [own_turn]
            exact turned
        exact ⟨own', trace', comes'', matched⟩
    · refine split.rest tame earlier comes others (System.actJob_unable present
        (by rw [earlier.world_eq]; exact able)) fun run' listed' names own count system moment jobs => ?_
      rw [listed] at listed'
      cases listed'
      rw [own_turn]
      exact System.actJob_unable (getElem?_of_single jobs) (by rw [moment]; exact able)

theorem Split.child (lies : crowd.Lies ground always drawn) (tame : crowd.programs.Tame always)
    {index : Nat} (earlier : crowd.Comes choices world runs)
    (comes : crowd.Comes (choices ++ [.child index]) world' runs') (bounded : world'.drawn ≤ drawn)
    (split : crowd.Split ground drawn choices world runs share) :
    ∃ share', crowd.Split ground drawn (choices ++ [.child index]) world' runs' share' := by
  have others (other : Nat) (differ : other ≠ index) :
      (Choice.child index).alone other = .pass 0 := if_neg (Ne.symm differ)
  have own_turn : (Choice.child index).alone index = .child 0 := if_pos rfl
  have present := earlier.job_eq index
  cases listed : runs[index]? with
  | none =>
    rw [listed] at present
    refine split.rest tame earlier comes others (System.actChild_absent present) fun run listed' => ?_
    rw [listed] at listed'
    cases listed'
  | some run =>
    rw [listed] at present
    by_cases moves : ∃ state wakes, (Job.build run).child? = some (.running state wakes) ∧
        wakes ≤ world.clock
    · obtain ⟨state, wakes, waits, awake⟩ := moves
      obtain ⟨request, asked, wired⟩ := earlier.wired listed
      obtain ⟨command, since, due, later, phase⟩ := BuildRun.phase_of_child waits
      obtain ⟨rfl, rfl⟩ := earlier.turn_of_act comes index _ _ (System.actChild_moves _ present phase
        (by rw [earlier.world_eq]; exact awake) fun _ _ => tame.silent)
      rw [earlier.world_eq] at bounded ⊢
      refine ⟨_, split.turn lies asked listed (Nat.le_refl _) bounded
        (fun other _ _ _ _ _ _ differ comes' =>
          alone_pass tame (others other differ) ⟨rfl, rfl⟩ comes')
        fun names own trace replays comes' mirrored => ?_⟩
      obtain ⟨same, turned⟩ := mirrored.process lies tame asked bounded wired (earlier.started listed)
        phase (Child.moved wakes world.clock (crowd.programs.step world.files state).2)
      obtain ⟨trace', comes''⟩ : ∃ trace', (crowd.alone request names).Comes
          ((choices ++ [Choice.child index]).map (Choice.alone index))
          (world.beside (crowd.programs.step own state).1 (share index).length) _ trace' :=
        alone_next tame comes' fun system moment jobs _ => by
          have awake' : wakes ≤ system.world.clock := by
            rw [moment]
            exact awake
          have turned := System.actChild_moves (crowd.setting.renamed names) (getElem?_of_single jobs)
            phase awake' fun _ _ => tame.silent
          rw [jobs, moment] at turned
          rw [own_turn]
          exact turned
      dsimp only [World.beside] at comes''
      rw [same] at comes''
      refine ⟨_, trace', ?_, .of_files ⟨turned.1, turned.2.mono fun _ => Ground.Own.home,
        turned.1.stays lies asked bounded turned.2⟩⟩
      rw [drawing_files]
      exact comes''
    · refine split.rest tame earlier comes others (System.actChild_idle present fun state wakes waits =>
        by rw [earlier.world_eq]; exact fun awake => moves ⟨state, wakes, waits, awake⟩)
        fun run' listed' names own count system moment jobs => ?_
      rw [listed] at listed'
      cases listed'
      rw [own_turn]
      exact System.actChild_idle (getElem?_of_single jobs) fun state wakes waits => by
        rw [moment]
        exact fun awake => moves ⟨state, wakes, waits, awake⟩

/-- **The time or the flag changes**, and nothing else, for all builds and for each of them on its own. -/
theorem Split.moment (tame : crowd.programs.Tame always) (earlier : crowd.Comes choices world runs)
    (comes : crowd.Comes (choices ++ [choice]) world' runs') (moves : World → World)
    (acts : ∀ (system : System State) (setting : Setting),
      (system.act crowd.programs setting crowd.builder choice).world = moves system.world ∧
        (system.act crowd.programs setting crowd.builder choice).jobs = system.jobs)
    (shared : ∀ index, choice.alone index = choice)
    (kept : (moves world).files = world.files ∧ (moves world).drawn = world.drawn)
    (beside : ∀ own count, moves (world.beside own count) = (moves world).beside own count)
    (split : crowd.Split ground drawn choices world runs share) :
    crowd.Split ground drawn (choices ++ [choice]) world' runs' share := by
  obtain ⟨rfl, rfl⟩ := comes.unique ⟨by rw [after_concat, (acts _ _).1, earlier.world_eq],
    by rw [after_concat, (acts _ _).2, earlier.jobs_eq]⟩
  refine split.idle kept.1 kept.2 fun index _ _ _ own count _ _ _ comes' =>
    alone_next tame comes' fun system now jobs _ => ?_
  rw [shared, (acts _ _).1, (acts _ _).2, now, beside]
  exact ⟨rfl, jobs⟩

/-- What one more choice draws. -/
theorem Comes.later (earlier : crowd.Comes choices world runs)
    (comes : crowd.Comes (choices ++ [choice]) world' runs') : world.drawn ≤ world'.drawn := by
  rcases earlier.next comes with ⟨_, _, same⟩ | ⟨_, _, _, _, _, turn, _⟩
  · exact same.ge
  · exact turn.drawn

/-- **At every moment each build is where it is on its own.** -/
theorem Comes.split (lies : crowd.Lies ground always drawn) (tame : crowd.programs.Tame always)
    (comes : crowd.Comes choices world runs) (bounded : world.drawn ≤ drawn) :
    ∃ share, crowd.Split ground drawn choices world runs share := by
  induction choices using List.reverseRecOn generalizing world runs with
  | nil =>
    obtain ⟨rfl, rfl⟩ := comes.unique ⟨rfl, (List.map_map ..).symm⟩
    exact ⟨_, lies.split_start⟩
  | append_singleton choices choice ih =>
    obtain ⟨before, runs₀, earlier⟩ := crowd.exists_comes choices
    obtain ⟨share, split⟩ := ih earlier ((earlier.later comes).trans bounded)
    cases choice with
    | job index => exact split.job lies tame earlier comes bounded
    | child index => exact split.child lies tame earlier comes bounded
    | pass time =>
      exact ⟨share, split.moment tame earlier comes
        (fun world => { world with clock := world.clock + time }) (fun _ _ => ⟨rfl, rfl⟩) (fun _ => rfl)
        ⟨rfl, rfl⟩ fun _ _ => rfl⟩
    | raise signal =>
      exact ⟨share, split.moment tame earlier comes
        (fun world => { world with flag := world.flag.raise signal }) (fun _ _ => ⟨rfl, rfl⟩)
        (fun _ => rfl) ⟨rfl, rfl⟩ fun _ _ => rfl⟩

end Crowd

end CalcBuild

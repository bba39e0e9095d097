/-
**The steps of a build among others, and on its own.**

In each phase the next step of a build comes to the same on both sides: the same phase and the same events,
with the same changes to what the build has of its own.

* `Crowd.Matched`: that a turn comes to the same on both sides;
* `Mirrored.creates`, `Mirrored.reserves`: names are drawn in both worlds;
* `Crowd.Abreast`, `Mirrored.act`: every step of a build comes to the same, with one lemma for each phase.
-/

import CalcBuild.Proofs.Build.Release

namespace CalcBuild

open Files FileSystem

variable {State : Type}

theorem drawnUntil_self (drawn : Nat) : drawnUntil drawn drawn = [] := by
  unfold drawnUntil
  rw [Nat.sub_self]
  rfl

namespace Crowd

variable {crowd : Crowd State} {ground : Ground} {always : List Bytes} {drawn index : Nat}
  {request : BuildRequest} {names : Nat → Bytes} {drew : List Nat} {world world' : World}
  {run run' : BuildRun State} {own own' : FileSystem} {events : List Event}

/-- **A turn comes to the same on both sides.** -/
structure Matched (crowd : Crowd State) (ground : Ground) (drawn index : Nat) (request : BuildRequest)
    (drew : List Nat) (world world' : World) (run' : BuildRun State) (own own' : FileSystem) : Prop where
  mirrored : crowd.Mirrored ground drawn index request (drawing drew world world') world'.drawn run'
    world'.files own'
  together : Together (ground.Home crowd.setting.names index (drawing drew world world')) world.files
    world'.files own own'
  stays : (ground.site index).Stays world.files world'.files

theorem Mirrored.longer_drawing
    (mirrored : crowd.Mirrored ground drawn index request drew world.drawn run world.files own)
    (later : world.drawn ≤ world'.drawn) (bounded : world'.drawn ≤ drawn) :
    Longer drew (drawing drew world world') world.drawn world'.drawn drawn where
  more := List.subset_append_left _ _
  early := fun number member => by
    rcases List.mem_append.mp member with old | new
    · exact mirrored.before later number old
    · exact (mem_drawnUntil.mp new).2
  later := later
  bounded := bounded
  new := fun number member => (List.mem_append.mp member).imp_right fun new => (mem_drawnUntil.mp new).1

/-- No name is drawn. -/
theorem drawing_files (drew : List Nat) (world : World) (files : FileSystem) :
    drawing drew world { world with files } = drew := by
  unfold drawing
  rw [drawnUntil_self, List.append_nil]

/-- What a build has of its own is none of the directories. -/
theorem Mirrored.stays (lies : crowd.Lies ground always drawn)
    (asked : crowd.requests[index]? = some request) {upto : Nat} {fs fs' : FileSystem}
    (mirrored : crowd.Mirrored ground drawn index request drew upto run fs' own') (inside : upto ≤ drawn)
    (together : Together (ground.Own crowd.setting.names index drew) fs fs' own own') :
    (ground.site index).Stays fs fs' := fun place makes =>
  .inl ((together place).resolve_right fun ⟨owned, _⟩ =>
    lies.own_not_makes asked (mirrored.before inside) owned makes).1

theorem Matched.of_turned (lies : crowd.Lies ground always drawn)
    (asked : crowd.requests[index]? = some request) (bounded : world'.drawn ≤ drawn)
    (turned : crowd.Mirrored ground drawn index request (drawing drew world world') world'.drawn run'
        world'.files own' ∧
      Together (ground.Own crowd.setting.names index (drawing drew world world')) world.files
        world'.files own own') :
    crowd.Matched ground drawn index request drew world world' run' own own' :=
  ⟨turned.1, turned.2.mono fun _ => Ground.Own.home, turned.1.stays lies asked bounded turned.2⟩

/-- A turn that draws no name. -/
theorem Matched.of_files {fs' : FileSystem}
    (turned : crowd.Mirrored ground drawn index request drew world.drawn run' fs' own' ∧
      Together (ground.Home crowd.setting.names index drew) world.files fs' own own' ∧
      (ground.site index).Stays world.files fs') :
    crowd.Matched ground drawn index request drew world { world with files := fs' } run' own own' := by
  refine ⟨?_, ?_, turned.2.2⟩
  · rw [drawing_files]
    exact turned.1
  · rw [drawing_files]
    exact turned.2.1

/-- A turn that changes no files. -/
theorem Mirrored.matched_rest
    (mirrored : crowd.Mirrored ground drawn index request drew world.drawn run world.files own)
    (workspaces : run'.workspace? = run.workspace?) (stagings : run'.staging? = run.staging?)
    (still : run'.IsGrown → run.IsGrown) :
    crowd.Matched ground drawn index request drew world world run' own own :=
  .of_files ⟨mirrored.rest workspaces stagings still, .refl _ _ _, fun _ _ => .inl rfl⟩

/-- What is at the current directory is the same on both sides. -/
theorem Mirrored.here (lies : crowd.Lies ground always drawn) {upto : Nat} {fs : FileSystem}
    (mirrored : crowd.Mirrored ground drawn index request drew upto run fs own) :
    own.isDirectoryAt crowd.setting.cwd = fs.isDirectoryAt crowd.setting.cwd := by
  unfold isDirectoryAt directoryMode?
  rw [mirrored.steady _ lies.hereCalm, mirrored.steadyOwn _ lies.hereCalm]

/-- **Making a workspace comes to the same on both sides.** -/
theorem Mirrored.creates (lies : crowd.Lies ground always drawn)
    (mirrored : crowd.Mirrored ground drawn index request drew world.drawn run world.files own)
    {result : Except BuildFailure Workspace}
    (creates : Workspace.create crowd.setting crowd.builder.workspaceRoot? world = (world', result))
    (bounded : world'.drawn ≤ drawn)
    (replays : Replays crowd.setting.names (drawing drew world world') names) :
    ∃ own', Workspace.create (crowd.setting.renamed names) crowd.builder.workspaceRoot?
        (world.beside own drew.length)
          = (world'.beside own' (drawing drew world world').length, result) ∧
      ((∃ failure, result = .error failure) ∧ world'.files = world.files ∧ own' = own ∨
        ∃ number, world.drawn ≤ number ∧ number < world'.drawn ∧
          result = .ok ⟨crowd.workspacePath number⟩ ∧
          world.files.makeDirectory crowd.setting.cwd (crowd.workspacePath number) = .ok world'.files ∧
          own.makeDirectory crowd.setting.cwd (crowd.workspacePath number) = .ok own') := by
  unfold Workspace.create at creates
  dsimp only at creates
  rw [Prod.mk.injEq] at creates
  obtain ⟨after, rfl⟩ := creates
  generalize reserves : world.reserve crowd.setting _ _ _ = made at after ⊢
  obtain ⟨_, made⟩ := made
  obtain rfl : _ = world' := after
  obtain ⟨own', reservesOwn, files⟩ := World.reserve_beside reserves (mirrored.here lies) replays
    fun number late before => mirrored.makeDirectory_alike lies late (Nat.lt_of_lt_of_le before bounded)
  have renamed := Workspace.create_renamed crowd.setting names crowd.builder.workspaceRoot?
    (world.beside own drew.length)
  rw [reservesOwn] at renamed
  refine ⟨own', renamed, ?_⟩
  rcases files with ⟨⟨cause, rfl⟩, same, sameOwn⟩ | ⟨number, late, before, rfl, makes, makesOwn⟩
  · exact .inl ⟨⟨_, rfl⟩, same, sameOwn⟩
  · exact .inr ⟨number, late, before, rfl, makes, makesOwn⟩

/-- **Drawing a name for the linker comes to the same on both sides.** -/
theorem Mirrored.reserves (lies : crowd.Lies ground always drawn)
    (mirrored : crowd.Mirrored ground drawn index request drew world.drawn run world.files own)
    (grown : run.IsGrown) {result : Except BuildFailure Bytes}
    (reserves : Staging.reserve crowd.setting request.output world = (world', result))
    (bounded : world'.drawn ≤ drawn)
    (replays : Replays crowd.setting.names (drawing drew world world') names) :
    ∃ own', Staging.reserve (crowd.setting.renamed names) request.output
        (world.beside own drew.length)
          = (world'.beside own' (drawing drew world world').length, result) ∧
      ((∃ failure, result = .error failure) ∧ world'.files = world.files ∧ own' = own ∨
        ∃ number, world.drawn ≤ number ∧ number < world'.drawn ∧
          result = .ok (stagingPath crowd.setting request.output number) ∧
          world.files.createNew crowd.setting.cwd Staging.mode
            (stagingPath crowd.setting request.output number) = .ok world'.files ∧
          own.createNew crowd.setting.cwd Staging.mode
            (stagingPath crowd.setting request.output number) = .ok own') := by
  unfold Staging.reserve at reserves
  dsimp only at reserves
  rw [Prod.mk.injEq] at reserves
  obtain ⟨after, rfl⟩ := reserves
  generalize draws : world.reserve crowd.setting _ _ _ = made at after ⊢
  obtain ⟨_, made⟩ := made
  obtain rfl : _ = world' := after
  obtain ⟨own', drawsOwn, files⟩ := World.reserve_beside draws (mirrored.here lies) replays
    fun number late before => mirrored.createNew_alike lies grown late
      (Nat.lt_of_lt_of_le before bounded)
  refine ⟨own', by rw [Staging.reserve_renamed, drawsOwn], ?_⟩
  rcases files with ⟨⟨cause, rfl⟩, same, sameOwn⟩ | ⟨number, late, before, rfl, makes, makesOwn⟩
  · exact .inl ⟨⟨_, rfl⟩, same, sameOwn⟩
  · exact .inr ⟨number, late, before, rfl, makes, makesOwn⟩

/-! ### The steps of a build -/

/-- **The next step of a build comes to the same on its own.** -/
def Abreast (crowd : Crowd State) (ground : Ground) (drawn index : Nat) (request : BuildRequest)
    (names : Nat → Bytes) (drew : List Nat) (world : World) (run : BuildRun State) (own : FileSystem) :
    Prop :=
  ∃ world' run' events own',
    run.act crowd.programs crowd.setting crowd.builder world = (world', run', events) ∧
    run.act crowd.programs (crowd.setting.renamed names) crowd.builder (world.beside own drew.length)
      = (world'.beside own' (drawing drew world world').length, run', events) ∧
    crowd.Matched ground drawn index request drew world world' run' own own'

theorem drawing_self (drew : List Nat) (world : World) : drawing drew world world = drew :=
  drawing_files drew world world.files

/-- What a build that draws no name for the linker knows about the directories of its output. -/
theorem still_grown (stagings : run'.staging? = run.staging?) (other : ¬ run'.phase.IsGrown) :
    run'.IsGrown → run.IsGrown := by
  rintro (grown | staged)
  · exact absurd grown other
  · exact .inr (stagings ▸ staged)

theorem not_grown (unstaged : run'.staging? = none) (other : ¬ run'.phase.IsGrown) :
    ¬ run'.IsGrown := by
  rintro (grown | staged)
  · exact other grown
  · exact staged unstaged

section Abreast

/-- A step that changes no files. -/
theorem Abreast.rest (run' : BuildRun State) (events : List Event)
    (mirrored : crowd.Mirrored ground drawn index request drew world.drawn run world.files own)
    (acts : run.act crowd.programs crowd.setting crowd.builder world = (world, run', events))
    (actsOwn : run.act crowd.programs (crowd.setting.renamed names) crowd.builder
      (world.beside own drew.length) = (world.beside own drew.length, run', events))
    (workspaces : run'.workspace? = run.workspace?) (stagings : run'.staging? = run.staging?)
    (other : ¬ run'.phase.IsGrown) :
    crowd.Abreast ground drawn index request names drew world run own :=
  ⟨world, run', events, own, acts, by rw [actsOwn, drawing_self],
    mirrored.matched_rest workspaces stagings (still_grown stagings other)⟩

/-- A step that draws no name. -/
theorem Abreast.change (run' : BuildRun State) (events : List Event) {fs' : FileSystem}
    (acts : run.act crowd.programs crowd.setting crowd.builder world
      = ({ world with files := fs' }, run', events))
    (actsOwn : run.act crowd.programs (crowd.setting.renamed names) crowd.builder
      (world.beside own drew.length) = (world.beside own' drew.length, run', events))
    (turned : crowd.Mirrored ground drawn index request drew world.drawn run' fs' own' ∧
      Together (ground.Home crowd.setting.names index drew) world.files fs' own own' ∧
      (ground.site index).Stays world.files fs') :
    crowd.Abreast ground drawn index request names drew world run own :=
  ⟨_, run', events, own', acts, by rw [actsOwn, drawing_files]; rfl, .of_files turned⟩

/-- A step that changes nothing but what the build has of its own. -/
theorem Abreast.work (lies : crowd.Lies ground always drawn)
    (asked : crowd.requests[index]? = some request) (inside : world.drawn ≤ drawn)
    (run' : BuildRun State) (events : List Event) {fs' : FileSystem}
    (acts : run.act crowd.programs crowd.setting crowd.builder world
      = ({ world with files := fs' }, run', events))
    (actsOwn : run.act crowd.programs (crowd.setting.renamed names) crowd.builder
      (world.beside own drew.length) = (world.beside own' drew.length, run', events))
    (turned : crowd.Mirrored ground drawn index request drew world.drawn run' fs' own' ∧
      Together (ground.Own crowd.setting.names index drew) world.files fs' own own') :
    crowd.Abreast ground drawn index request names drew world run own :=
  .change run' events acts actsOwn
    ⟨turned.1, turned.2.mono fun _ => Ground.Own.home, turned.1.stays lies asked inside turned.2⟩

theorem Mirrored.act_starting (lies : crowd.Lies ground always drawn)
    (mirrored : crowd.Mirrored ground drawn index request drew world.drawn run world.files own)
    (phase : run.phase = .starting) :
    crowd.Abreast ground drawn index request names drew world run own := by
  have finds : (world.beside own drew.length).files.isFile (crowd.setting.renamed names).cwd
      crowd.builder.runtimeSource
        = world.files.isFile crowd.setting.cwd crowd.builder.runtimeSource := by
    unfold isFile
    rw [show (world.beside own drew.length).files = own from rfl,
      show (crowd.setting.renamed names).cwd = crowd.setting.cwd from rfl,
      status?_congr (lies.agree_lookups mirrored.steady mirrored.steadyOwn List.mem_cons_self)]
  by_cases exists_ : world.files.isFile crowd.setting.cwd crowd.builder.runtimeSource = true
  · exact .rest { run with phase := .opening } [] mirrored
      (by simp only [BuildRun.act, phase, exists_, if_true])
      (by simp only [BuildRun.act, phase, finds, exists_, if_true]) rfl rfl id
  · exact .rest { run with phase := .withdrawing (.missingRuntime crowd.builder.runtimeSource) } []
      mirrored (by simp only [BuildRun.act, phase, exists_]; rfl)
      (by simp only [BuildRun.act, phase, finds, exists_]; rfl) rfl rfl id

/-- A build that goes on to the commands that are left does not draw a name next. -/
theorem following_not_grown (later : List Command) :
    ¬ (BuildRun.following later : BuildPhase State).IsGrown := by
  cases later with
  | nil => exact id
  | cons command later =>
    unfold BuildRun.following BuildRun.before
    dsimp only
    split <;> exact id

/-- A step of a build takes no time and raises no flag, and what is drawn stays drawn. -/
theorem draws_of_act (going : run.result? = none)
    (acts : run.act crowd.programs crowd.setting crowd.builder world = (world', run', events)) :
    world.Draws world' := by
  have steps := BuildRun.act_step crowd.programs crowd.setting crowd.builder world run going
  rw [acts] at steps
  exact steps.frame

theorem Mirrored.act_opening (lies : crowd.Lies ground always drawn)
    (asked : crowd.requests[index]? = some request) (wired : run.Wired crowd.builder request)
    (mirrored : crowd.Mirrored ground drawn index request drew world.drawn run world.files own)
    (phase : run.phase = .opening)
    (bounded : (run.act crowd.programs crowd.setting crowd.builder world).1.drawn ≤ drawn)
    (replays : Replays crowd.setting.names
      (drawing drew world (run.act crowd.programs crowd.setting crowd.builder world).1) names) :
    crowd.Abreast ground drawn index request names drew world run own := by
  have stands := wired.2
  rw [phase] at stands
  obtain ⟨_, nothing, unstaged⟩ := stands
  cases creates : Workspace.create crowd.setting crowd.builder.workspaceRoot? world with
  | mk world' result =>
    have after : (run.act crowd.programs crowd.setting crowd.builder world).1 = world' := by
      cases result <;> simp only [BuildRun.act, phase, creates]
    rw [after] at bounded replays
    obtain ⟨own', createsOwn, files⟩ := mirrored.creates lies creates bounded replays
    have draws := draws_of_act (by simp only [BuildRun.result?, phase])
      (Prod.ext after rfl : run.act crowd.programs crowd.setting crowd.builder world = (world', _, _))
    have longer := mirrored.longer_drawing draws.drawn bounded
    rcases files with ⟨⟨failure, rfl⟩, same, rfl⟩ | ⟨number, late, before, rfl, makes, makesOwn⟩
    · exact ⟨world', { run with phase := .withdrawing failure }, [], own',
        by simp only [BuildRun.act, phase, creates], by simp only [BuildRun.act, phase, createsOwn],
        .of_turned lies asked bounded (mirrored.unmoved lies asked longer (same ▸ mirrored.sound)
          mirrored.soundOwn (fun _ => by rw [same]) (fun _ => rfl) rfl rfl (still_grown rfl id))⟩
    · exact ⟨world', { run with
          workspace? := some ⟨crowd.workspacePath number⟩
          phase := BuildRun.following (BuildRun.commands crowd.builder
            ⟨crowd.workspacePath number⟩ run.request) },
        [.recorded (Workspace.createdRecord ⟨crowd.workspacePath number⟩)], own',
        by simp only [BuildRun.act, phase, creates],
        by simp only [BuildRun.act, phase, createsOwn],
        .of_turned lies asked bounded (mirrored.opened lies asked longer late
          (List.mem_append_right _ (mem_drawnUntil.mpr ⟨late, before⟩)) makes makesOwn nothing unstaged
          rfl unstaged (still_grown rfl
            (following_not_grown (BuildRun.commands crowd.builder _ run.request))))⟩

theorem Mirrored.act_running (lies : crowd.Lies ground always drawn)
    (tame : crowd.programs.Tame always) (asked : crowd.requests[index]? = some request)
    (wired : run.Wired crowd.builder request) (inside : world.drawn ≤ drawn)
    (mirrored : crowd.Mirrored ground drawn index request drew world.drawn run world.files own)
    {stage : StageRun State} {later : List Command} (phase : run.phase = .running stage later) :
    crowd.Abreast ground drawn index request names drew world run own := by
  cases done : stage.result? with
  | some result =>
    cases result with
    | ok result =>
      exact .rest { run with results := run.results ++ [result], phase := BuildRun.following later } []
        mirrored (by simp only [BuildRun.act, phase, done]) (by simp only [BuildRun.act, phase, done])
        rfl rfl (following_not_grown later)
    | error failure =>
      exact .rest { run with phase := .withdrawing failure } [] mirrored
        (by simp only [BuildRun.act, phase, done]) (by simp only [BuildRun.act, phase, done]) rfl rfl id
  | none =>
    obtain ⟨workspace, holds, sought⟩ := wired.sought phase
    have agree : ∀ path ∈ stage.command.paths crowd.setting,
        own.AgreeOn world.files (world.files.seenOn crowd.setting.cwd path) := fun path about =>
      mirrored.agree_sought lies asked inside holds (sought crowd.setting path about)
    have starts : crowd.programs.start own (stage.command.launch crowd.setting)
        = crowd.programs.start world.files (stage.command.launch crowd.setting) := by
      refine tame.starts fun path member => ?_
      rcases List.mem_cons.mp member with rfl | shared
      · exact agree _ List.mem_cons_self
      · exact lies.agree_lookups mirrored.steady mirrored.steadyOwn (by simp [lookups, shared])
    have same : stage.act crowd.programs (crowd.setting.renamed names) crowd.builder.stageOptions
        (world.beside own drew.length)
          = stage.act crowd.programs crowd.setting crowd.builder.stageOptions world :=
      StageRun.act_congr starts agree
    exact .rest { run with phase := .running (stage.act crowd.programs crowd.setting
        crowd.builder.stageOptions world).1 later }
      (stage.act crowd.programs crowd.setting crowd.builder.stageOptions world).2 mirrored
      (by simp only [BuildRun.act, phase, done]) (by simp only [BuildRun.act, phase, done, same]) rfl rfl
      id

theorem Mirrored.act_preparing (lies : crowd.Lies ground always drawn)
    (asked : crowd.requests[index]? = some request) (wired : run.Wired crowd.builder request)
    (inside : world.drawn ≤ drawn)
    (mirrored : crowd.Mirrored ground drawn index request drew world.drawn run world.files own)
    {link : Command} {later : List Command} (phase : run.phase = .preparing link later) :
    crowd.Abreast ground drawn index request names drew world run own := by
  obtain ⟨same, stands⟩ := wired
  rw [phase] at stands
  obtain ⟨_, _, _, _, unstaged, _⟩ := stands
  obtain ⟨results, next⟩ := mirrored.prepared lies asked inside
  cases makes : world.files.makeDirectories crowd.setting.cwd (Staging.directory request.output) with
  | mk fs' result =>
    cases makesOwn : own.makeDirectories crowd.setting.cwd (Staging.directory request.output) with
    | mk own' result' =>
      rw [makes, makesOwn] at results next
      dsimp only at results next
      subst results
      have prepares : Staging.prepare crowd.setting run.request.output world
          = ({ world with files := fs' }, result'.mapError (.output request.output)) := by
        rw [same]
        simp only [Staging.prepare, makes]
      have preparesOwn : Staging.prepare (crowd.setting.renamed names) run.request.output
          (world.beside own drew.length)
            = (world.beside own' drew.length, result'.mapError (.output request.output)) := by
        rw [same]
        simp only [Staging.prepare, World.beside, Setting.renamed, makesOwn]
      cases result' with
      | ok done =>
        exact .change { run with phase := .reserving link later } []
          (by simp only [BuildRun.act, phase, prepares, Except.mapError])
          (by simp only [BuildRun.act, phase, preparesOwn, Except.mapError])
          (next { run with phase := .reserving link later } rfl unstaged unstaged fun _ => rfl)
      | error cause =>
        exact .change { run with phase := .withdrawing (.output request.output cause) } []
          (by simp only [BuildRun.act, phase, prepares, Except.mapError])
          (by simp only [BuildRun.act, phase, preparesOwn, Except.mapError])
          (next { run with phase := .withdrawing (.output request.output cause) } rfl unstaged unstaged
            fun grown => absurd grown (not_grown unstaged id))

theorem Mirrored.act_reserving (lies : crowd.Lies ground always drawn)
    (asked : crowd.requests[index]? = some request) (wired : run.Wired crowd.builder request)
    (mirrored : crowd.Mirrored ground drawn index request drew world.drawn run world.files own)
    {link : Command} {rest : List Command} (phase : run.phase = .reserving link rest)
    (bounded : (run.act crowd.programs crowd.setting crowd.builder world).1.drawn ≤ drawn)
    (replays : Replays crowd.setting.names
      (drawing drew world (run.act crowd.programs crowd.setting crowd.builder world).1) names) :
    crowd.Abreast ground drawn index request names drew world run own := by
  obtain ⟨same, stands⟩ := wired
  rw [phase] at stands
  obtain ⟨_, _, _, _, unstaged, _⟩ := stands
  have grown : run.IsGrown := .inl (by rw [phase]; exact True.intro)
  cases reserves : Staging.reserve crowd.setting request.output world with
  | mk world' result =>
    have after : (run.act crowd.programs crowd.setting crowd.builder world).1 = world' := by
      cases result <;> simp only [BuildRun.act, phase, same, reserves]
    rw [after] at bounded replays
    obtain ⟨own', reservesOwn, files⟩ := mirrored.reserves lies grown reserves bounded replays
    have draws := draws_of_act (by simp only [BuildRun.result?, phase])
      (Prod.ext after rfl : run.act crowd.programs crowd.setting crowd.builder world = (world', _, _))
    have longer := mirrored.longer_drawing draws.drawn bounded
    rcases files with ⟨⟨failure, rfl⟩, kept, rfl⟩ | ⟨number, late, before, rfl, makes, makesOwn⟩
    · exact ⟨world', { run with phase := .withdrawing failure }, [], own',
        by simp only [BuildRun.act, phase, same, reserves],
        by simp only [BuildRun.act, phase, same, reservesOwn],
        .of_turned lies asked bounded (mirrored.unmoved lies asked longer (kept ▸ mirrored.sound)
          mirrored.soundOwn (fun _ => by rw [kept]) (fun _ => rfl) rfl rfl fun _ => grown)⟩
    · exact ⟨world', { run with
          staging? := some (stagingPath crowd.setting request.output number)
          phase := .vacating (link.redirect (stagingPath crowd.setting request.output number)) rest },
        [], own', by simp only [BuildRun.act, phase, same, reserves],
        by simp only [BuildRun.act, phase, same, reservesOwn],
        .of_turned lies asked bounded (mirrored.reserved lies asked grown longer late
          (List.mem_append_right _ (mem_drawnUntil.mpr ⟨late, before⟩)) makes makesOwn unstaged rfl rfl)⟩

theorem Mirrored.act_vacating (lies : crowd.Lies ground always drawn)
    (asked : crowd.requests[index]? = some request) (wired : run.Wired crowd.builder request)
    (inside : world.drawn ≤ drawn)
    (mirrored : crowd.Mirrored ground drawn index request drew world.drawn run world.files own)
    {link : Command} {later : List Command} (phase : run.phase = .vacating link later) :
    crowd.Abreast ground drawn index request names drew world run own := by
  obtain ⟨same, stands⟩ := wired
  rw [phase] at stands
  obtain ⟨workspace, staging, done, _, _, holds, plan, isLink⟩ := stands
  have made : link.output = staging :=
    (planned_output (mem_planned plan)).2.2 isLink staging rfl
  rcases mirrored.unlinked lies asked inside holds with ⟨fault, fails, failsOwn⟩ |
    ⟨fs', own', unlinks, unlinksOwn, next⟩
  · have vacates : Staging.vacate crowd.setting run.request.output link.output world.files
        = (world.files, .error (.output run.request.output fault.cause)) := by
      simp only [Staging.vacate, made, fails]
    have vacatesOwn : Staging.vacate (crowd.setting.renamed names) run.request.output link.output own
        = (own, .error (.output run.request.output fault.cause)) := by
      simp only [Staging.vacate, Setting.renamed, made, failsOwn]
    exact .rest { run with phase := .withdrawing (.output run.request.output fault.cause) } [] mirrored
      (by simp only [BuildRun.act, phase, vacates])
      (by simp only [BuildRun.act, phase, World.beside, vacatesOwn]) rfl rfl id
  · have vacates : Staging.vacate crowd.setting run.request.output link.output world.files
        = (fs', .ok ()) := by
      simp only [Staging.vacate, made, unlinks]
    have vacatesOwn : Staging.vacate (crowd.setting.renamed names) run.request.output link.output own
        = (own', .ok ()) := by
      simp only [Staging.vacate, Setting.renamed, made, unlinksOwn]
    exact .work lies asked inside { run with phase := .running (.start link) later } []
      (by simp only [BuildRun.act, phase, vacates])
      (by simp only [BuildRun.act, phase, World.beside, vacatesOwn])
      (next _ rfl rfl (still_grown rfl id))

theorem Mirrored.act_publishing (lies : crowd.Lies ground always drawn)
    (asked : crowd.requests[index]? = some request) (wired : run.Wired crowd.builder request)
    (inside : world.drawn ≤ drawn)
    (mirrored : crowd.Mirrored ground drawn index request drew world.drawn run world.files own)
    (phase : run.phase = .publishing) :
    crowd.Abreast ground drawn index request names drew world run own := by
  obtain ⟨same, stands⟩ := wired
  rw [phase] at stands
  obtain ⟨workspace, staging, _, holds, _⟩ := stands
  rcases mirrored.renamed lies asked inside holds with ⟨fault, fails, failsOwn⟩ |
    ⟨fs', own', renames, renamesOwn, next⟩
  · have publishes : Staging.publish crowd.setting run.request.output staging world.files
        = (world.files, .error (.output run.request.output fault.cause)) := by
      simp only [Staging.publish, same, fails]
    have publishesOwn : Staging.publish (crowd.setting.renamed names) run.request.output staging own
        = (own, .error (.output run.request.output fault.cause)) := by
      simp only [Staging.publish, Setting.renamed, same, failsOwn]
    exact .rest { run with phase := .withdrawing (.output run.request.output fault.cause) } [] mirrored
      (by simp only [BuildRun.act, phase, holds, publishes])
      (by simp only [BuildRun.act, phase, holds, World.beside, publishesOwn]) rfl rfl id
  · have publishes : Staging.publish crowd.setting run.request.output staging world.files
        = (fs', .ok ()) := by
      simp only [Staging.publish, same, renames]
    have publishesOwn : Staging.publish (crowd.setting.renamed names) run.request.output staging own
        = (own', .ok ()) := by
      simp only [Staging.publish, Setting.renamed, same, renamesOwn]
    exact .work lies asked inside { run with staging? := none, phase := .closing } []
      (by simp only [BuildRun.act, phase, holds, publishes])
      (by simp only [BuildRun.act, phase, holds, World.beside, publishesOwn])
      (next _ rfl rfl fun _ => .inr (by rw [holds]; exact Option.some_ne_none staging))

/-- **A workspace is removed on both sides.** -/
theorem Mirrored.removes (lies : crowd.Lies ground always drawn)
    (asked : crowd.requests[index]? = some request) (inside : world.drawn ≤ drawn)
    (mirrored : crowd.Mirrored ground drawn index request drew world.drawn run world.files own)
    {workspace : Workspace} (holds : run.workspace? = some workspace) (unstaged : run.staging? = none)
    (names : Nat → Bytes) (run' : BuildRun State) (released : run'.workspace? = none)
    (unstaged' : run'.staging? = none) (still : run'.IsGrown → run.IsGrown) :
    ∃ fs' own', workspace.remove crowd.setting world.files = (fs', .ok ()) ∧
      workspace.remove (crowd.setting.renamed names) own = (own', .ok ()) ∧
      crowd.Mirrored ground drawn index request drew world.drawn run' fs' own' ∧
      Together (ground.Own crowd.setting.names index drew) world.files fs' own own' := by
  obtain ⟨fs', own', removes, removesOwn, turned⟩ := mirrored.removed lies asked inside holds unstaged
    released unstaged' still
  refine ⟨fs', own', ?_, ?_, turned⟩
  · simp only [Workspace.remove, removes, Except.mapError]
  · simp only [Workspace.remove, Setting.renamed, removesOwn, Except.mapError]

theorem Mirrored.act_closing (lies : crowd.Lies ground always drawn)
    (asked : crowd.requests[index]? = some request) (wired : run.Wired crowd.builder request)
    (inside : world.drawn ≤ drawn)
    (mirrored : crowd.Mirrored ground drawn index request drew world.drawn run world.files own)
    (phase : run.phase = .closing) :
    crowd.Abreast ground drawn index request names drew world run own := by
  have stands := wired.2
  rw [phase] at stands
  obtain ⟨unstaged, workspace, _, holds, _⟩ := stands
  obtain ⟨fs', own', removes, removesOwn, turned⟩ := mirrored.removes lies asked inside holds unstaged
    names { run with workspace? := none, phase := .finished (.ok run.outcome) } rfl unstaged fun _ =>
      .inl (by rw [phase]; exact True.intro)
  exact .work lies asked inside { run with workspace? := none, phase := .finished (.ok run.outcome) }
    [.recorded (BuildRun.finishedRecord run.request.output)]
    (by simp only [BuildRun.act, phase, holds, removes, List.nil_append])
    (by simp only [BuildRun.act, phase, holds, World.beside, removesOwn, List.nil_append]) turned

theorem Mirrored.act_withdrawing (lies : crowd.Lies ground always drawn)
    (asked : crowd.requests[index]? = some request) (inside : world.drawn ≤ drawn)
    (mirrored : crowd.Mirrored ground drawn index request drew world.drawn run world.files own)
    {failure : BuildFailure} (phase : run.phase = .withdrawing failure) :
    crowd.Abreast ground drawn index request names drew world run own := by
  cases holds : run.staging? with
  | none =>
    exact .rest { run with staging? := none, phase := .abandoning failure } [] mirrored
      (by simp only [BuildRun.act, phase, holds]) (by simp only [BuildRun.act, phase, holds]) rfl
      holds.symm id
  | some staging =>
    exact .work lies asked inside { run with staging? := none, phase := .abandoning failure } []
      (by simp only [BuildRun.act, phase, holds])
      (by simp only [BuildRun.act, phase, holds, World.beside]; rfl)
      (mirrored.discarded lies asked inside holds rfl rfl fun grown =>
        absurd grown (not_grown rfl id))

theorem Mirrored.act_abandoning (lies : crowd.Lies ground always drawn)
    (asked : crowd.requests[index]? = some request) (wired : run.Wired crowd.builder request)
    (inside : world.drawn ≤ drawn)
    (mirrored : crowd.Mirrored ground drawn index request drew world.drawn run world.files own)
    {failure : BuildFailure} (phase : run.phase = .abandoning failure) :
    crowd.Abreast ground drawn index request names drew world run own := by
  have unstaged := wired.2
  rw [phase] at unstaged
  cases holds : run.workspace? with
  | none =>
    exact .rest { run with workspace? := none, phase := .finished (.error failure) } [] mirrored
      (by simp only [BuildRun.act, phase, holds]) (by simp only [BuildRun.act, phase, holds]) holds.symm
      rfl id
  | some workspace =>
    obtain ⟨fs', own', removes, removesOwn, turned⟩ := mirrored.removes lies asked inside holds unstaged
      names { run with workspace? := none, phase := .finished (.error failure) } rfl unstaged fun grown =>
        absurd grown (not_grown unstaged id)
    exact .work lies asked inside { run with workspace? := none, phase := .finished (.error failure) } []
      (by simp only [BuildRun.act, phase, holds, Workspace.discard, removes])
      (by simp only [BuildRun.act, phase, holds, Workspace.discard, World.beside, removesOwn]) turned

/-- **Every step of a build comes to the same on its own.** -/
theorem Mirrored.act (lies : crowd.Lies ground always drawn) (tame : crowd.programs.Tame always)
    (asked : crowd.requests[index]? = some request) (wired : run.Wired crowd.builder request)
    (mirrored : crowd.Mirrored ground drawn index request drew world.drawn run world.files own)
    (going : run.result? = none)
    (bounded : (run.act crowd.programs crowd.setting crowd.builder world).1.drawn ≤ drawn)
    (replays : Replays crowd.setting.names
      (drawing drew world (run.act crowd.programs crowd.setting crowd.builder world).1) names) :
    crowd.Abreast ground drawn index request names drew world run own := by
  have inside : world.drawn ≤ drawn := (draws_of_act going rfl).drawn.trans bounded
  cases phase : run.phase with
  | starting => exact mirrored.act_starting lies phase
  | opening => exact mirrored.act_opening lies asked wired phase bounded replays
  | running stage later => exact mirrored.act_running lies tame asked wired inside phase
  | preparing link later => exact mirrored.act_preparing lies asked wired inside phase
  | reserving link later => exact mirrored.act_reserving lies asked wired phase bounded replays
  | vacating link later => exact mirrored.act_vacating lies asked wired inside phase
  | publishing => exact mirrored.act_publishing lies asked wired inside phase
  | closing => exact mirrored.act_closing lies asked wired inside phase
  | withdrawing failure => exact mirrored.act_withdrawing lies asked inside phase
  | abandoning failure => exact mirrored.act_abandoning lies asked wired inside phase
  | finished result =>
    simp only [BuildRun.result?, phase] at going
    cases going

end Abreast

end Crowd

end CalcBuild

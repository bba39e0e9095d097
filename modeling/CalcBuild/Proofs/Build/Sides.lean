/-
**What a build does to both sides.**

What the commands of a build look up, and what it makes, comes to the same for the build among others and
for the build on its own: the workspace, the name for the linker, the steps of its processes, and the
directories of its output.

* `Command.paths`, `Sought`, `planned_paths`: what the commands of a build look up;
* `StageRun.act_congr`: what a stage does is decided by that;
* `Mirrored.opened`, `Mirrored.reserved`: a workspace is made, and a name for the linker drawn;
* `Mirrored.process`: a process takes a step;
* `Mirrored.prepared`: the directories of the output are made.
-/

import CalcBuild.Proofs.Build.Mirror
import CalcBuild.Proofs.Build.Replay

namespace CalcBuild

open Files FileSystem

variable {State : Type}

/-! ### What a command looks up -/

/-- The paths that a command is about: its program, its inputs, what it makes, and what it is called
with. -/
def Command.paths (command : Command) (setting : Setting) : List Bytes :=
  command.program :: command.output :: command.inputs ++ (command.launch setting).named

/-- What the commands of a build look up. -/
inductive Sought (builder : Builder) (request : BuildRequest) (workspace : Workspace)
    (staging? : Option Bytes) : Bytes → Prop where
  | source : Sought builder request workspace staging? builder.runtimeSource
  | text : Sought builder request workspace staging? (Bytes.ofText request.sourceText)
  | tool (stage : Stage) : Sought builder request workspace staging? (builder.toolchain.path stage.tool)
  | artifact {leaf : Bytes} (isLeaf : Path.IsLeaf leaf) :
      Sought builder request workspace staging? (Path.join workspace.path leaf)
  | staging {staging : Bytes} (holds : staging? = some staging) :
      Sought builder request workspace staging? staging

/-- **What the commands of a build look up**: what all builds look up, something in the workspace, and
the name for the linker. -/
theorem planned_paths {builder : Builder} {request : BuildRequest} {workspace : Workspace}
    {staging? : Option Bytes} {command : Command} {setting : Setting}
    (member : command ∈ planned builder request workspace staging?)
    (linked : command.stage = .link → staging? ≠ none) {path : Bytes}
    (about : path ∈ command.paths setting) : Sought builder request workspace staging? path := by
  have runtimeObject : Sought builder request workspace staging? workspace.runtimeObject :=
    .artifact ⟨by decide, by decide⟩
  have exprIr : Sought builder request workspace staging? workspace.exprIr :=
    .artifact ⟨by decide, by decide⟩
  have exprObject : Sought builder request workspace staging? workspace.exprObject :=
    .artifact ⟨by decide, by decide⟩
  have runtime : Sought builder request workspace staging? builder.runtimeSource := .source
  have argument : Sought builder request workspace staging? (Bytes.ofText request.sourceText) := .text
  have program (stage : Stage) : Sought builder request workspace staging?
    (builder.toolchain.path stage.tool) := .tool stage
  -- Flags name no files.
  have flags : (Bytes.ofText "-w").head? = some 0x2D ∧ (Bytes.ofText "-c").head? = some 0x2D ∧
      (Bytes.ofText "--filetype=obj").head? = some 0x2D ∧ (Bytes.ofText "-lc").head? = some 0x2D ∧
      (Bytes.ofText "-lm").head? = some 0x2D ∧ outputFlag.head? = some 0x2D := by decide
  have asks : outputArgument? command.arguments = some command.output := by
    obtain ⟨⟨arguments, shape⟩, _⟩ := planned_output member
    rw [shape]
    exact outputArgument?_append _ _
  unfold Command.paths Launch.named Command.launch at about
  dsimp only at about
  rw [asks] at about
  obtain ⟨original, listed, rfl⟩ := List.mem_map.mp member
  clear asks member
  simp only [BuildRun.commands, plan, List.mem_cons, List.not_mem_nil, or_false] at listed
  rcases listed with rfl | rfl | rfl | rfl <;> cases staging? with
  | none =>
    simp [Command.linkedTo, Command.making, flags] at about linked
    try grind
  | some path' =>
    have link : Sought builder request workspace (some path') path' := .staging rfl
    simp [Command.linkedTo, Command.making, Command.redirect, flags] at about
    grind

/-- What the current command of a build looks up. -/
theorem BuildRun.Wired.sought {builder : Builder} {request : BuildRequest} {run : BuildRun State}
    (wired : run.Wired builder request) {stage : StageRun State} {later : List Command}
    (phase : run.phase = .running stage later) :
    ∃ workspace, run.workspace? = some workspace ∧ ∀ setting, ∀ path ∈ stage.command.paths setting,
      Sought builder request workspace run.staging? path := by
  have stands := wired.2
  rw [phase] at stands
  obtain ⟨workspace, done, holds, _, plan, linked, _⟩ := stands
  exact ⟨workspace, holds, fun setting path about =>
    planned_paths (mem_planned plan) linked.mp about⟩

/-! ### A step of a stage -/

/-- What a stage does is decided by what its command looks up. -/
theorem StageRun.act_congr {programs : Programs State} {setting : Setting} {names : Nat → Bytes}
    {options : StageOptions} {world : World} {run : StageRun State} {own : FileSystem} {count : Nat}
    (starts : programs.start own (run.command.launch setting)
      = programs.start world.files (run.command.launch setting))
    (agree : ∀ path ∈ run.command.paths setting,
      own.AgreeOn world.files (world.files.seenOn setting.cwd path)) :
    run.act programs (setting.renamed names) options (world.beside own count)
      = run.act programs setting options world := by
  have finds {path : Bytes} (member : path ∈ run.command.paths setting) :
      own.pathExists setting.cwd path = world.files.pathExists setting.cwd path := by
    unfold pathExists
    rw [status?_congr (agree path member)]
  have inputs : StageRun.missingInput? (setting.renamed names) own run.command
      = StageRun.missingInput? setting world.files run.command := by
    unfold StageRun.missingInput?
    refine List.find?_congr fun path member => ?_
    exact congrArg (!·) (finds (by simp [Command.paths, member]))
  have judged (status : WaitStatus) : StageRun.rejection? (setting.renamed names) own run.command status
      = StageRun.rejection? setting world.files run.command status := by
    have made : own.pathExists (setting.renamed names).cwd run.command.output
        = world.files.pathExists setting.cwd run.command.output :=
      finds (by simp [Command.paths])
    unfold StageRun.rejection?
    rw [made]
  unfold StageRun.act
  simp only [World.beside, inputs, judged]
  split
  · rfl
  · rfl
  · rw [show run.command.launch (setting.renamed names) = run.command.launch setting from rfl, starts]
  · rfl
  · rfl
  · rfl

/-! ### Both sides -/

namespace Crowd

variable {crowd : Crowd State} {ground : Ground} {always : List Bytes} {drawn index : Nat}
  {request : BuildRequest} {names : Nat → Bytes} {drew : List Nat} {world : World}
  {run : BuildRun State} {own : FileSystem}

section Workspaces

variable {fs : FileSystem}

/-- The path of a workspace denotes its place, if anything. -/
theorem Lies.workspace_place (lies : crowd.Lies ground always drawn)
    (steady : crowd.Steady ground drawn fs) {number : Nat} (early : number < drawn) {dir : Place}
    {name : Bytes} {slashed : Bool} (ends : fs.ending crowd.setting.cwd (crowd.workspacePath number)
      = .ok (.name dir name slashed)) :
    name = Workspace.stem ++ crowd.setting.names number ∧ dir = ground.root ∧ slashed = false := by
  obtain ⟨_, same, unslashed, leads, _⟩ := (ending_join_iff (lies.isLeaf_workspace early)).mp ends
  rw [start_join (lies.isLeaf_workspace early), (lies.rootWay_steady steady).1] at leads
  exact ⟨same, lies.rooted dir leads, unslashed⟩

/-- **Making a workspace does the same on both sides.** -/
theorem Mirrored.makeDirectory_alike (lies : crowd.Lies ground always drawn) {upto : Nat}
    (mirrored : crowd.Mirrored ground drawn index request drew upto run fs own) {number : Nat}
    (late : upto ≤ number) (early : number < drawn) :
    Alike (fun place => place = ground.workspace crowd.setting.names number) fs own
      (fs.makeDirectory crowd.setting.cwd (crowd.workspacePath number))
      (own.makeDirectory crowd.setting.cwd (crowd.workspacePath number)) := by
  have agree : own.AgreeOn fs (fs.lookedAt crowd.setting.cwd (crowd.workspacePath number)) := by
    intro place member
    have calm := lies.workspace_lookedAt mirrored.steady early member
    rw [mirrored.steady place calm, mirrored.steadyOwn place calm]
  have listed : own.Listed fs crowd.setting.cwd (crowd.workspacePath number) := by
    intro dir name slashed ends _
    obtain ⟨rfl, rfl, _⟩ := lies.workspace_place mirrored.steady early ends
    obtain ⟨was, wasOwn⟩ := mirrored.fresh number late early _ (.inl (isWithin_self _))
    unfold Ground.workspace at was wasOwn
    rw [was, wasOwn]
  refine (FileSystem.makeDirectory_alike agree listed).mono fun place denotes => ?_
  obtain ⟨dir, name, rfl, ends⟩ := placeOf_eq_some_iff.mp denotes
  obtain ⟨rfl, rfl, _⟩ := lies.workspace_place mirrored.steady early ends
  rfl

variable {upto upto' : Nat} {run' : BuildRun State} {drew' : List Nat} {fs' own' : FileSystem}

/-- What is left at the names that were drawn, after a turn that lets go of nothing. -/
theorem Mirrored.swept_next (mirrored : crowd.Mirrored ground drawn index request drew upto run fs own)
    (workspaces : run.workspace? = none ∨ run'.workspace? = run.workspace?)
    (stagings : run.staging? = none ∨ run'.staging? = run.staging?)
    (longer : Longer drew drew' upto upto' drawn)
    (changes : ∀ number ∈ drew', ∀ place, ground.Named crowd.setting.names index number place →
      fs'.get? place = fs.get? place ∨
        (∃ workspace, run'.workspace? = some workspace ∧
          workspace.path = crowd.workspacePath number ∧
          isWithin (ground.workspace crowd.setting.names number) place = true) ∨
        run'.staging? = some (stagingPath crowd.setting request.output number) ∧
          place = ground.staging crowd.setting.names index number) :
    ∀ number ∈ drew', ∀ place, ground.Named crowd.setting.names index number place →
      fs'.get? place = crowd.world.files.get? place ∨
        (∃ workspace, run'.workspace? = some workspace ∧
          workspace.path = crowd.workspacePath number ∧
          isWithin (ground.workspace crowd.setting.names number) place = true) ∨
        run'.staging? = some (stagingPath crowd.setting request.output number) ∧
          place = ground.staging crowd.setting.names index number := by
  intro number member place named
  refine (changes number member place named).elim (fun same => ?_) .inr
  rw [same]
  have before := longer.before number member
  refine (mirrored.swept (longer.new number member) before named).imp_right (.imp ?_ ?_)
  · rintro ⟨workspace, holds, rest⟩
    rcases workspaces with nothing | kept
    · rw [nothing] at holds
      cases holds
    · exact ⟨workspace, kept.trans holds, rest⟩
  · rintro ⟨holds, rest⟩
    rcases stagings with nothing | kept
    · rw [nothing] at holds
      cases holds
    · exact ⟨kept.trans holds, rest⟩

/-- **A workspace is made on both sides.** -/
theorem Mirrored.opened (lies : crowd.Lies ground always drawn)
    (asked : crowd.requests[index]? = some request)
    (mirrored : crowd.Mirrored ground drawn index request drew upto run fs own)
    (longer : Longer drew drew' upto upto' drawn) {number : Nat}
    (late : upto ≤ number) (member : number ∈ drew')
    (makes : fs.makeDirectory crowd.setting.cwd (crowd.workspacePath number) = .ok fs')
    (makesOwn : own.makeDirectory crowd.setting.cwd (crowd.workspacePath number) = .ok own')
    (nothing : run.workspace? = none) (unstaged : run.staging? = none)
    (holds : run'.workspace? = some ⟨crowd.workspacePath number⟩) (unstaged' : run'.staging? = none)
    (still : run'.IsGrown → run.IsGrown) :
    crowd.Mirrored ground drawn index request drew' upto' run' fs' own' ∧
      Together (ground.Own crowd.setting.names index drew') fs fs' own own' := by
  have before : number < drawn := longer.before number member
  have alike := mirrored.makeDirectory_alike lies late before
  rw [makes, makesOwn] at alike
  cases alike with
  | done changes =>
    have together : Together (ground.Own crowd.setting.names index drew') fs fs' own own' :=
      changes.mono fun place same => .inr ⟨number, member, .inl (same ▸ isWithin_self _)⟩
    obtain ⟨dir, name, slashed, ends, short, free, allowed, rfl⟩ := makeDirectory_eq_ok_iff.mp makes
    obtain ⟨rfl, rfl, rfl⟩ := lies.workspace_place mirrored.steady before ends
    have proper : ground.workspace crowd.setting.names number ≠ [] := List.cons_ne_nil _ _
    have here : ground.Named crowd.setting.names index number
        (ground.workspace crowd.setting.names number) := .inl (isWithin_self _)
    have view (place : Place) : (fs.put (ground.workspace crowd.setting.names number)
        (.directory Mode.ofDirectory)).get? place
          = if place = ground.workspace crowd.setting.names number then some (.directory Mode.ofDirectory)
            else fs.get? place := get?_put fs _ place proper
    refine ⟨mirrored.work lies asked (makeDirectory_sound makes mirrored.sound)
      (makeDirectory_sound makesOwn mirrored.soundOwn) longer together still
      ⟨fun workspace held => ?_, fun staging held => ?_, mirrored.swept_next (.inl nothing)
        (.inl unstaged) longer fun number' member' place named => ?_⟩, together⟩
    · rw [holds] at held
      cases held
      refine ⟨number, member, rfl, ?_, (lies.workspace_ending mirrored.steady before).symm.trans ends,
        short, ?_, (view _).trans (if_pos rfl), fun place within differs entry found => ?_⟩
      · rw [← (mirrored.fresh number late before _ here).1]
        exact free
      · obtain ⟨_, _, finds, _⟩ := ending_name ends
        rw [← mayChange_congr (mirrored.steady ground.root
          (lies.workspace_lookedAt mirrored.steady before (mem_trail_end finds)))]
        exact allowed
      · refine absurd (found.symm.trans ((view place).trans (if_neg differs))) ?_
        rw [get?_within_free mirrored.sound.closed free within]
        exact nofun
    · rw [unstaged'] at held
      cases held
    · by_cases same : place = ground.workspace crowd.setting.names number
      · obtain rfl := lies.named_eq (listed_of_asked asked) (listed_of_asked asked)
          (longer.before number' member') before named (same ▸ here)
        exact .inr (.inl ⟨_, holds, rfl, same ▸ isWithin_self _⟩)
      · exact .inl ((view place).trans (if_neg same))

end Workspaces

section Stagings

variable {fs : FileSystem}

/-- Where no build changes anything both sides are the same, and where the directories of the output
are. -/
theorem Mirrored.same_near {upto : Nat}
    (mirrored : crowd.Mirrored ground drawn index request drew upto run fs own) (grown : run.IsGrown)
    {place : Place} (near : crowd.Calm ground drawn place ∨ (ground.site index).Makes place) :
    own.get? place = fs.get? place := by
  rcases near with calm | makes
  · rw [mirrored.steady place calm, mirrored.steadyOwn place calm]
  · rw [(mirrored.grown grown).full.get? makes, (mirrored.grownOwn grown).full.get? makes]

/-- A name for the linker denotes its place, if anything. -/
theorem Grown.staging_place (grown : crowd.Grown ground drawn index request.output fs)
    (steady : crowd.Steady ground drawn fs) {number : Nat}
    (plain : Path.slash ∉ crowd.setting.names number) {dir : Place} {name : Bytes} {slashed : Bool}
    (ends : fs.ending crowd.setting.cwd (stagingPath crowd.setting request.output number)
      = .ok (.name dir name slashed)) :
    pathFault? (stagingPath crowd.setting request.output number) = none ∧
      name = Staging.stem ++ crowd.setting.names number ∧ dir = (ground.site index).dir := by
  obtain ⟨sane, same, _, leads, _⟩ := (ending_join_iff (Staging.isLeaf plain)).mp ends
  have leads' := (grown.directory_leads steady).1
  rw [start_join (Staging.isLeaf plain)] at leads
  refine ⟨sane, same, ?_⟩
  rw [show crowd.setting.anchor (Staging.directory request.output) = crowd.directoryPath request.output
    from rfl, leads'] at leads
  cases leads
  rfl

/-- **Making the empty file does the same on both sides.** -/
theorem Mirrored.createNew_alike (lies : crowd.Lies ground always drawn) {upto : Nat}
    (mirrored : crowd.Mirrored ground drawn index request drew upto run fs own) (grown : run.IsGrown)
    {number : Nat} (late : upto ≤ number) (early : number < drawn) :
    Alike (fun place => place = ground.staging crowd.setting.names index number) fs own
      (fs.createNew crowd.setting.cwd Staging.mode (stagingPath crowd.setting request.output number))
      (own.createNew crowd.setting.cwd Staging.mode
        (stagingPath crowd.setting request.output number)) := by
  have plain := lies.plain number early
  have agree : own.AgreeOn fs
      (fs.lookedAt crowd.setting.cwd (stagingPath crowd.setting request.output number)) :=
    fun place member => mirrored.same_near grown
      ((mirrored.grown grown).staging_lookedAt mirrored.steady plain member)
  have listed : own.Listed fs crowd.setting.cwd (stagingPath crowd.setting request.output number) := by
    intro dir name slashed ends _
    obtain ⟨_, rfl, rfl⟩ := (mirrored.grown grown).staging_place mirrored.steady plain ends
    obtain ⟨was, wasOwn⟩ := mirrored.fresh number late early _ (.inr rfl)
    unfold Ground.staging at was wasOwn
    rw [was, wasOwn]
  refine (FileSystem.createNew_alike agree listed).mono fun place denotes => ?_
  obtain ⟨dir, name, rfl, ends⟩ := placeOf_eq_some_iff.mp denotes
  obtain ⟨_, rfl, rfl⟩ := (mirrored.grown grown).staging_place mirrored.steady plain ends
  rfl

variable {upto upto' : Nat} {run' : BuildRun State} {drew' : List Nat} {fs' own' : FileSystem}

/-- **A name for the linker is drawn on both sides.** -/
theorem Mirrored.reserved (lies : crowd.Lies ground always drawn)
    (asked : crowd.requests[index]? = some request)
    (mirrored : crowd.Mirrored ground drawn index request drew upto run fs own) (grown : run.IsGrown)
    (longer : Longer drew drew' upto upto' drawn) {number : Nat}
    (late : upto ≤ number) (member : number ∈ drew')
    (makes : fs.createNew crowd.setting.cwd Staging.mode
      (stagingPath crowd.setting request.output number) = .ok fs')
    (makesOwn : own.createNew crowd.setting.cwd Staging.mode
      (stagingPath crowd.setting request.output number) = .ok own')
    (unstaged : run.staging? = none) (workspaces : run'.workspace? = run.workspace?)
    (holds : run'.staging? = some (stagingPath crowd.setting request.output number)) :
    crowd.Mirrored ground drawn index request drew' upto' run' fs' own' ∧
      Together (ground.Own crowd.setting.names index drew') fs fs' own own' := by
  have before : number < drawn := longer.before number member
  have alike := mirrored.createNew_alike lies grown late before
  rw [makes, makesOwn] at alike
  cases alike with
  | done changes =>
    have together : Together (ground.Own crowd.setting.names index drew') fs fs' own own' :=
      changes.mono fun place same => .inr ⟨number, member, .inr same⟩
    obtain ⟨dir, name, ends, short, free, allowed, rfl⟩ := createNew_eq_ok_iff.mp makes
    obtain ⟨sane, rfl, rfl⟩ :=
      (mirrored.grown grown).staging_place mirrored.steady (lies.plain number before) ends
    have proper : ground.staging crowd.setting.names index number ≠ [] := List.cons_ne_nil _ _
    have here : ground.Named crowd.setting.names index number
        (ground.staging crowd.setting.names index number) := .inr rfl
    have view (place : Place) : (fs.put (ground.staging crowd.setting.names index number)
        (.file Staging.mode [])).get? place
          = if place = ground.staging crowd.setting.names index number then some (.file Staging.mode [])
            else fs.get? place := get?_put fs _ place proper
    refine ⟨mirrored.work lies asked (createNew_touched mirrored.sound makes).sound
      (createNew_touched mirrored.soundOwn makesOwn).sound longer together (fun _ => grown)
      ⟨fun workspace held => ?_, fun staging held => ?_, mirrored.swept_next (.inr workspaces)
        (.inl unstaged) longer fun number' member' place named => ?_⟩, together⟩
    · obtain ⟨number', old, path, housed⟩ := mirrored.settles.housed workspace (workspaces ▸ held)
      have earlier := mirrored.early number' old
      refine ⟨number', longer.more old, path, housed.congr fun place within => (view place).trans
        (if_neg fun same => ?_)⟩
      have within' : ground.Named crowd.setting.names index number' place := .inl within
      exact lies.named_apart (listed_of_asked asked) (listed_of_asked asked)
        (longer.before number' (longer.more old)) before (by omega) within' (same ▸ here)
    · rw [holds] at held
      cases held
      refine ⟨number, member, rfl, ?_, sane, short, fun outermost => ?_, ?_⟩
      · rw [← (mirrored.fresh number late before _ here).1]
        exact free
      · rw [← mayChange_congr (mirrored.steady _ (lies.base_calm asked))]
        unfold Site.dir at allowed
        rwa [outermost] at allowed
      · intro entry found
        exact ⟨_, _, Option.some.inj (found.symm.trans ((view _).trans (if_pos rfl)))⟩
    · by_cases same : place = ground.staging crowd.setting.names index number
      · obtain rfl := lies.named_eq (listed_of_asked asked) (listed_of_asked asked)
          (longer.before number' member') before named (same ▸ here)
        exact .inr (.inr ⟨holds, same⟩)
      · exact .inl ((view place).trans (if_neg same))

end Stagings

section Work

variable {fs : FileSystem} {upto : Nat}

/-- **What the commands of a build look up is the same on both sides.** -/
theorem Mirrored.agree_sought (lies : crowd.Lies ground always drawn)
    (asked : crowd.requests[index]? = some request)
    (mirrored : crowd.Mirrored ground drawn index request drew upto run fs own) (inside : upto ≤ drawn)
    {workspace : Workspace} (holds : run.workspace? = some workspace) {path : Bytes}
    (sought : Sought crowd.builder request workspace run.staging? path) :
    own.AgreeOn fs (fs.seenOn crowd.setting.cwd path) := by
  have shared {path : Bytes} (member : path ∈ crowd.lookups always) :=
    lies.agree_lookups mirrored.steady mirrored.steadyOwn member
  have early {number : Nat} (member : number ∈ drew) : number < drawn :=
    mirrored.before inside number member
  cases sought with
  | source => exact shared (by simp [lookups])
  | text =>
    exact shared (List.mem_append_right _ (List.mem_map.mpr ⟨request, List.mem_of_getElem? asked, rfl⟩))
  | tool stage => exact shared (by cases stage <;> simp [lookups, Stage.order])
  | artifact isLeaf =>
    obtain ⟨number, member, path, housed⟩ := mirrored.settles.housed workspace holds
    intro place seen
    rw [path] at seen
    rcases lies.artifact_seenOn mirrored.steady (early member) housed isLeaf seen with calm | within
    · rw [mirrored.steady place calm, mirrored.steadyOwn place calm]
    · exact mirrored.agree place (.inr ⟨number, member, .inl within⟩)
  | staging staged =>
    obtain ⟨number, member, path, held⟩ := mirrored.settles.staged _ staged
    have grown : run.IsGrown := .inr (by rw [staged]; exact nofun)
    intro place seen
    rw [path] at seen
    rcases (mirrored.grown grown).staging_seenOn mirrored.steady (lies.plain number (early member))
      held.regular seen with calm | makes | rfl
    · exact mirrored.same_near grown (.inl calm)
    · exact mirrored.same_near grown (.inr makes)
    · exact mirrored.agree _ (.inr ⟨number, member, .inr rfl⟩)

/-- No names are drawn. -/
theorem Mirrored.longer_refl (mirrored : crowd.Mirrored ground drawn index request drew upto run fs own)
    (inside : upto ≤ drawn) : Longer drew drew upto upto drawn :=
  ⟨List.Subset.refl _, mirrored.early, Nat.le_refl _, inside, fun _ member => .inl member⟩

variable {run' : BuildRun State} {fs' own' : FileSystem}

/-- A turn that leaves all files as they are. -/
theorem Mirrored.unmoved (lies : crowd.Lies ground always drawn)
    (asked : crowd.requests[index]? = some request)
    (mirrored : crowd.Mirrored ground drawn index request drew upto run fs own) {drew' : List Nat}
    {upto' : Nat} (longer : Longer drew drew' upto upto' drawn) (sound : fs'.Sound)
    (soundOwn : own'.Sound) (same : ∀ place, fs'.get? place = fs.get? place)
    (sameOwn : ∀ place, own'.get? place = own.get? place)
    (workspaces : run'.workspace? = run.workspace?) (stagings : run'.staging? = run.staging?)
    (still : run'.IsGrown → run.IsGrown) :
    crowd.Mirrored ground drawn index request drew' upto' run' fs' own' ∧
      Together (ground.Own crowd.setting.names index drew') fs fs' own own' := by
  have together : Together (ground.Own crowd.setting.names index drew') fs fs' own own' :=
    fun place => .inl ⟨same place, sameOwn place⟩
  refine ⟨mirrored.work lies asked sound soundOwn longer together still
    ⟨fun workspace holds => ?_, fun staging holds => ?_, mirrored.swept_next (.inr workspaces)
      (.inr stagings) longer fun _ _ place _ => .inl (same place)⟩, together⟩
  · obtain ⟨number, member, path, housed⟩ := mirrored.settles.housed workspace (workspaces ▸ holds)
    exact ⟨number, longer.more member, path, housed.congr fun place _ => same place⟩
  · obtain ⟨number, member, path, held⟩ := mirrored.settles.staged staging (stagings ▸ holds)
    refine ⟨number, longer.more member, path, held.congr ?_⟩
    rw [same]
    exact held.regular

/-- A place at which a build may work: in its workspace, or at the name for the linker. -/
def WorksAt (crowd : Crowd State) (ground : Ground) (index : Nat) (request : BuildRequest)
    (run : BuildRun State) (number : Nat) (place : Place) : Prop :=
  (∃ workspace, run.workspace? = some workspace ∧ workspace.path = crowd.workspacePath number ∧
      isWithin (ground.workspace crowd.setting.names number) place = true) ∨
    run.staging? = some (stagingPath crowd.setting request.output number) ∧
      place = ground.staging crowd.setting.names index number

/-- **A regular file is written or removed on both sides** at a place at which the build may work. -/
theorem Mirrored.worked (lies : crowd.Lies ground always drawn)
    (asked : crowd.requests[index]? = some request)
    (mirrored : crowd.Mirrored ground drawn index request drew upto run fs own) (inside : upto ≤ drawn)
    {number : Nat} (member : number ∈ drew) {place : Place}
    (proper : place ≠ ground.workspace crowd.setting.names number)
    (held : crowd.WorksAt ground index request run number place) (sound : fs'.Sound)
    (soundOwn : own'.Sound) (together : Together (· = place) fs fs' own own')
    (leaves : fs'.get? place = fs.get? place ∨ IsPlain (fs'.get? place))
    (workspaces : run'.workspace? = run.workspace?) (stagings : run'.staging? = run.staging?)
    (still : run'.IsGrown → run.IsGrown) :
    crowd.Mirrored ground drawn index request drew upto run' fs' own' ∧
      Together (ground.Own crowd.setting.names index drew) fs fs' own own' := by
  have named : ground.Named crowd.setting.names index number place :=
    held.imp (fun ⟨_, _, _, within⟩ => within) And.right
  have longer := mirrored.longer_refl inside
  have listed := listed_of_asked asked
  have same (other : Place) (differs : other ≠ place) : fs'.get? other = fs.get? other :=
    ((together other).resolve_right fun ⟨here, _⟩ => differs here).1
  have alone {number' : Nat} (member' : number' ∈ drew)
      (named' : ground.Named crowd.setting.names index number' place) : number' = number :=
    lies.named_eq listed listed (longer.before number' member') (longer.before number member) named' named
  have owned : Together (ground.Own crowd.setting.names index drew) fs fs' own own' :=
    together.mono fun other here => .inr ⟨number, member, here ▸ named⟩
  refine ⟨mirrored.work lies asked sound soundOwn longer owned still
    ⟨fun workspace holds => ?_, fun staging holds => ?_, mirrored.swept_next (.inr workspaces)
      (.inr stagings) longer fun number' member' other named' => ?_⟩, owned⟩
  · obtain ⟨number', member', path, housed⟩ := mirrored.settles.housed workspace (workspaces ▸ holds)
    refine ⟨number', member', path, { housed with own := ?_, plain := ?_ }⟩
    · rw [same, housed.own]
      intro here
      exact proper (by rw [← here, alone member' (.inl (here ▸ isWithin_self _))])
    · intro other within differs
      by_cases here : other = place
      · subst here
        rcases leaves with kept | plain
        · rw [kept]
          exact housed.plain other within differs
        · exact plain
      · rw [same other here]
        exact housed.plain other within differs
  · obtain ⟨number', member', path, grasped⟩ := mirrored.settles.staged staging (stagings ▸ holds)
    refine ⟨number', member', path, grasped.congr ?_⟩
    by_cases here : ground.staging crowd.setting.names index number' = place
    · rw [here]
      rcases leaves with kept | plain
      · rw [kept, ← here]
        exact grasped.regular
      · exact plain
    · rw [same _ here]
      exact grasped.regular
  · by_cases here : other = place
    · subst here
      rw [alone member' named']
      refine .inr (held.imp ?_ ?_)
      · rintro ⟨workspace, holds, rest⟩
        exact ⟨workspace, workspaces.trans holds, rest⟩
      · rintro ⟨holds, rest⟩
        exact ⟨stagings.trans holds, rest⟩
    · exact .inl (same other here)

/-- What the artifact of a command denotes is a place at which the build may work. -/
theorem Mirrored.artifact_held (lies : crowd.Lies ground always drawn)
    (mirrored : crowd.Mirrored ground drawn index request drew upto run fs own) (inside : upto ≤ drawn)
    {workspace : Workspace} (holds : run.workspace? = some workspace) {leaf : Bytes}
    (isLeaf : Path.IsLeaf leaf) {place : Place}
    (denotes : fs.placeOf crowd.setting.cwd (Path.join workspace.path leaf) = some place) :
    ∃ number ∈ drew, place ≠ ground.workspace crowd.setting.names number ∧
      crowd.WorksAt ground index request run number place := by
  obtain ⟨number, member, path, housed⟩ := mirrored.settles.housed workspace holds
  have early := mirrored.before inside number member
  obtain ⟨dir, name, rfl, ends⟩ := placeOf_eq_some_iff.mp denotes
  rw [path] at ends
  obtain ⟨_, rfl, _, leads, _⟩ := (ending_join_iff isLeaf).mp ends
  have directory : fs.isDirectoryAt (ground.workspace crowd.setting.names number) = true :=
    isDirectoryAt_iff.mpr ⟨_, housed.own⟩
  rw [start_join isLeaf, walk_directory ((lies.workspace_ending mirrored.steady early).trans housed.ends)
    housed.short directory] at leads
  cases leads
  exact ⟨number, member, List.cons_ne_self _ _,
    .inl ⟨workspace, holds, path, isWithin_cons _ (isWithin_self _)⟩⟩

/-- What the name for the linker denotes is a place at which the build may work. -/
theorem Mirrored.staging_held (lies : crowd.Lies ground always drawn)
    (mirrored : crowd.Mirrored ground drawn index request drew upto run fs own) (inside : upto ≤ drawn)
    {staging : Bytes} (holds : run.staging? = some staging) :
    ∃ number ∈ drew, staging = stagingPath crowd.setting request.output number ∧
      crowd.Held ground index request.output fs number ∧
      fs.ending crowd.setting.cwd staging
        = .ok (.name (ground.site index).dir (Staging.stem ++ crowd.setting.names number) false) ∧
      ground.staging crowd.setting.names index number ≠ ground.workspace crowd.setting.names number ∧
      crowd.WorksAt ground index request run number
        (ground.staging crowd.setting.names index number) := by
  obtain ⟨number, member, rfl, held⟩ := mirrored.settles.staged staging holds
  have plain := lies.plain number (mirrored.before inside number member)
  have grown := mirrored.grown (.inr (by rw [holds]; exact nofun))
  exact ⟨number, member, rfl, held, grown.staging_ends mirrored.steady plain held.sane,
    fun same => stems_differ _ _ (List.cons.inj same).1.symm, .inr ⟨holds, rfl⟩⟩

/-- **A process takes the same step on both sides.** -/
theorem Mirrored.process (lies : crowd.Lies ground always drawn) (tame : crowd.programs.Tame always)
    (asked : crowd.requests[index]? = some request)
    (mirrored : crowd.Mirrored ground drawn index request drew upto run fs own) (inside : upto ≤ drawn)
    (wired : run.Wired crowd.builder request) (started : run.Started crowd.programs crowd.setting)
    {command : Command} {state : State} {wakes since due : Nat} {later : List Command}
    (phase : run.phase = .running ⟨command, .waiting (.running state wakes) since due⟩ later)
    (child : Child State) :
    (crowd.programs.step own state).2 = (crowd.programs.step fs state).2 ∧
      crowd.Mirrored ground drawn index request drew upto
        { run with phase := .running ⟨command, .waiting child since due⟩ later }
        (crowd.programs.step fs state).1 (crowd.programs.step own state).1 ∧
      Together (ground.Own crowd.setting.names index drew) fs (crowd.programs.step fs state).1 own
        (crowd.programs.step own state).1 := by
  obtain ⟨workspace, holds, asks, inWorkspace, atStaging⟩ := wired.artifact phase
  have reaches := started _ _ _ _ _ _ phase
  have agree : ∀ path ∈ (command.launch crowd.setting).named ++ always,
      own.AgreeOn fs (fs.seenOn crowd.setting.cwd path) := by
    intro path member
    rcases List.mem_append.mp member with named | shared
    · obtain ⟨_, holds, sought⟩ := wired.sought phase
      exact mirrored.agree_sought lies asked inside holds
        (sought crowd.setting path (List.mem_append_right _ named))
    · exact lies.agree_lookups mirrored.steady mirrored.steadyOwn (by simp [lookups, shared])
  obtain ⟨moves, together⟩ := tame.step_alike reaches asks mirrored.sound mirrored.soundOwn agree
  refine ⟨moves, ?_⟩
  have sound := tame.sound reaches mirrored.sound
  have soundOwn := tame.sound reaches mirrored.soundOwn
  have still : ({ run with phase := .running ⟨command, .waiting child since due⟩ later } :
      BuildRun State).IsGrown → run.IsGrown := by
    rintro (grown | staged)
    · cases grown
    · exact .inr staged
  cases denotes : fs.placeOf crowd.setting.cwd command.output with
  | none =>
    have nowhere (place : Place) := (together place).resolve_right fun ⟨here, _⟩ => by
      rw [show fs.placeOf (command.launch crowd.setting).cwd command.output = none from denotes] at here
      cases here
    exact mirrored.unmoved lies asked (mirrored.longer_refl inside) sound soundOwn
      (fun place => (nowhere place).1) (fun place => (nowhere place).2) rfl rfl still
  | some place =>
    obtain ⟨number, member, proper, held⟩ : ∃ number ∈ drew,
        place ≠ ground.workspace crowd.setting.names number ∧
          crowd.WorksAt ground index request run number place := by
      cases staged : run.staging? with
      | none =>
        obtain ⟨leaf, isLeaf, made⟩ := inWorkspace staged
        exact mirrored.artifact_held lies inside holds isLeaf (made ▸ denotes)
      | some staging =>
        obtain ⟨number, member, _, _, ends, proper, held⟩ := mirrored.staging_held lies inside staged
        have made := atStaging staging staged
        dsimp only at made
        rw [made, placeOf_of_ending ends] at denotes
        cases denotes
        exact ⟨number, member, proper, held⟩
    refine mirrored.worked lies asked inside member proper held sound soundOwn
      (together.mono fun other here => ?_) (tame.leaves place reaches mirrored.sound) rfl rfl still
    exact (Option.some.inj (here.symm.trans denotes))

end Work

section Directories

variable {fs : FileSystem} {upto : Nat} {run' : BuildRun State}

/-- The directories of an output are missing in the beginning. -/
theorem Lies.partly_start (lies : crowd.Lies ground always drawn)
    (asked : crowd.requests[index]? = some request) :
    crowd.world.files.Partly (ground.site index).base (ground.site index).missing := by
  have sited := lies.sited index request asked
  obtain ⟨_, _, _, under, _⟩ := sited.begins
  exact ⟨under.ordinary, fun place below => .inl (sited.free place below)⟩

/-- The directory above those that are missing. -/
theorem Lies.base_directory (lies : crowd.Lies ground always drawn)
    (asked : crowd.requests[index]? = some request) (steady : crowd.Steady ground drawn fs) :
    ∃ mode, fs.get? (ground.site index).base = some (.directory mode) := by
  obtain ⟨_, _, rests, _⟩ := (lies.sited index request asked).begins
  obtain ⟨mode, directory, _⟩ := rests.enters
  exact ⟨mode, (steady _ (lies.base_calm asked)).trans directory⟩

/-- **Where the directories of an output were made**, they could be made in the beginning. -/
theorem Lies.grown_of_made (lies : crowd.Lies ground always drawn)
    (asked : crowd.requests[index]? = some request) (steady : crowd.Steady ground drawn fs)
    (part : fs.Partly (ground.site index).base (ground.site index).missing) {made : FileSystem}
    (makes : fs.descend (ground.site index).base (ground.site index).missing = (made, .ok ())) :
    crowd.Grown ground drawn index request.output made := by
  obtain ⟨mode, directory⟩ := lies.base_directory asked steady
  have start := lies.partly_start asked
  have first := lies.prepare_eq asked (fun _ _ => rfl) start
  obtain ⟨results, places⟩ := descend_together directory
    (steady _ (lies.base_calm asked)).symm part start
  rw [makes] at results
  have descends : crowd.world.files.descend (ground.site index).base (ground.site index).missing
      = ((crowd.world.files.descend (ground.site index).base (ground.site index).missing).1, .ok ()) :=
    Prod.ext rfl results
  refine ⟨descend_full part.bare makes, _, fun place calm => ?_,
    fun place below => (descend_full start.bare descends).get? below,
    (lies.sited index request asked).lands _ (first.trans descends)⟩
  rcases places place with ⟨_, kept⟩ | ⟨below, _⟩
  · exact kept
  · exact absurd (.inr (.inl below)) (calm index (listed_of_asked asked))

/-- **Making the directories of the output does the same on both sides.** -/
theorem Mirrored.prepared (lies : crowd.Lies ground always drawn)
    (asked : crowd.requests[index]? = some request)
    (mirrored : crowd.Mirrored ground drawn index request drew upto run fs own) (inside : upto ≤ drawn) :
    (own.makeDirectories crowd.setting.cwd (Staging.directory request.output)).2
        = (fs.makeDirectories crowd.setting.cwd (Staging.directory request.output)).2 ∧
      ∀ run' : BuildRun State, run'.workspace? = run.workspace? → run'.staging? = none →
        run.staging? = none →
        (run'.IsGrown →
          (fs.makeDirectories crowd.setting.cwd (Staging.directory request.output)).2 = .ok ()) →
        crowd.Mirrored ground drawn index request drew upto run'
            (fs.makeDirectories crowd.setting.cwd (Staging.directory request.output)).1
            (own.makeDirectories crowd.setting.cwd (Staging.directory request.output)).1 ∧
          Together (ground.Home crowd.setting.names index drew) fs
            (fs.makeDirectories crowd.setting.cwd (Staging.directory request.output)).1 own
            (own.makeDirectories crowd.setting.cwd (Staging.directory request.output)).1 ∧
          (ground.site index).Stays fs
            (fs.makeDirectories crowd.setting.cwd (Staging.directory request.output)).1 := by
  have sound := (makeDirectories_madeBy fs crowd.setting.cwd (Staging.directory request.output)).sound
    mirrored.sound
  have soundOwn := (makeDirectories_madeBy own crowd.setting.cwd
    (Staging.directory request.output)).sound mirrored.soundOwn
  rw [lies.prepare_eq asked mirrored.steady mirrored.part] at sound ⊢
  rw [lies.prepare_eq asked mirrored.steadyOwn mirrored.partOwn] at soundOwn ⊢
  obtain ⟨mode, directory⟩ := lies.base_directory asked mirrored.steady
  have base := lies.base_calm asked
  obtain ⟨results, places⟩ := descend_together directory
    ((mirrored.steadyOwn _ base).trans (mirrored.steady _ base).symm) mirrored.part mirrored.partOwn
  refine ⟨results, fun run' workspaces unstaged' unstaged finishes => ?_⟩
  have together : Together (ground.Home crowd.setting.names index drew) fs
      (fs.descend (ground.site index).base (ground.site index).missing).1 own
      (own.descend (ground.site index).base (ground.site index).missing).1 := fun place =>
    (places place).imp_right fun ⟨below, _, made, madeOwn⟩ =>
      ⟨.inr (.inl below), madeOwn.trans made.symm⟩
  have unmade {place : Place} (other : ¬ (ground.site index).Makes place) :=
    (places place).resolve_right fun ⟨below, _⟩ => other below
  have still := @unmade (ground.site index).base fun below => Nat.lt_irrefl _ below.2
  have allowed : own.mayChange (ground.site index).base = fs.mayChange (ground.site index).base :=
    mayChange_congr ((mirrored.steadyOwn _ base).trans (mirrored.steady _ base).symm)
  have longer := mirrored.longer_refl inside
  have apart {number : Nat} (member : number ∈ drew) {place : Place}
      (named : ground.Named crowd.setting.names index number place) :
      (fs.descend (ground.site index).base (ground.site index).missing).1.get? place = fs.get? place :=
    (unmade fun makes => lies.not_named (listed_of_asked asked) makes.within
      (longer.before number member) index named).1
  refine ⟨mirrored.change lies asked sound soundOwn longer together
    ⟨mirrored.part.ordinary, fun place below => ?_⟩ ⟨mirrored.part.ordinary, fun place below => ?_⟩
    (fun grown => ?_) (fun grown => ?_) ⟨fun workspace holds => ?_, fun staging holds => ?_,
      mirrored.swept_next (.inr workspaces) (.inl unstaged) longer fun number member place named =>
        .inl (apart member named)⟩, together,
    fun place _ => (places place).imp And.left fun ⟨_, _, made, _⟩ => made⟩
  · rw [mayChange_congr still.1]
    rcases places place with ⟨kept, _⟩ | ⟨_, may, made, _⟩
    · rw [kept]
      exact mirrored.part.listed place below
    · exact .inr ⟨made, may⟩
  · rw [mayChange_congr still.2]
    rcases places place with ⟨_, kept⟩ | ⟨_, may, _, made⟩
    · rw [kept]
      exact mirrored.partOwn.listed place below
    · exact .inr ⟨made, allowed.trans may⟩
  · exact lies.grown_of_made asked mirrored.steady mirrored.part (Prod.ext rfl (finishes grown))
  · exact lies.grown_of_made asked mirrored.steadyOwn mirrored.partOwn
      (Prod.ext rfl (results.trans (finishes grown)))
  · obtain ⟨number, member, path, housed⟩ := mirrored.settles.housed workspace (workspaces ▸ holds)
    exact ⟨number, member, path, housed.congr fun place within => apart member (.inl within)⟩
  · rw [unstaged'] at holds
    cases holds

end Directories

end Crowd

end CalcBuild

/-
**Workspaces from their making to their removal.**

Any number of workspaces may be in use at the same time. Work inside them writes files and makes
directories and links, and they are removed in any order. All they share is the tree that they are in.

* `Work`, `Workspaces`, `Runs`: work in workspaces, and runs of any length;
* `Housed`: what is true of the places of the workspaces in use;
* `Housed.work`, `Housed.create`, `Housed.remove`: what keeps it so;
* `Orderly`, `runs_orderly`: what follows at every moment.
-/

import CalcBuild.Proofs.Build.Reserve
import CalcBuild.Proofs.Files.Beside
import CalcBuild.Proofs.Files.Removal
import CalcBuild.Proofs.Files.Writing
import Mathlib

namespace CalcBuild

open Files FileSystem

/-! ### Work inside workspaces -/

/-- Work on the files of a workspace. -/
inductive Work where
  | write (path contents : Bytes)
  | makeDirectory (path : Bytes)
  | symlink (target path : Bytes)
  | setMode (mode : Mode) (path : Bytes)
  deriving DecidableEq, Repr

namespace Work

/-- What the work makes of the files. -/
def result (cwd : Place) (files : FileSystem) : Work → Except Fault FileSystem
  | .write path contents => files.write cwd path contents
  | .makeDirectory path => files.makeDirectory cwd path
  | .symlink target path => files.symlink cwd target path
  | .setMode mode path => files.setMode cwd mode path

/-- The place where the work changes something, if its path leads to one. -/
def place? (cwd : Place) (files : FileSystem) : Work → Option Place
  | .write path _ => (files.locate cwd true path).toOption.map Spot.place
  | .makeDirectory path => files.placeOf cwd path
  | .symlink _ path => files.placeOf cwd path
  | .setMode _ path => (files.find cwd true path).toOption.map Prod.fst

/-- **Work changes the entry at its place**, if that is below the root. -/
theorem changes {cwd : Place} {files files' : FileSystem} (sound : files.Sound) {work : Work}
    (works : work.result cwd files = .ok files') :
    ∃ place, work.place? cwd files = some place ∧ (place ≠ [] → ChangedAt place files files') := by
  cases work with
  | write path contents =>
    obtain ⟨spot, locates, changed⟩ := write_changed sound works
    exact ⟨spot.place, by simp [place?, locates, Except.toOption], fun _ => changed⟩
  | makeDirectory path =>
    obtain ⟨place, denotes, changed⟩ := makeDirectory_changed sound works
    exact ⟨place, denotes, fun _ => changed⟩
  | symlink target path =>
    obtain ⟨place, denotes, changed⟩ := symlink_changed sound works
    exact ⟨place, denotes, fun _ => changed⟩
  | setMode mode path =>
    obtain ⟨place, entry, finds, changed⟩ := setMode_changed sound works
    exact ⟨place, by simp [place?, finds, Except.toOption], changed⟩

end Work

/-- The place of a workspace: what its path denotes. -/
def Workspace.home? (setting : Setting) (files : FileSystem) (workspace : Workspace) : Option Place :=
  files.placeOf setting.cwd workspace.path

/-- The workspaces in use, and the world that they are in. -/
structure Workspaces where
  world : World
  live : List Workspace

namespace Workspaces

/-- What can be done next. A workspace is removed when it is dropped, and when it is closed. -/
inductive Operation where
  | create (root? : Option Bytes)
  | work (work : Work)
  | drop (workspace : Workspace)
  | close (workspace : Workspace)
  deriving DecidableEq, Repr

/-- The workspace that an operation removes. -/
def Operation.removed? : Operation → Option Workspace
  | .drop workspace | .close workspace => some workspace
  | .create _ | .work _ => none

/-- The workspaces with other files. -/
def withFiles (state : Workspaces) (files : FileSystem) : Workspaces :=
  { state with world := { state.world with files } }

/-- Does an operation. What fails changes nothing in the files, except that a removal may come to a halt
halfway. -/
def act (setting : Setting) (state : Workspaces) : Operation → Workspaces
  | .create root? =>
    match Workspace.create setting root? state.world with
    | (world, .ok workspace) => ⟨world, workspace :: state.live⟩
    | (world, .error _) => ⟨world, state.live⟩
  | .work work =>
    match work.result setting.cwd state.world.files with
    | .ok files => state.withFiles files
    | .error _ => state
  | .drop workspace =>
    { state.withFiles (workspace.discard setting state.world.files) with
      live := state.live.erase workspace }
  | .close workspace =>
    { state.withFiles (workspace.remove setting state.world.files).1 with
      live := state.live.erase workspace }

/-- Whether a place is that of a workspace in use, or lies inside it. -/
def covers (setting : Setting) (state : Workspaces) (place : Place) : Bool :=
  state.live.any fun workspace =>
    (workspace.home? setting state.world.files).any fun home => isWithin home place

/-- Whether a place lies inside a workspace in use. -/
def inside (setting : Setting) (state : Workspaces) (place : Place) : Bool :=
  state.live.any fun workspace =>
    (workspace.home? setting state.world.files).any fun home => isWithin home place && place != home

/-- What may be done: making a workspace in a root that is looked up without passing through one in use,
work inside one, and a removal that is complete. -/
def permits (setting : Setting) (state : Workspaces) : Operation → Bool
  | .create root? =>
    (state.world.files.trail true linkLimit []
      (Path.names (setting.anchor (root?.getD setting.temporaryRoot)))).all fun place =>
        !state.covers setting place
  | .work work => (work.place? setting.cwd state.world.files).all (state.inside setting)
  | .drop workspace | .close workspace =>
    state.live.contains workspace && (workspace.remove setting state.world.files).2.isOk

/-- The runs from a world in which there are no workspaces yet. -/
inductive Runs (setting : Setting) (world : World) : Workspaces → Prop
  | start : Runs setting world ⟨world, []⟩
  | next {state : Workspaces} {operation : Operation} (before : Runs setting world state)
      (permitted : state.permits setting operation = true) :
      Runs setting world (state.act setting operation)

/-- A removal is permitted if it is that of a workspace in use, and complete. -/
theorem permits_removal {setting : Setting} {state : Workspaces} {operation : Operation}
    {workspace : Workspace} (removes : operation.removed? = some workspace) :
    state.permits setting operation = true ↔
      workspace ∈ state.live ∧ (workspace.remove setting state.world.files).2 = .ok () := by
  have complete (result : Except Cause Unit) : result.isOk = true ↔ result = .ok () := by
    cases result with
    | ok done => exact iff_of_true rfl rfl
    | error cause => exact iff_of_false (nomatch ·) (nomatch ·)
  cases operation with
  | drop _ | close _ =>
    cases removes
    simp only [permits, Bool.and_eq_true, List.contains_iff_mem, complete]
  | _ => cases removes

theorem act_removal {setting : Setting} {state : Workspaces} {operation : Operation}
    {workspace : Workspace} (removes : operation.removed? = some workspace) :
    state.act setting operation =
      { state.withFiles (workspace.remove setting state.world.files).1 with
        live := state.live.erase workspace } := by
  cases operation with
  | drop _ | close _ =>
    cases removes
    rfl
  | _ => cases removes

/-! ### Workspaces in a tree -/

/-- A workspace is a directory, and may be removed from the one that it is in. -/
structure Settled (setting : Setting) (files : FileSystem) (workspace : Workspace) (home : Place) :
    Prop where
  absolute : Path.isAbsolute workspace.path = true
  denotes : workspace.home? setting files = some home
  short : ∀ name dir, home = name :: dir → name.length ≤ longestName
  directory : files.isDirectoryAt home = true
  allowed : files.mayChange home.tail = true

namespace Settled

variable {setting : Setting} {files files' : FileSystem} {workspace : Workspace} {home : Place}

theorem ending (settled : Settled setting files workspace home) :
    ∃ dir name, home = name :: dir ∧ name.length ≤ longestName ∧
      files.ending setting.cwd workspace.path
        = .ok (.name dir name (Path.endsWithSlash workspace.path)) := by
  obtain ⟨dir, name, same, ends⟩ := placeOf_eq_some_iff.mp settled.denotes
  exact ⟨dir, name, same, settled.short name dir same, ends⟩

theorem proper (settled : Settled setting files workspace home) : home ≠ [] := by
  obtain ⟨dir, name, rfl, _⟩ := settled.ending
  exact List.cons_ne_nil name dir

theorem listed (settled : Settled setting files workspace home) : (files.get? home).isSome := by
  obtain ⟨mode, found⟩ := isDirectoryAt_iff.mp settled.directory
  rw [found]
  rfl

/-- On the way to a workspace there are entries only. -/
theorem way_listed (settled : Settled setting files workspace home) (closed : files.Closed) :
    ∀ place ∈ files.lookedAt setting.cwd workspace.path, (files.get? place).isSome := by
  obtain ⟨_, _, _, _, ends⟩ := settled.ending
  exact lookedAt_of_ending closed (start_present settled.absolute) ends

/-- The path of a workspace leads to it. -/
theorem finds (settled : Settled setting files workspace home) :
    ∃ mode, files.find setting.cwd false workspace.path = .ok (home, .directory mode) := by
  obtain ⟨dir, name, rfl, short, ends⟩ := settled.ending
  obtain ⟨mode, found⟩ := isDirectoryAt_iff.mp settled.directory
  exact ⟨mode, find_directory ends short found false⟩

/-- **A workspace is settled as long as nothing changes on the way to it and where it is.** -/
theorem congr (settled : Settled setting files workspace home)
    (way : ∀ place ∈ files.lookedAt setting.cwd workspace.path, files'.get? place = files.get? place)
    (here : files'.get? home = files.get? home) :
    Settled setting files' workspace home ∧
      files'.lookedAt setting.cwd workspace.path = files.lookedAt setting.cwd workspace.path := by
  obtain ⟨dir, name, rfl, _, ends⟩ := settled.ending
  obtain ⟨_, _, walks, _⟩ := ending_name ends
  have ends' := (ending_congr way).trans ends
  refine ⟨⟨settled.absolute, placeOf_of_ending ends', settled.short, ?_, ?_⟩, (walk_congr way).2⟩
  · rw [isDirectoryAt_iff, here]
    exact isDirectoryAt_iff.mp settled.directory
  · rw [List.tail_cons, mayChange_congr (way dir (mem_trail_end walks))]
    exact settled.allowed

/-- **A complete removal** removes what is at and below the place of a workspace, and nothing else. -/
theorem removed (settled : Settled setting files workspace home) (sound : files.Sound)
    (complete : (workspace.remove setting files).2 = .ok ()) :
    (workspace.remove setting files).1.Sound ∧ ∀ place,
      (workspace.remove setting files).1.get? place
        = if isWithin home place then none else files.get? place := by
  obtain ⟨mode, finds⟩ := settled.finds
  refine removeAll_complete sound finds settled.proper ?_
  unfold Workspace.remove at complete
  dsimp only at complete
  cases result : (files.removeAll setting.cwd workspace.path).2 with
  | ok done => rfl
  | error fault =>
    rw [result] at complete
    cases complete

/-- A removal is complete if the directories at and below the place of a workspace can be emptied. -/
theorem removable (settled : Settled setting files workspace home)
    (clears : files.mayClear home = true) : (workspace.remove setting files).2 = .ok () := by
  obtain ⟨mode, finds⟩ := settled.finds
  unfold Workspace.remove
  dsimp only
  rw [removeAll_allowed finds clears settled.allowed]
  rfl

end Settled

/-! ### Workspaces in use -/

/-- The workspaces in use are directories apart from each other, no one is on the way to another, and all
else in the tree is as it was in the beginning. -/
structure Housed (setting : Setting) (initial : FileSystem) (home : Workspace → Place)
    (state : Workspaces) : Prop where
  sound : state.world.files.Sound
  distinct : state.live.Nodup
  settled : ∀ {workspace}, workspace ∈ state.live →
    Settled setting state.world.files workspace (home workspace)
  apart : ∀ {workspace other}, workspace ∈ state.live → other ∈ state.live → workspace ≠ other →
    ¬ isWithin (home workspace) (home other) = true
  way : ∀ {workspace other}, workspace ∈ state.live → other ∈ state.live →
    ∀ place ∈ state.world.files.lookedAt setting.cwd workspace.path,
      ¬ isWithin (home other) place = true
  fresh : ∀ {workspace}, workspace ∈ state.live →
    ∀ place, isWithin (home workspace) place = true → initial.get? place = none
  elsewhere : ∀ place, (∀ workspace ∈ state.live, ¬ isWithin (home workspace) place = true) →
    state.world.files.get? place = initial.get? place

namespace Housed

variable {setting : Setting} {initial : FileSystem} {home : Workspace → Place} {state : Workspaces}

theorem covers_iff (housed : Housed setting initial home state) {place : Place} :
    state.covers setting place = true ↔
      ∃ workspace ∈ state.live, isWithin (home workspace) place = true := by
  unfold covers
  rw [List.any_eq_true]
  refine exists_congr fun workspace => and_congr_right fun member => ?_
  rw [(housed.settled member).denotes, Option.any_some]

theorem inside_iff (housed : Housed setting initial home state) {place : Place} :
    state.inside setting place = true ↔
      ∃ workspace ∈ state.live, isWithin (home workspace) place = true ∧ place ≠ home workspace := by
  unfold inside
  rw [List.any_eq_true]
  refine exists_congr fun workspace => and_congr_right fun member => ?_
  rw [(housed.settled member).denotes, Option.any_some, Bool.and_eq_true, bne_iff_ne]

/-- The beginning. -/
theorem start {world : World} (sound : world.files.Sound) :
    Housed setting world.files home ⟨world, []⟩ where
  sound := sound
  distinct := List.nodup_nil
  settled := nofun
  apart := nofun
  way := nofun
  fresh := nofun
  elsewhere := fun _ _ => rfl

/-- Only the files and the workspaces in use count. -/
theorem congr (housed : Housed setting initial home state) {other : Workspaces}
    (files : other.world.files = state.world.files) (live : other.live = state.live) :
    Housed setting initial home other := by
  obtain ⟨⟨_, _, _, _⟩, _⟩ := other
  dsimp only at files live
  subst files live
  exact ⟨housed.sound, housed.distinct, housed.settled, housed.apart, housed.way, housed.fresh,
    housed.elsewhere⟩

/-- The root is not inside any workspace. -/
theorem inside_proper (housed : Housed setting initial home state) {place : Place}
    (inside : state.inside setting place = true) : place ≠ [] := by
  rintro rfl
  obtain ⟨workspace, member, within, _⟩ := housed.inside_iff.mp inside
  exact (housed.settled member).proper (isWithin_root within)

/-- **Work inside the workspaces** changes neither where they are nor anything outside. -/
theorem work (housed : Housed setting initial home state) {files : FileSystem} (sound : files.Sound)
    (same : ∀ place, ¬ state.inside setting place = true →
      files.get? place = state.world.files.get? place) :
    Housed setting initial home (state.withFiles files) := by
  have outside (place : Place)
      (out : ∀ workspace ∈ state.live, ¬ isWithin (home workspace) place = true) :
      files.get? place = state.world.files.get? place := by
    refine same place fun within => ?_
    obtain ⟨workspace, member, inside, _⟩ := housed.inside_iff.mp within
    exact out workspace member inside
  have kept {workspace : Workspace} (member : workspace ∈ state.live) :=
    (housed.settled member).congr
      (fun place seen => outside place fun other member' => housed.way member member' place seen)
      (same (home workspace) fun within => by
        obtain ⟨other, member', inside, differs⟩ := housed.inside_iff.mp within
        exact housed.apart member' member (fun same => differs (same ▸ rfl)) inside)
  refine ⟨sound, housed.distinct, fun member => (kept member).1, housed.apart, ?_, housed.fresh,
    fun place out => (outside place out).trans (housed.elsewhere place out)⟩
  intro workspace other member member' place seen
  exact housed.way member member' place ((kept member).2 ▸ seen)

/-- **A workspace that is removed completely** leaves the others where they are, and what was outside of
it as it was. -/
theorem remove (housed : Housed setting initial home state) {workspace : Workspace}
    (member : workspace ∈ state.live) {files : FileSystem} (sound : files.Sound)
    (removed : ∀ place, files.get? place
      = if isWithin (home workspace) place then none else state.world.files.get? place) :
    Housed setting initial home
      { state.withFiles files with live := state.live.erase workspace } := by
  have others {other : Workspace} (rest : other ∈ state.live.erase workspace) :
      other ≠ workspace ∧ other ∈ state.live := housed.distinct.mem_erase_iff.mp rest
  have kept {other : Workspace} (rest : other ∈ state.live.erase workspace) :=
    (housed.settled (others rest).2).congr
      (fun place seen => by
        rw [removed, if_neg (housed.way (others rest).2 member place seen)])
      (by rw [removed, if_neg (housed.apart member (others rest).2 (others rest).1.symm)])
  refine ⟨sound, housed.distinct.erase workspace, fun rest => (kept rest).1,
    fun rest rest' => housed.apart (others rest).2 (others rest').2, ?_,
    fun rest => housed.fresh (others rest).2, ?_⟩
  · intro other third rest rest' place seen
    exact housed.way (others rest).2 (others rest').2 place ((kept rest).2 ▸ seen)
  · intro place out
    change files.get? place = initial.get? place
    rw [removed]
    by_cases within : isWithin (home workspace) place = true
    · rw [if_pos within, housed.fresh member place within]
    · rw [if_neg within]
      refine housed.elsewhere place fun other member' => ?_
      by_cases same : other = workspace
      · rwa [same]
      · exact out other (housed.distinct.mem_erase_iff.mpr ⟨same, member'⟩)

end Housed

/-! ### New workspaces -/

/-- The places that the lookup of a root for workspaces looks at. -/
def rootWay (setting : Setting) (files : FileSystem) (root? : Option Bytes) : List Place :=
  files.trail true linkLimit [] (Path.names (setting.anchor (root?.getD setting.temporaryRoot)))

/-- A workspace has been made: at a free place, and the way to it is that to its root. -/
structure New (setting : Setting) (files made : FileSystem) (root? : Option Bytes)
    (workspace : Workspace) (name : Bytes) (dir : Place) : Prop where
  absolute : Path.isAbsolute workspace.path = true
  ends : ∃ slashed, files.ending setting.cwd workspace.path = .ok (.name dir name slashed)
  short : name.length ≤ longestName
  free : files.get? (name :: dir) = none
  allowed : files.mayChange dir = true
  way : files.lookedAt setting.cwd workspace.path = rootWay setting files root?
  put : made = files.put (name :: dir) (.directory Mode.ofDirectory)

/-- **A workspace is made at a free place.** -/
theorem created {setting : Setting} (plain : ∀ drawn, Path.slash ∉ setting.names drawn)
    {root? : Option Bytes} {world made : World} {workspace : Workspace}
    (creates : Workspace.create setting root? world = (made, .ok workspace)) :
    ∃ name dir, New setting world.files made.files root? workspace name dir := by
  obtain ⟨drawn, absolute, path, makes⟩ := create_ok creates
  obtain ⟨dir, name, slashed, ends, short, free, allowed, put⟩ := makeDirectory_eq_ok_iff.mp makes
  refine ⟨name, dir, absolute, ⟨slashed, ends⟩, short, free, allowed, ?_, put⟩
  unfold lookedAt rootWay
  rw [start_absolute absolute, path, Path.names_join _ (Workspace.isLeaf_name (plain drawn)),
    List.dropLast_concat]

namespace New

variable {setting : Setting} {files made : FileSystem} {root? : Option Bytes} {workspace : Workspace}
  {name : Bytes} {dir : Place}

theorem shown (new : New setting files made root? workspace name dir) (other : Place) :
    made.get? other
      = if other = name :: dir then some (.directory Mode.ofDirectory) else files.get? other := by
  rw [new.put, get?_put _ _ _ (List.cons_ne_nil name dir)]

theorem sound (new : New setting files made root? workspace name dir) (before : files.Sound) :
    made.Sound := by
  obtain ⟨_, ends⟩ := new.ends
  rw [new.put]
  exact before.put (List.cons_ne_nil name dir) (ending_directory ends) fun _ => rfl

theorem kept (new : New setting files made root? workspace name dir) {other : Place}
    (listed : (files.get? other).isSome) : made.get? other = files.get? other := by
  rw [new.shown, if_neg]
  rintro rfl
  rw [new.free] at listed
  cases listed

/-- Nothing that was there lies within the new place. -/
theorem unlisted (new : New setting files made root? workspace name dir) (closed : files.Closed)
    {other : Place} (listed : (files.get? other).isSome) : ¬ isWithin (name :: dir) other = true := by
  intro within
  rw [get?_within_free closed new.free within] at listed
  cases listed

theorem dir_mem (new : New setting files made root? workspace name dir) :
    dir ∈ rootWay setting files root? := by
  obtain ⟨_, ends⟩ := new.ends
  obtain ⟨_, _, walks, _⟩ := ending_name ends
  rw [← new.way]
  exact mem_trail_end walks

theorem way_listed (new : New setting files made root? workspace name dir) (closed : files.Closed) :
    ∀ place ∈ rootWay setting files root?, (files.get? place).isSome := by
  obtain ⟨_, ends⟩ := new.ends
  rw [← new.way]
  exact lookedAt_of_ending closed (start_present new.absolute) ends

/-- The way to the new workspace is that to its root, also after it was made. -/
theorem way_after (new : New setting files made root? workspace name dir) (closed : files.Closed) :
    made.lookedAt setting.cwd workspace.path = rootWay setting files root? := by
  rw [← new.way]
  exact (walk_congr fun place member => new.kept (new.way_listed closed place (new.way ▸ member))).2

theorem settled (new : New setting files made root? workspace name dir) (closed : files.Closed) :
    Settled setting made workspace (name :: dir) := by
  obtain ⟨_, ends⟩ := new.ends
  have same : made.ending setting.cwd workspace.path = files.ending setting.cwd workspace.path :=
    ending_congr fun place member => new.kept (new.way_listed closed place (new.way ▸ member))
  refine ⟨new.absolute, placeOf_of_ending (same.trans ends), ?_, ?_, ?_⟩
  · rintro _ _ ⟨⟩
    exact new.short
  · rw [isDirectoryAt_iff, new.shown, if_pos rfl]
    exact ⟨_, rfl⟩
  · rw [List.tail_cons, mayChange_congr (new.kept (new.way_listed closed dir new.dir_mem))]
    exact new.allowed

/-- What was settled before is another workspace, and still settled. -/
theorem others (new : New setting files made root? workspace name dir) (closed : files.Closed)
    {other : Workspace} {home : Place} (settled : Settled setting files other home) :
    other ≠ workspace ∧ Settled setting made other home ∧
      made.lookedAt setting.cwd other.path = files.lookedAt setting.cwd other.path := by
  refine ⟨?_, settled.congr (fun place seen => new.kept (settled.way_listed closed place seen))
    (new.kept settled.listed)⟩
  rintro rfl
  obtain ⟨_, ends⟩ := new.ends
  have denotes := settled.denotes
  unfold Workspace.home? at denotes
  rw [placeOf_of_ending ends] at denotes
  have listed := settled.listed
  rw [← Option.some.inj denotes, new.free] at listed
  cases listed

end New

namespace Housed

variable {setting : Setting} {initial : FileSystem} {home : Workspace → Place} {state : Workspaces}
  {root? : Option Bytes} {workspace : Workspace} {name : Bytes} {dir : Place} {made : World}

/-- A new place lies outside of the workspaces in use if its directory does. -/
theorem outside_new (housed : Housed setting initial home state)
    (new : New setting state.world.files made.files root? workspace name dir)
    (outside : ∀ seen ∈ rootWay setting state.world.files root?, ¬ state.covers setting seen = true)
    {other : Workspace} (member : other ∈ state.live) :
    ¬ isWithin (home other) (name :: dir) = true := by
  intro within
  rcases isWithin_cases within with here | above
  · have listed := (housed.settled member).listed
    rw [here, new.free] at listed
    cases listed
  · exact outside dir new.dir_mem (housed.covers_iff.mpr ⟨other, member, above⟩)

/-- In the beginning nothing was within a new place. -/
theorem fresh_new (housed : Housed setting initial home state)
    (new : New setting state.world.files made.files root? workspace name dir)
    (outside : ∀ seen ∈ rootWay setting state.world.files root?, ¬ state.covers setting seen = true)
    {place : Place} (within : isWithin (name :: dir) place = true) : initial.get? place = none := by
  have closed := housed.sound.closed
  rw [← housed.elsewhere place fun other member inside => ?_,
    get?_within_free closed new.free within]
  -- A workspace around a place within the new one would lie within the new one, or around it.
  rcases List.suffix_or_suffix_of_suffix (isWithin_iff.mp within) (isWithin_iff.mp inside)
    with below | above
  · exact new.unlisted closed (housed.settled member).listed (isWithin_iff.mpr below)
  · exact housed.outside_new new outside member (isWithin_iff.mpr above)

/-- **A new workspace** outside of those in use, and on the way to none of them, is one more of them. -/
theorem create (housed : Housed setting initial home state)
    (new : New setting state.world.files made.files root? workspace name dir)
    (outside : ∀ seen ∈ rootWay setting state.world.files root?, ¬ state.covers setting seen = true) :
    Housed setting initial (Function.update home workspace (name :: dir))
      ⟨made, workspace :: state.live⟩ := by
  have closed := housed.sound.closed
  have others {other : Workspace} (old : other ∈ state.live) := new.others closed (housed.settled old)
  have here : Function.update home workspace (name :: dir) workspace = name :: dir :=
    Function.update_self ..
  have there {other : Workspace} (old : other ∈ state.live) :
      Function.update home workspace (name :: dir) other = home other :=
    Function.update_of_ne (others old).1 ..
  generalize Function.update home workspace (name :: dir) = home' at here there
  have cases_ {other : Workspace} (member : other ∈ workspace :: state.live) :
      other = workspace ∨ other ∈ state.live := List.mem_cons.mp member
  constructor
  case sound => exact new.sound housed.sound
  case distinct => exact List.nodup_cons.mpr ⟨fun old => (others old).1 rfl, housed.distinct⟩
  case settled =>
    intro other member
    rcases cases_ member with rfl | old
    · rw [here]
      exact new.settled closed
    · rw [there old]
      exact (others old).2.1
  case apart =>
    intro first second member member' differ
    rcases cases_ member with rfl | old <;> rcases cases_ member' with same | old'
    · exact absurd same.symm differ
    · rw [here, there old']
      exact new.unlisted closed (housed.settled old').listed
    · rw [same, here, there old]
      exact housed.outside_new new outside old
    · rw [there old, there old']
      exact housed.apart old old' differ
  case way =>
    intro first second member member' seen on
    change seen ∈ made.files.lookedAt setting.cwd first.path at on
    rcases cases_ member with first | old
    · rw [first, new.way_after closed] at on
      rcases cases_ member' with second | old'
      · rw [second, here]
        exact new.unlisted closed (new.way_listed closed seen on)
      · rw [there old']
        exact fun within => outside seen on (housed.covers_iff.mpr ⟨_, old', within⟩)
    · rw [(others old).2.2] at on
      rcases cases_ member' with second | old'
      · rw [second, here]
        exact new.unlisted closed ((housed.settled old).way_listed closed seen on)
      · rw [there old']
        exact housed.way old old' seen on
  case fresh =>
    intro other member seen within
    rcases cases_ member with rfl | old
    · rw [here] at within
      exact housed.fresh_new new outside within
    · rw [there old] at within
      exact housed.fresh old seen within
  case elsewhere =>
    intro seen out
    have outHere := out workspace List.mem_cons_self
    rw [here] at outHere
    have differs : seen ≠ name :: dir := by
      rintro rfl
      exact outHere (isWithin_self _)
    change made.files.get? seen = initial.get? seen
    rw [new.shown, if_neg differs]
    refine housed.elsewhere seen fun other old => ?_
    rw [← there old]
    exact out other (List.mem_cons_of_mem _ old)

/-! ### One operation after the other -/

/-- **What is permitted keeps the workspaces apart from each other.** -/
theorem act (housed : Housed setting initial home state)
    (plain : ∀ drawn, Path.slash ∉ setting.names drawn) {operation : Operation}
    (permitted : state.permits setting operation = true) :
    ∃ home', Housed setting initial home' (state.act setting operation) := by
  have removal {workspace : Workspace} (removes : operation.removed? = some workspace) :
      Housed setting initial home (state.act setting operation) := by
    obtain ⟨member, complete⟩ := (permits_removal removes).mp permitted
    obtain ⟨sound, removed⟩ := (housed.settled member).removed housed.sound complete
    rw [act_removal removes]
    exact housed.remove member sound removed
  cases operation with
  | create root? =>
    simp only [permits, List.all_eq_true, Bool.not_eq_true'] at permitted
    simp only [Workspaces.act]
    cases creates : Workspace.create setting root? state.world with
    | mk made result =>
      cases result with
      | ok workspace =>
        obtain ⟨name, dir, new⟩ := created plain creates
        exact ⟨_, housed.create new fun seen member => by simp [permitted seen member]⟩
      | error failure => exact ⟨home, housed.congr (create_error creates).2 rfl⟩
  | work work =>
    simp only [permits] at permitted
    simp only [Workspaces.act]
    cases works : work.result setting.cwd state.world.files with
    | error fault => exact ⟨home, housed⟩
    | ok files =>
      obtain ⟨place, where_, changed⟩ := work.changes housed.sound works
      rw [where_, Option.all_some] at permitted
      have change := changed (housed.inside_proper permitted)
      refine ⟨home, housed.work change.sound fun other out => change.elsewhere other ?_⟩
      rintro rfl
      exact out permitted
  | drop workspace => exact ⟨home, removal rfl⟩
  | close workspace => exact ⟨home, removal rfl⟩

end Housed

/-- What is true of the workspaces in use at every moment. -/
structure Orderly (setting : Setting) (initial : FileSystem) (state : Workspaces) : Prop where
  /-- They are directories, no two of them the same, and none inside another. -/
  apart : state.live.Pairwise fun workspace other => ∃ home home',
    workspace.home? setting state.world.files = some home ∧
    other.home? setting state.world.files = some home' ∧
    ¬ isWithin home home' = true ∧ ¬ isWithin home' home = true
  directories : ∀ workspace ∈ state.live, ∃ home,
    workspace.home? setting state.world.files = some home ∧
    state.world.files.isDirectoryAt home = true
  /-- A new one is another one, an empty directory where nothing was; nothing else changes. -/
  fresh : ∀ root? made workspace, Workspace.create setting root? state.world = (made, .ok workspace) →
    workspace ∉ state.live ∧ ∃ home, workspace.home? setting made.files = some home ∧
      (∀ place, isWithin home place = true → state.world.files.get? place = none) ∧
      ∀ place, made.files.get? place
        = if place = home then some (.directory Mode.ofDirectory) else state.world.files.get? place
  /-- When none can be made, nothing changes. -/
  refused : ∀ root? made failure,
    Workspace.create setting root? state.world = (made, .error failure) →
    made.files = state.world.files
  /-- Removing one removes what is at and below its place, and nothing else. -/
  removed : ∀ workspace home operation, operation.removed? = some workspace →
    state.permits setting operation = true → workspace.home? setting state.world.files = some home →
    (state.act setting operation).live = state.live.erase workspace ∧
    ∀ place, (state.act setting operation).world.files.get? place
      = if isWithin home place then none else state.world.files.get? place
  /-- A removal is permitted if the directories at and below the place can be emptied. -/
  removable : ∀ workspace ∈ state.live, ∀ home operation,
    operation.removed? = some workspace →
    workspace.home? setting state.world.files = some home →
    state.world.files.mayClear home = true → state.permits setting operation = true
  /-- When none is left, the tree is what it was in the beginning. -/
  restored : state.live = [] → ∀ place, state.world.files.get? place = initial.get? place

namespace Housed

variable {setting : Setting} {initial : FileSystem} {home : Workspace → Place} {state : Workspaces}

theorem orderly (housed : Housed setting initial home state)
    (plain : ∀ drawn, Path.slash ∉ setting.names drawn) : Orderly setting initial state where
  apart := by
    refine housed.distinct.imp_of_mem fun {workspace other} member member' differ => ?_
    exact ⟨home workspace, home other, (housed.settled member).denotes,
      (housed.settled member').denotes, housed.apart member member' differ,
      housed.apart member' member differ.symm⟩
  directories := fun workspace member =>
    ⟨home workspace, (housed.settled member).denotes, (housed.settled member).directory⟩
  fresh := by
    intro root? made workspace creates
    obtain ⟨name, dir, new⟩ := created plain creates
    have closed := housed.sound.closed
    exact ⟨fun old => (new.others closed (housed.settled old)).1 rfl, name :: dir,
      (new.settled closed).denotes, fun place within => get?_within_free closed new.free within,
      new.shown⟩
  refused := by
    intro root? made failure creates
    exact (create_error creates).2
  removed := by
    intro workspace place operation removes permitted denotes
    obtain ⟨member, complete⟩ := (permits_removal removes).mp permitted
    obtain rfl : home workspace = place :=
      Option.some.inj ((housed.settled member).denotes.symm.trans denotes)
    rw [act_removal removes]
    exact ⟨rfl, ((housed.settled member).removed housed.sound complete).2⟩
  removable := by
    intro workspace member place operation removes denotes clears
    obtain rfl : home workspace = place :=
      Option.some.inj ((housed.settled member).denotes.symm.trans denotes)
    exact (permits_removal removes).mpr ⟨member, (housed.settled member).removable clears⟩
  restored := by
    intro none_left place
    refine housed.elsewhere place fun workspace member => ?_
    rw [none_left] at member
    cases member

end Housed

/-- **Workspaces keep out of each other's way and leave nothing behind**, in runs of any length. -/
theorem runs_orderly {setting : Setting} (plain : ∀ drawn, Path.slash ∉ setting.names drawn)
    {world : World} (sound : world.files.Sound) {state : Workspaces}
    (runs : Runs setting world state) : Orderly setting world.files state := by
  have housed : ∃ home, Housed setting world.files home state := by
    induction runs with
    | start => exact ⟨fun _ => [], .start sound⟩
    | next before permitted ih =>
      obtain ⟨home, housed⟩ := ih
      exact housed.act plain permitted
  obtain ⟨home, housed⟩ := housed
  exact housed.orderly plain

/-! ### A small run -/

/-- Does some operations, as long as each of them is permitted when its turn comes. -/
def run? (setting : Setting) (state : Workspaces) : List Operation → Option Workspaces
  | [] => some state
  | operation :: later =>
    if state.permits setting operation then (state.act setting operation).run? setting later else none

theorem Runs.run {setting : Setting} {world : World} {state last : Workspaces}
    (before : Runs setting world state) {operations : List Operation}
    (goes : state.run? setting operations = some last) : Runs setting world last := by
  induction operations generalizing state with
  | nil =>
    cases goes
    exact before
  | cons operation later ih =>
    unfold run? at goes
    split at goes
    · rename_i permitted
      exact ih (before.next permitted) goes
    · cases goes

/-- Names of one letter, of two letters, and so on. -/
def smallSetting : Setting := ⟨[], ⟨[]⟩, fun drawn => List.replicate (drawn + 1) 0x61, fun _ => .ignored⟩

/-- A directory with a file in it. -/
def smallWorld : World where
  files := (FileSystem.empty.put [[0x74]] (.directory Mode.ofDirectory)).put [[0x6F], [0x74]]
    (.file Mode.ofFile [0x6F])
  flag := .lowered
  clock := 0
  drawn := 0

/-- Two workspaces beside a file. A link in the first leads to that file. -/
def twoMade : List Operation :=
  [.create (some (Bytes.ofText "/t")), .create (some (Bytes.ofText "/t")),
    .work (.write (Bytes.ofText "/t/calcca/f") [0x66]),
    .work (.symlink (Bytes.ofText "/t/o") (Bytes.ofText "/t/calcca/l")),
    .work (.makeDirectory (Bytes.ofText "/t/calccaa/d"))]

/-- The first workspace is dropped, then the second one is closed. -/
def twoRemoved : List Operation :=
  [.drop ⟨Bytes.ofText "/t/calcca"⟩, .close ⟨Bytes.ofText "/t/calccaa"⟩]

/-- What is left of the small run: the workspaces in use, and the table of the files. -/
def left (operations : List Operation) : Option (List Workspace × List (Place × Entry)) :=
  (run? smallSetting ⟨smallWorld, []⟩ operations).map fun state =>
    (state.live, state.world.files.table)

theorem left_two : (left twoMade).map Prod.fst
      = some [⟨Bytes.ofText "/t/calccaa"⟩, ⟨Bytes.ofText "/t/calcca"⟩] ∧
    left (twoMade ++ twoRemoved) = some ([], smallWorld.files.table) := by
  constructor <;> cbv

/-- Two workspaces are in order while they are in use, and after both have been removed. -/
theorem runs_orderly_two : ∃ two none_left, Runs smallSetting smallWorld two ∧
    two.live = [⟨Bytes.ofText "/t/calccaa"⟩, ⟨Bytes.ofText "/t/calcca"⟩] ∧
    Orderly smallSetting smallWorld.files two ∧
    Runs smallSetting smallWorld none_left ∧ none_left.live = [] ∧
    Orderly smallSetting smallWorld.files none_left := by
  have plain : ∀ drawn, Path.slash ∉ smallSetting.names drawn := by
    intro drawn member
    exact absurd (List.eq_of_mem_replicate member) (by decide)
  have sound : smallWorld.files.Sound :=
    (sound_empty.put (by decide) (by decide) (by decide)).put (by decide) (by decide) (by decide)
  obtain ⟨made, removed⟩ := left_two
  unfold left at made removed
  rw [Option.map_map, Option.map_eq_some_iff] at made
  rw [Option.map_eq_some_iff] at removed
  obtain ⟨two, goes, live⟩ := made
  obtain ⟨none_left, goes', left⟩ := removed
  have runs : Runs smallSetting smallWorld two := Runs.start.run goes
  have runs' : Runs smallSetting smallWorld none_left := Runs.start.run goes'
  exact ⟨two, none_left, runs, live, runs_orderly plain sound runs, runs',
    congrArg Prod.fst left, runs_orderly plain sound runs'⟩

end Workspaces

end CalcBuild

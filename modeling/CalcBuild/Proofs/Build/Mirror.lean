/-
**A build among others, and the same build on its own.**

One side has the files as all builds have left them, the other side as the build leaves them that has the
world for itself. What the build has of its own is the same on both sides. Of the directories of its output
each side may have others, as long as the build has not made them.

* `Ground.Own`: what only one build may change;
* `Longer`: that a build draws more names;
* `Crowd.Settles`, `Crowd.Mirrored`: how a build stands to its files, and both sides to one another;
* `Mirrored.change`, `Mirrored.work`, `Mirrored.rest`: what a turn leaves of both sides.
-/

import CalcBuild.Proofs.Build.Sight

namespace CalcBuild

open Files FileSystem

variable {State : Type}

/-! ### What a build has of its own -/

/-- What only one build may change: its output, and what is at the names that it drew. -/
def Ground.Own (ground : Ground) (names : Nat → Bytes) (index : Nat) (drew : List Nat) (place : Place) :
    Prop :=
  place = (ground.site index).place ∨ ∃ number ∈ drew, ground.Named names index number place

theorem Ground.Own.home {ground : Ground} {names : Nat → Bytes} {index : Nat} {drew : List Nat}
    {place : Place} (own : ground.Own names index drew place) : ground.Home names index drew place :=
  own.imp_right .inr

/-- A build draws more names: `drew'` after `drew`, when `upto'` have been drawn after `upto`. -/
structure Longer (drew drew' : List Nat) (upto upto' drawn : Nat) : Prop where
  more : drew ⊆ drew'
  early : ∀ number ∈ drew', number < upto'
  later : upto ≤ upto'
  bounded : upto' ≤ drawn
  new : ∀ number ∈ drew', number ∈ drew ∨ upto ≤ number

theorem Longer.before {drew drew' : List Nat} {upto upto' drawn : Nat}
    (longer : Longer drew drew' upto upto' drawn) : ∀ number ∈ drew', number < drawn :=
  fun number member => Nat.lt_of_lt_of_le (longer.early number member) longer.bounded

/-- The phases of a build before which it has made the directories of its output. -/
def BuildPhase.IsGrown : BuildPhase State → Prop
  | .reserving .. | .closing | .finished (.ok _) => True
  | _ => False

/-- A build that has made the directories of its output: it goes on to draw a name in them, holds one,
or is done. -/
def BuildRun.IsGrown (run : BuildRun State) : Prop :=
  run.phase.IsGrown ∨ run.staging? ≠ none

namespace Crowd

variable {crowd : Crowd State} {ground : Ground} {always : List Bytes} {drawn : Nat}

/-- Where a build stands among the files: what it holds is at names that it drew, and what is left at
other names that it drew is what was there in the beginning. -/
structure Settles (crowd : Crowd State) (ground : Ground) (drawn index : Nat) (request : BuildRequest)
    (drew : List Nat) (run : BuildRun State) (fs : FileSystem) : Prop where
  housed : ∀ workspace, run.workspace? = some workspace → ∃ number ∈ drew,
    workspace.path = crowd.workspacePath number ∧ crowd.Housed ground fs number
  staged : ∀ staging, run.staging? = some staging → ∃ number ∈ drew,
    staging = stagingPath crowd.setting request.output number ∧
      crowd.Held ground index request.output fs number
  swept : ∀ number ∈ drew, ∀ place, ground.Named crowd.setting.names index number place →
    fs.get? place = crowd.world.files.get? place ∨
      (∃ workspace, run.workspace? = some workspace ∧ workspace.path = crowd.workspacePath number ∧
        isWithin (ground.workspace crowd.setting.names number) place = true) ∨
      run.staging? = some (stagingPath crowd.setting request.output number) ∧
        place = ground.staging crowd.setting.names index number

/-- **A build among others, and the same build on its own**: where no build changes anything, all is as
it was; what the build has of its own is the same on both sides, and at names that are still to be drawn
nothing has changed. -/
structure Mirrored (crowd : Crowd State) (ground : Ground) (drawn index : Nat) (request : BuildRequest)
    (drew : List Nat) (upto : Nat) (run : BuildRun State) (fs own : FileSystem) : Prop where
  sound : fs.Sound
  soundOwn : own.Sound
  early : ∀ number ∈ drew, number < upto
  steady : crowd.Steady ground drawn fs
  steadyOwn : crowd.Steady ground drawn own
  agree : ∀ place, ground.Own crowd.setting.names index drew place → own.get? place = fs.get? place
  fresh : ∀ number, upto ≤ number → number < drawn → ∀ place,
    ground.Named crowd.setting.names index number place →
    fs.get? place = crowd.world.files.get? place ∧ own.get? place = crowd.world.files.get? place
  part : fs.Partly (ground.site index).base (ground.site index).missing
  partOwn : own.Partly (ground.site index).base (ground.site index).missing
  grown : run.IsGrown → crowd.Grown ground drawn index request.output fs
  grownOwn : run.IsGrown → crowd.Grown ground drawn index request.output own
  settles : crowd.Settles ground drawn index request drew run fs

section Changes

variable {index : Nat} {request : BuildRequest} {drew drew' : List Nat} {upto upto' : Nat}
  {run run' : BuildRun State} {fs fs' own own' : FileSystem}

/-- The names that a build drew are among those that are drawn until later. -/
theorem Mirrored.before (mirrored : crowd.Mirrored ground drawn index request drew upto run fs own)
    {bound : Nat} (inside : upto ≤ bound) : ∀ number ∈ drew, number < bound :=
  fun number member => Nat.lt_of_lt_of_le (mirrored.early number member) inside

/-- The base of a site is a place that no build changes. -/
theorem Lies.base_calm (lies : crowd.Lies ground always drawn)
    (asked : crowd.requests[index]? = some request) :
    crowd.Calm ground drawn (ground.site index).base := by
  obtain ⟨_, _, rests, _, way⟩ := (lies.sited index request asked).begins
  exact way _ (mem_trail_end rests.leads)

theorem listed_of_asked (asked : crowd.requests[index]? = some request) :
    index < crowd.requests.length :=
  (List.getElem?_eq_some_iff.mp asked).1

/-- A place that no build changes is not in the home of one. -/
theorem Calm.not_home {place : Place} (calm : crowd.Calm ground drawn place)
    (asked : crowd.requests[index]? = some request) (early : ∀ number ∈ drew, number < drawn) :
    ¬ ground.Home crowd.setting.names index drew place := fun home =>
  calm index (listed_of_asked asked) (home.mono fun number member =>
    List.mem_range.mpr (early number member))

/-- The missing directories are none of what a build has of its own. -/
theorem Lies.own_not_makes (lies : crowd.Lies ground always drawn)
    (asked : crowd.requests[index]? = some request) (early : ∀ number ∈ drew, number < drawn)
    {place : Place} (own : ground.Own crowd.setting.names index drew place) :
    ¬ (ground.site index).Makes place := by
  intro makes
  rcases own with rfl | ⟨number, member, named⟩
  · have shorter := (isWithin_iff.mp makes.1).length_le
    simp [Site.place, Site.dir] at shorter
  · exact lies.not_named (listed_of_asked asked) makes.within (early number member) index named

/-- What is at a name that is still to be drawn is not in the home of the build. -/
theorem Lies.fresh_not_home (lies : crowd.Lies ground always drawn) {other : Nat}
    (asked : crowd.requests[index]? = some request) (listed : other < crowd.requests.length)
    (early : ∀ number ∈ drew, number < upto) (inside : upto ≤ drawn) {number : Nat} (late : upto ≤ number)
    (bounded : number < drawn) {place : Place}
    (named : ground.Named crowd.setting.names other number place) :
    ¬ ground.Home crowd.setting.names index drew place := by
  rintro (rfl | makes | ⟨number', member, named'⟩)
  · exact lies.not_named (listed_of_asked asked) (isWithin_self _) bounded other named
  · exact lies.not_named (listed_of_asked asked) makes.within bounded other named
  · have before := early number' member
    exact lies.named_apart listed (listed_of_asked asked) bounded (by omega) (by omega) named named'

/-- **What a turn of the build leaves of both sides**, when both change in the same way. -/
theorem Mirrored.change (lies : crowd.Lies ground always drawn)
    (asked : crowd.requests[index]? = some request)
    (mirrored : crowd.Mirrored ground drawn index request drew upto run fs own)
    (sound : fs'.Sound) (soundOwn : own'.Sound) (longer : Longer drew drew' upto upto' drawn)
    (together : Together (ground.Home crowd.setting.names index drew') fs fs' own own')
    (part : fs'.Partly (ground.site index).base (ground.site index).missing)
    (partOwn : own'.Partly (ground.site index).base (ground.site index).missing)
    (grown : run'.IsGrown → crowd.Grown ground drawn index request.output fs')
    (grownOwn : run'.IsGrown → crowd.Grown ground drawn index request.output own')
    (settles : crowd.Settles ground drawn index request drew' run' fs') :
    crowd.Mirrored ground drawn index request drew' upto' run' fs' own' where
  sound := sound
  soundOwn := soundOwn
  early := longer.early
  steady := fun place calm => by
    rcases together place with ⟨same, _⟩ | ⟨home, _⟩
    · rw [same, mirrored.steady place calm]
    · exact absurd home (calm.not_home asked longer.before)
  steadyOwn := fun place calm => by
    rcases together place with ⟨_, same⟩ | ⟨home, _⟩
    · rw [same, mirrored.steadyOwn place calm]
    · exact absurd home (calm.not_home asked longer.before)
  agree := fun place owned => by
    rcases together place with ⟨same, sameOwn⟩ | ⟨_, equal⟩
    · rw [same, sameOwn]
      rcases owned with output | ⟨number, member, named⟩
      · exact mirrored.agree place (.inl output)
      · rcases longer.new number member with old | new
        · exact mirrored.agree place (.inr ⟨number, old, named⟩)
        · obtain ⟨was, wasOwn⟩ := mirrored.fresh number new (longer.before number member) place named
          rw [was, wasOwn]
    · exact equal
  fresh := fun number late before place named => by
    rcases together place with ⟨same, sameOwn⟩ | ⟨home, _⟩
    · rw [same, sameOwn]
      exact mirrored.fresh number (longer.later.trans late) before place named
    · exact absurd home (lies.fresh_not_home asked (listed_of_asked asked) longer.early longer.bounded
        late before named)
  part := part
  partOwn := partOwn
  grown := grown
  grownOwn := grownOwn
  settles := settles

/-- **What a turn leaves of both sides** when it changes nothing but what the build has of its own. -/
theorem Mirrored.work (lies : crowd.Lies ground always drawn)
    (asked : crowd.requests[index]? = some request)
    (mirrored : crowd.Mirrored ground drawn index request drew upto run fs own)
    (sound : fs'.Sound) (soundOwn : own'.Sound) (longer : Longer drew drew' upto upto' drawn)
    (together : Together (ground.Own crowd.setting.names index drew') fs fs' own own')
    (still : run'.IsGrown → run.IsGrown)
    (settles : crowd.Settles ground drawn index request drew' run' fs') :
    crowd.Mirrored ground drawn index request drew' upto' run' fs' own' := by
  have here : fs'.get? (ground.site index).base = fs.get? (ground.site index).base ∧
      own'.get? (ground.site index).base = own.get? (ground.site index).base :=
    (together _).resolve_right fun ⟨owned, _⟩ =>
      (lies.base_calm asked).not_home asked longer.before owned.home
  have same : ∀ place, (ground.site index).Makes place →
      fs'.get? place = fs.get? place ∧ own'.get? place = own.get? place := fun place makes =>
    (together place).resolve_right fun ⟨owned, _⟩ => lies.own_not_makes asked longer.before owned makes
  refine mirrored.change lies asked sound soundOwn longer
    (together.mono fun _ => Ground.Own.home) (mirrored.part.congr here.1 fun place below =>
      (same place below).1) (mirrored.partOwn.congr here.2 fun place below => (same place below).2)
    (fun grown => ?_) (fun grown => ?_) settles
  · have before := mirrored.grown (still grown)
    exact ⟨before.full.congr fun place below => (same place below).1, before.lands⟩
  · have before := mirrored.grownOwn (still grown)
    exact ⟨before.full.congr fun place below => (same place below).2, before.lands⟩

/-- A turn that changes no files. -/
theorem Mirrored.rest (mirrored : crowd.Mirrored ground drawn index request drew upto run fs own)
    (workspaces : run'.workspace? = run.workspace?) (stagings : run'.staging? = run.staging?)
    (still : run'.IsGrown → run.IsGrown) :
    crowd.Mirrored ground drawn index request drew upto run' fs own :=
  { mirrored with
    grown := fun grown => mirrored.grown (still grown)
    grownOwn := fun grown => mirrored.grownOwn (still grown)
    settles :=
      { housed := fun workspace holds => mirrored.settles.housed workspace (workspaces ▸ holds)
        staged := fun staging holds => mirrored.settles.staged staging (stagings ▸ holds)
        swept := by
          rw [workspaces, stagings]
          exact mirrored.settles.swept } }

/-- What is at a name that was drawn, or is drawn now. -/
theorem Mirrored.swept (mirrored : crowd.Mirrored ground drawn index request drew upto run fs own)
    {number : Nat} (member : number ∈ drew ∨ upto ≤ number) (bounded : number < drawn) {place : Place}
    (named : ground.Named crowd.setting.names index number place) :
    fs.get? place = crowd.world.files.get? place ∨
      (∃ workspace, run.workspace? = some workspace ∧ workspace.path = crowd.workspacePath number ∧
        isWithin (ground.workspace crowd.setting.names number) place = true) ∨
      run.staging? = some (stagingPath crowd.setting request.output number) ∧
        place = ground.staging crowd.setting.names index number := by
  rcases member with old | new
  · exact mirrored.settles.swept number old place named
  · exact .inl (mirrored.fresh number new bounded place named).1

end Changes

end Crowd

end CalcBuild

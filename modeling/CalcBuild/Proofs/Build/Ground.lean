/-
**The ground on which builds stand.**

Several builds share the directory for workspaces, and perhaps directories that are missing on the way to
their outputs. What a build may change is its home: its output, the missing directories on the way there,
and what is at the names that it draws. Two homes share nothing but missing directories.

* `Site`: where an output lies, and which directories are missing on the way there;
* `Ground`, `Ground.Named`, `Ground.Home`: where some builds work;
* `Crowd.Calm`: the places that no build changes;
* `Crowd.Sited`, `Crowd.Lies`: that what the builds look up leads through such places;
* `Lies.home_apart`: what two homes share.
-/

import CalcBuild.Proofs.Build.Crowd
import CalcBuild.Proofs.Build.Reserve
import CalcBuild.Proofs.Files.Ways

namespace CalcBuild

open Files FileSystem

variable {State : Type}

/-! ### Sites -/

/-- Where an output lies: below a directory, under the names of directories that are missing, the
innermost first, and a name of its own. -/
structure Site where
  base : Place
  missing : List Bytes
  last : Bytes

namespace Site

/-- The directory of the output. -/
def dir (site : Site) : Place := site.missing ++ site.base

/-- The place of the output. -/
def place (site : Site) : Place := site.last :: site.dir

/-- The directories that are missing. -/
def Makes (site : Site) (place : Place) : Prop := Below site.base site.missing place

/-- The directory that is there is above those that are missing. -/
theorem Makes.base_within {site : Site} {place : Place} (makes : site.Makes place) :
    isWithin site.base place = true :=
  isWithin_iff.mpr (List.suffix_of_suffix_length_le (List.suffix_append _ _) (isWithin_iff.mp makes.1)
    (Nat.le_of_lt makes.2))

theorem Makes.within {site : Site} {place : Place} (makes : site.Makes place) :
    isWithin place site.place = true :=
  isWithin_cons site.last makes.1

/-- The directories that are there stay, and what is made there is a directory. -/
def Stays (site : Site) (fs fs' : FileSystem) : Prop :=
  ∀ place, site.Makes place →
    fs'.get? place = fs.get? place ∨ fs'.get? place = some (.directory Mode.ofDirectory)

end Site

/-- Where the workspaces of some builds lie, and their outputs. -/
structure Ground where
  root : Place
  site : Nat → Site

namespace Ground

variable (ground : Ground) (names : Nat → Bytes)

/-- The place of a workspace whose name is drawn. -/
def workspace (drawn : Nat) : Place := (Workspace.stem ++ names drawn) :: ground.root

/-- The place of a name for the linker that is drawn. -/
def staging (index drawn : Nat) : Place := (Staging.stem ++ names drawn) :: (ground.site index).dir

/-- What a build has at a name that it drew: a workspace, or the name for the linker. -/
def Named (index drawn : Nat) (place : Place) : Prop :=
  isWithin (ground.workspace names drawn) place = true ∨ place = ground.staging names index drawn

/-- What a build may change when it has drawn some names. -/
def Home (index : Nat) (drew : List Nat) (place : Place) : Prop :=
  place = (ground.site index).place ∨ (ground.site index).Makes place ∨
    ∃ drawn ∈ drew, ground.Named names index drawn place

variable {ground names}

theorem Home.mono {index : Nat} {drew drew' : List Nat} {place : Place}
    (home : ground.Home names index drew place) (more : drew ⊆ drew') :
    ground.Home names index drew' place := by
  rcases home with output | makes | ⟨drawn, member, named⟩
  · exact .inl output
  · exact .inr (.inl makes)
  · exact .inr (.inr ⟨drawn, more member, named⟩)

end Ground

theorem stems_differ (first second : Bytes) : Workspace.stem ++ first ≠ Staging.stem ++ second := by
  have workspace : Workspace.stem = [0x63, 0x61, 0x6C, 0x63, 0x63] := by decide
  have staging : Staging.stem = [0x2E, 0x63, 0x61, 0x6C, 0x63, 0x2D, 0x6F, 0x75, 0x74, 0x2D] := by decide
  intro same
  rw [workspace, staging] at same
  cases same

namespace Crowd

/-! ### Where no build changes anything -/

/-- A place that no build changes that draws the first so many names. -/
def Calm (crowd : Crowd State) (ground : Ground) (drawn : Nat) (place : Place) : Prop :=
  ∀ index < crowd.requests.length,
    ¬ ground.Home crowd.setting.names index (List.range drawn) place

instance (crowd : Crowd State) (ground : Ground) (drawn : Nat) (place : Place) :
    Decidable (crowd.Calm ground drawn place) :=
  inferInstanceAs (Decidable (∀ index < crowd.requests.length,
    ¬ (place = (ground.site index).place ∨
      (isWithin place (ground.site index).dir = true ∧
        (ground.site index).base.length < place.length) ∨
      ∃ number ∈ List.range drawn,
        (isWithin (ground.workspace crowd.setting.names number) place = true ∨
          place = ground.staging crowd.setting.names index number))))

/-- The path from the root of the directory for workspaces. -/
def rootPath (crowd : Crowd State) : Bytes :=
  crowd.setting.anchor (crowd.builder.workspaceRoot?.getD crowd.setting.temporaryRoot)

/-- The path from the root of the directory of an output. -/
def directoryPath (crowd : Crowd State) (output : Bytes) : Bytes :=
  crowd.setting.anchor (Staging.directory output)

/-- The paths that all builds look up: the tools and what programs look at, the source of the run-time
support, and the texts, which are arguments. -/
def lookups (crowd : Crowd State) (always : List Bytes) : List Bytes :=
  crowd.builder.runtimeSource :: Stage.order.map (fun stage => crowd.builder.toolchain.path stage.tool) ++
    always ++ crowd.requests.map fun request => Bytes.ofText request.sourceText

/-- When the directories of an output are there, what the output and names in its directory denote is
at its site, and the way there leads through places that no build changes, and these directories. -/
structure Lands (crowd : Crowd State) (ground : Ground) (drawn index : Nat) (output : Bytes)
    (grown : FileSystem) : Prop where
  ends : ∃ slashed, grown.ending crowd.setting.cwd output
    = .ok (.name (ground.site index).dir (ground.site index).last slashed)
  way : ∀ place ∈ grown.lookedAt crowd.setting.cwd output,
    crowd.Calm ground drawn place ∨ (ground.site index).Makes place
  leads : grown.walk true linkLimit (start crowd.setting.cwd (crowd.directoryPath output))
    (Path.names (crowd.directoryPath output)) = .ok (.present (ground.site index).dir)
  around : ∀ place ∈ grown.wayTo crowd.setting.cwd (crowd.directoryPath output),
    crowd.Calm ground drawn place ∨ (ground.site index).Makes place

/-- An output lies at its site: the directories that are missing on the way to it are missing below one
that exists, under ordinary names. Of these directories two builds may share some. -/
structure Sited (crowd : Crowd State) (ground : Ground) (drawn index : Nat) (output : Bytes) : Prop where
  begins : ∃ first rest, crowd.world.files.Rests crowd.setting.cwd first (ground.site index).base ∧
    Under (first :: rest) (Path.ancestors (Staging.directory output)) (ground.site index).missing ∧
    ∀ place ∈ crowd.world.files.wayTo crowd.setting.cwd first, crowd.Calm ground drawn place
  sane : pathFault? (Staging.directory output) = none
  free : ∀ place, (ground.site index).Makes place → crowd.world.files.get? place = none
  lands : ∀ grown, crowd.world.files.makeDirectories crowd.setting.cwd (Staging.directory output)
    = (grown, .ok ()) → crowd.Lands ground drawn index output grown

/-- **The builds are apart on their ground**: no output is at or above another, the names that are drawn
are new, and all that the builds look up leads through places that none of them changes. -/
structure Lies (crowd : Crowd State) (ground : Ground) (always : List Bytes) (drawn : Nat) : Prop where
  sound : crowd.world.files.Sound
  hereCalm : crowd.Calm ground drawn crowd.setting.cwd
  rooted : ∀ found, crowd.world.files.walk true linkLimit (start crowd.setting.cwd crowd.rootPath)
    (Path.names crowd.rootPath) = .ok (.present found) → found = ground.root
  rootWay : ∀ place ∈ crowd.world.files.wayTo crowd.setting.cwd crowd.rootPath,
    crowd.Calm ground drawn place
  ways : ∀ path ∈ crowd.lookups always, ∀ place ∈ crowd.world.files.seenOn crowd.setting.cwd path,
    crowd.Calm ground drawn place
  sited : ∀ index request, crowd.requests[index]? = some request →
    crowd.Sited ground drawn index request.output
  outputs : ∀ index < crowd.requests.length, ∀ other < crowd.requests.length, index ≠ other →
    ¬ isWithin (ground.site index).place (ground.site other).place = true
  plain : ∀ number < drawn, Path.slash ∉ crowd.setting.names number
  distinct : ∀ number < drawn, ∀ number' < drawn,
    crowd.setting.names number = crowd.setting.names number' → number = number'
  new : ∀ index < crowd.requests.length, ∀ number < drawn,
    Workspace.stem ++ crowd.setting.names number ∉ (ground.site index).place ∧
      Staging.stem ++ crowd.setting.names number ∉ (ground.site index).place

variable {crowd : Crowd State} {ground : Ground} {always : List Bytes} {drawn : Nat}

namespace Lies

variable (lies : crowd.Lies ground always drawn)
include lies

/-- At a name that is drawn there is no output, and no directory on the way to one. -/
theorem not_named {index : Nat} (listed : index < crowd.requests.length) {place : Place}
    (above : isWithin place (ground.site index).place = true) {number : Nat} (early : number < drawn)
    (other : Nat) : ¬ ground.Named crowd.setting.names other number place := by
  obtain ⟨unlike, unlike'⟩ := lies.new index listed number early
  rintro (within | rfl)
  · have member := (isWithin_iff.mp (isWithin_trans within above)).subset (List.mem_cons_self)
    exact unlike member
  · exact unlike' ((isWithin_iff.mp above).subset List.mem_cons_self)

/-- The name for the linker is not in a workspace. -/
theorem staging_outside {index : Nat} (listed : index < crowd.requests.length) {number number' : Nat}
    (early : number < drawn) :
    ¬ isWithin (ground.workspace crowd.setting.names number)
      (ground.staging crowd.setting.names index number') = true := by
  intro within
  rcases isWithin_cases within with same | above
  · exact stems_differ _ _ (List.cons.inj same).1
  · have member := (isWithin_iff.mp (isWithin_cons (ground.site index).last above)).subset
      List.mem_cons_self
    exact (lies.new index listed number early).1 member

/-- What is at two names that are drawn differs. -/
theorem named_apart {index other : Nat} (listed : index < crowd.requests.length)
    (listed' : other < crowd.requests.length) {number number' : Nat} (early : number < drawn)
    (early' : number' < drawn) (differ : number ≠ number') {place : Place}
    (named : ground.Named crowd.setting.names index number place) :
    ¬ ground.Named crowd.setting.names other number' place := by
  intro named'
  rcases named with within | rfl <;> rcases named' with within' | same
  · have shapes := List.suffix_of_suffix_length_le (isWithin_iff.mp within) (isWithin_iff.mp within')
      (by simp [Ground.workspace])
    have same := shapes.eq_of_length (by simp [Ground.workspace])
    have parts := List.append_cancel_left (List.cons.inj same).1
    exact differ (lies.distinct number early number' early' parts)
  · subst same
    exact lies.staging_outside listed' early within
  · exact lies.staging_outside listed early' within'
  · have parts := List.append_cancel_left (List.cons.inj same).1
    exact differ (lies.distinct number early number' early' parts)

/-- What is at a name that is drawn tells which one it is. -/
theorem named_eq {index other : Nat} (listed : index < crowd.requests.length)
    (listed' : other < crowd.requests.length) {number number' : Nat} (early : number < drawn)
    (early' : number' < drawn) {place : Place}
    (named : ground.Named crowd.setting.names index number place)
    (named' : ground.Named crowd.setting.names other number' place) : number = number' := by
  by_contra differ
  exact lies.named_apart listed listed' early early' differ named named'

/-- **Two homes share nothing but missing directories.** -/
theorem home_apart {index other : Nat} (listed : index < crowd.requests.length)
    (listed' : other < crowd.requests.length) (differ : index ≠ other) {drew drew' : List Nat}
    (early : ∀ number ∈ drew, number < drawn) (early' : ∀ number ∈ drew', number < drawn)
    (disjoint : ∀ number ∈ drew, number ∉ drew') {place : Place}
    (home : ground.Home crowd.setting.names index drew place)
    (home' : ground.Home crowd.setting.names other drew' place) :
    (ground.site index).Makes place ∧ (ground.site other).Makes place := by
  rcases home with rfl | makes | ⟨number, member, named⟩
  · exfalso
    rcases home' with same | makes' | ⟨number', member', named'⟩
    · exact lies.outputs index listed other listed' differ (same ▸ isWithin_self _)
    · exact lies.outputs index listed other listed' differ makes'.within
    · exact lies.not_named listed (isWithin_self _) (early' number' member') other named'
  · refine ⟨makes, ?_⟩
    rcases home' with rfl | makes' | ⟨number', member', named'⟩
    · exact absurd makes.within (lies.outputs other listed' index listed (Ne.symm differ))
    · exact makes'
    · exact absurd named' (lies.not_named listed makes.within (early' number' member') other)
  · exfalso
    rcases home' with rfl | makes' | ⟨number', member', named'⟩
    · exact lies.not_named listed' (isWithin_self _) (early number member) index named
    · exact lies.not_named listed' makes'.within (early number member) index named
    · exact lies.named_apart listed listed' (early number member) (early' number' member')
        (fun same => disjoint number member (same ▸ member')) named named'

/-- The missing directories that two sites share are missing below the same directory. -/
theorem bases_eq {index other : Nat} {request request' : BuildRequest}
    (asked : crowd.requests[index]? = some request) (asked' : crowd.requests[other]? = some request')
    {place : Place} (makes : (ground.site index).Makes place) (makes' : (ground.site other).Makes place) :
    (ground.site index).base = (ground.site other).base := by
  -- Were one below the other, it would be missing.
  have level {index other : Nat} {request request' : BuildRequest}
      (asked : crowd.requests[index]? = some request) (asked' : crowd.requests[other]? = some request')
      (makes : (ground.site index).Makes place) (makes' : (ground.site other).Makes place) :
      (ground.site other).base.length ≤ (ground.site index).base.length := by
    by_contra longer
    have free := (lies.sited index request asked).free (ground.site other).base
      ⟨isWithin_trans makes'.base_within makes.1, by omega⟩
    obtain ⟨_, _, rests, _⟩ := (lies.sited other request' asked').begins
    obtain ⟨mode, directory, _⟩ := rests.enters
    rw [directory] at free
    cases free
  exact (List.suffix_of_suffix_length_le (isWithin_iff.mp makes.base_within)
    (isWithin_iff.mp makes'.base_within) (level asked' asked makes' makes)).eq_of_length
      (Nat.le_antisymm (level asked' asked makes' makes) (level asked asked' makes makes'))

end Lies

end Crowd

end CalcBuild

/-
**What a build sees.**

Where no build changes anything, all is as it was in the beginning. So a build finds the same, whatever the
others have done, where its lookups lead through such places only, through the directories of its output
once they are there, and through what it has at the names that it drew.

* `Crowd.Steady`: file systems that are as they were where no build changes anything;
* `Crowd.Housed`, `Crowd.Held`: a workspace, and a name for the linker, that a build has drawn;
* `Crowd.Grown`: the directories of an output, once they are there;
* `Lies.agree_lookups`, `Lies.artifact_seenOn`, `Grown.output_ends`, `Grown.staging_seenOn`: what lookups
  lead through;
* `Lies.prepare_eq`: making the directories of an output goes down from the one that is there.
-/

import CalcBuild.Proofs.Build.Ground
import CalcBuild.Proofs.Build.Exclusion
import CalcBuild.Proofs.Build.Footprint
import CalcBuild.Proofs.Process.Tame

namespace CalcBuild

open Files FileSystem

variable {State : Type}

namespace Crowd

variable {crowd : Crowd State} {ground : Ground} {always : List Bytes} {drawn : Nat}

/-! ### What is seen through places that no build changes -/

/-- Where no build changes anything, everything is as it was. -/
def Steady (crowd : Crowd State) (ground : Ground) (drawn : Nat) (fs : FileSystem) : Prop :=
  ∀ place, crowd.Calm ground drawn place → fs.get? place = crowd.world.files.get? place

/-- The path of a workspace whose name is drawn. -/
def workspacePath (crowd : Crowd State) (number : Nat) : Bytes :=
  Path.join crowd.rootPath (Workspace.stem ++ crowd.setting.names number)

/-- The artifacts of a workspace that is there: the workspace is a directory, and what is in it are
regular files. -/
structure Housed (crowd : Crowd State) (ground : Ground) (fs : FileSystem) (number : Nat) : Prop where
  free : crowd.world.files.get? (ground.workspace crowd.setting.names number) = none
  ends : crowd.world.files.ending crowd.setting.cwd (crowd.workspacePath number)
    = .ok (.name ground.root (Workspace.stem ++ crowd.setting.names number) false)
  short : (Workspace.stem ++ crowd.setting.names number).length ≤ longestName
  allowed : crowd.world.files.mayChange ground.root = true
  own : fs.get? (ground.workspace crowd.setting.names number) = some (.directory Mode.ofDirectory)
  plain : ∀ place, isWithin (ground.workspace crowd.setting.names number) place = true →
    place ≠ ground.workspace crowd.setting.names number → IsPlain (fs.get? place)

theorem Housed.congr {fs fs' : FileSystem} {number : Nat} (housed : crowd.Housed ground fs number)
    (same : SameWithin (ground.workspace crowd.setting.names number) fs' fs) :
    crowd.Housed ground fs' number :=
  { housed with
    own := (same _ (isWithin_self _)).trans housed.own
    plain := fun place within differs => by
      rw [same place within]
      exact housed.plain place within differs }

/-- The name for the linker that a build holds: what is there is a regular file or nothing, and can be
removed. -/
structure Held (crowd : Crowd State) (ground : Ground) (index : Nat) (output : Bytes) (fs : FileSystem)
    (number : Nat) : Prop where
  free : crowd.world.files.get? (ground.staging crowd.setting.names index number) = none
  sane : pathFault? (stagingPath crowd.setting output number) = none
  short : (Staging.stem ++ crowd.setting.names number).length ≤ longestName
  allowed : (ground.site index).missing = [] →
    crowd.world.files.mayChange (ground.site index).base = true
  regular : IsPlain (fs.get? (ground.staging crowd.setting.names index number))

theorem Held.congr {fs fs' : FileSystem} {index number : Nat} {output : Bytes}
    (held : crowd.Held ground index output fs number)
    (plain : IsPlain (fs'.get? (ground.staging crowd.setting.names index number))) :
    crowd.Held ground index output fs' number :=
  { held with regular := plain }

/-- The directories of an output are there, which could be made in the beginning. -/
structure Grown (crowd : Crowd State) (ground : Ground) (drawn index : Nat) (output : Bytes)
    (fs : FileSystem) : Prop where
  full : fs.Full (ground.site index).base (ground.site index).missing
  lands : ∃ grown, (∀ place, crowd.Calm ground drawn place →
      grown.get? place = crowd.world.files.get? place) ∧
    (∀ place, (ground.site index).Makes place →
      grown.get? place = some (.directory Mode.ofDirectory)) ∧
    crowd.Lands ground drawn index output grown

theorem Lies.isLeaf_workspace (lies : crowd.Lies ground always drawn) {number : Nat}
    (early : number < drawn) : Path.IsLeaf (Workspace.stem ++ crowd.setting.names number) :=
  Workspace.isLeaf_name (lies.plain number early)

section Sight

variable {fs own : FileSystem}

/-- What leads through places that no build changes is seen in the same way. -/
theorem seenOn_steady (steady : crowd.Steady ground drawn fs) {path : Bytes}
    (way : ∀ place ∈ crowd.world.files.seenOn crowd.setting.cwd path, crowd.Calm ground drawn place) :
    fs.seenOn crowd.setting.cwd path = crowd.world.files.seenOn crowd.setting.cwd path :=
  seenOn_congr fun place member => steady place (way place member)

/-- Two file systems agree on what all builds look up. -/
theorem Lies.agree_lookups (lies : crowd.Lies ground always drawn)
    (steady : crowd.Steady ground drawn fs) (steadyOwn : crowd.Steady ground drawn own) {path : Bytes}
    (member : path ∈ crowd.lookups always) :
    own.AgreeOn fs (fs.seenOn crowd.setting.cwd path) := by
  have way := lies.ways path member
  rw [seenOn_steady steady way]
  intro place seen
  rw [steady place (way place seen), steadyOwn place (way place seen)]

/-- The way to the directory for workspaces is the same. -/
theorem Lies.rootWay_steady (lies : crowd.Lies ground always drawn)
    (steady : crowd.Steady ground drawn fs) :
    fs.walk true linkLimit (start crowd.setting.cwd crowd.rootPath) (Path.names crowd.rootPath)
        = crowd.world.files.walk true linkLimit (start crowd.setting.cwd crowd.rootPath)
          (Path.names crowd.rootPath) ∧
      fs.wayTo crowd.setting.cwd crowd.rootPath
        = crowd.world.files.wayTo crowd.setting.cwd crowd.rootPath :=
  wayTo_congr fun place member => steady place (lies.rootWay place member)

/-- What is looked at to find out what the path of a workspace denotes. -/
theorem Lies.workspace_lookedAt (lies : crowd.Lies ground always drawn)
    (steady : crowd.Steady ground drawn fs) {number : Nat} (early : number < drawn) {place : Place}
    (member : place ∈ fs.lookedAt crowd.setting.cwd (crowd.workspacePath number)) :
    crowd.Calm ground drawn place := by
  unfold workspacePath at member
  rw [lookedAt_join (lies.isLeaf_workspace early), (lies.rootWay_steady steady).2] at member
  exact lies.rootWay place member

/-- The path of a workspace denotes it in all file systems that are steady. -/
theorem Lies.workspace_ending (lies : crowd.Lies ground always drawn)
    (steady : crowd.Steady ground drawn fs) {number : Nat} (early : number < drawn) :
    fs.ending crowd.setting.cwd (crowd.workspacePath number)
      = crowd.world.files.ending crowd.setting.cwd (crowd.workspacePath number) := by
  refine ending_congr fun place member => steady place ?_
  unfold workspacePath at member
  rw [lookedAt_join (lies.isLeaf_workspace early)] at member
  exact lies.rootWay place member

/-- What is looked at to find out what the path of an artifact leads to. -/
theorem Lies.artifact_seenOn (lies : crowd.Lies ground always drawn)
    (steady : crowd.Steady ground drawn fs) {number : Nat} (early : number < drawn)
    (housed : crowd.Housed ground fs number) {leaf : Bytes} (isLeaf : Path.IsLeaf leaf) {place : Place}
    (member : place ∈ fs.seenOn crowd.setting.cwd (Path.join (crowd.workspacePath number) leaf)) :
    crowd.Calm ground drawn place ∨
      isWithin (ground.workspace crowd.setting.names number) place = true := by
  have ends := (lies.workspace_ending steady early).trans housed.ends
  have directory : fs.isDirectoryAt (ground.workspace crowd.setting.names number) = true :=
    isDirectoryAt_iff.mpr ⟨_, housed.own⟩
  have walks := walk_directory ends housed.short directory
  have roots {dir : Place} (leads : fs.walk true linkLimit (start crowd.setting.cwd crowd.rootPath)
      (Path.names crowd.rootPath) = .ok (.present dir)) : dir = ground.root :=
    lies.rooted dir ((lies.rootWay_steady steady).1.symm.trans leads)
  have unlinked : ∀ dir, fs.walk true linkLimit (start crowd.setting.cwd crowd.rootPath)
      (Path.names crowd.rootPath) = .ok (.present dir) → ∀ target,
      fs.get? ((Workspace.stem ++ crowd.setting.names number) :: dir) ≠ some (.link target) := by
    intro dir leads target found
    have here := housed.own
    rw [roots leads] at found
    unfold Ground.workspace at here
    rw [here] at found
    cases found
  have unlinked' : ∀ dir, fs.walk true linkLimit
      (start crowd.setting.cwd (crowd.workspacePath number)) (Path.names (crowd.workspacePath number))
        = .ok (.present dir) → ∀ target, fs.get? (leaf :: dir) ≠ some (.link target) := by
    intro dir leads target found
    rw [walks] at leads
    cases leads
    obtain ⟨_, _, other⟩ := housed.plain _ (isWithin_cons leaf (isWithin_self _))
      (List.cons_ne_self _ _) _ found
    cases other
  rw [seenOn_join isLeaf] at member
  rcases mem_wayTo_join isLeaf unlinked' member with before | ⟨dir, leads, rfl⟩
  · rcases mem_wayTo_join (lies.isLeaf_workspace early) unlinked before with above | ⟨dir, leads, rfl⟩
    · rw [(lies.rootWay_steady steady).2] at above
      exact .inl (lies.rootWay place above)
    · rw [roots leads]
      exact .inr (isWithin_self _)
  · rw [walks] at leads
    cases leads
    exact .inr (isWithin_cons leaf (isWithin_self _))

/-- What is looked at where the directories of an output are. -/
theorem Grown.same {index : Nat} {output : Bytes} (grown : crowd.Grown ground drawn index output fs)
    (steady : crowd.Steady ground drawn fs) :
    ∃ other, crowd.Lands ground drawn index output other ∧
      ∀ place, crowd.Calm ground drawn place ∨ (ground.site index).Makes place →
        fs.get? place = other.get? place := by
  obtain ⟨other, calm, makes, lands⟩ := grown.lands
  refine ⟨other, lands, fun place near => ?_⟩
  rcases near with still | made
  · rw [steady place still, calm place still]
  · rw [grown.full.get? made, makes place made]

/-- **An output denotes its site** where its directories are. -/
theorem Grown.output_ends {index : Nat} {output : Bytes}
    (grown : crowd.Grown ground drawn index output fs) (steady : crowd.Steady ground drawn fs) :
    (∃ slashed, fs.ending crowd.setting.cwd output
        = .ok (.name (ground.site index).dir (ground.site index).last slashed)) ∧
      ∀ place ∈ fs.lookedAt crowd.setting.cwd output,
        crowd.Calm ground drawn place ∨ (ground.site index).Makes place := by
  obtain ⟨other, lands, same⟩ := grown.same steady
  have agree : fs.AgreeOn other (other.lookedAt crowd.setting.cwd output) :=
    fun place member => same place (lands.way place member)
  obtain ⟨slashed, ends⟩ := lands.ends
  refine ⟨⟨slashed, (ending_congr agree).trans ends⟩, fun place member => lands.way place ?_⟩
  unfold lookedAt at member ⊢
  rw [← (walk_congr agree).2]
  exact member

/-- The directory of an output, where it is. -/
theorem Grown.directory_leads {index : Nat} {output : Bytes}
    (grown : crowd.Grown ground drawn index output fs) (steady : crowd.Steady ground drawn fs) :
    fs.walk true linkLimit (start crowd.setting.cwd (crowd.directoryPath output))
        (Path.names (crowd.directoryPath output)) = .ok (.present (ground.site index).dir) ∧
      ∀ place ∈ fs.wayTo crowd.setting.cwd (crowd.directoryPath output),
        crowd.Calm ground drawn place ∨ (ground.site index).Makes place := by
  obtain ⟨other, lands, same⟩ := grown.same steady
  have agree : fs.AgreeOn other (other.wayTo crowd.setting.cwd (crowd.directoryPath output)) :=
    fun place member => same place (lands.around place member)
  refine ⟨(wayTo_congr agree).1.trans lands.leads, fun place member => lands.around place ?_⟩
  rw [← (wayTo_congr agree).2]
  exact member

/-- **A name for the linker denotes its place** where the directories of the output are. -/
theorem Grown.staging_ends {index : Nat} {output : Bytes}
    (grown : crowd.Grown ground drawn index output fs) (steady : crowd.Steady ground drawn fs)
    {number : Nat} (plain : Path.slash ∉ crowd.setting.names number)
    (sane : pathFault? (stagingPath crowd.setting output number) = none) :
    fs.ending crowd.setting.cwd (stagingPath crowd.setting output number)
      = .ok (.name (ground.site index).dir (Staging.stem ++ crowd.setting.names number) false) := by
  obtain ⟨⟨slashed, ends⟩, _⟩ := grown.output_ends steady
  obtain ⟨_, _, _, ⟨mode, directory, enters⟩, _⟩ := ending_name ends
  refine (ending_join_iff (Staging.isLeaf plain)).mpr ⟨sane, rfl, rfl, ?_, mode, directory, enters⟩
  rw [start_join (Staging.isLeaf plain)]
  exact (grown.directory_leads steady).1

theorem Grown.staging_lookedAt {index : Nat} {output : Bytes}
    (grown : crowd.Grown ground drawn index output fs) (steady : crowd.Steady ground drawn fs)
    {number : Nat} (plain : Path.slash ∉ crowd.setting.names number) {place : Place}
    (member : place ∈ fs.lookedAt crowd.setting.cwd (stagingPath crowd.setting output number)) :
    crowd.Calm ground drawn place ∨ (ground.site index).Makes place := by
  unfold stagingPath at member
  rw [lookedAt_join (Staging.isLeaf plain)] at member
  exact (grown.directory_leads steady).2 place member

/-- What is looked at to find out what a name for the linker leads to. -/
theorem Grown.staging_seenOn {index : Nat} {output : Bytes}
    (grown : crowd.Grown ground drawn index output fs) (steady : crowd.Steady ground drawn fs)
    {number : Nat} (plain : Path.slash ∉ crowd.setting.names number)
    (regular : IsPlain (fs.get? (ground.staging crowd.setting.names index number))) {place : Place}
    (member : place ∈ fs.seenOn crowd.setting.cwd (stagingPath crowd.setting output number)) :
    crowd.Calm ground drawn place ∨ (ground.site index).Makes place ∨
      place = ground.staging crowd.setting.names index number := by
  have isLeaf := Staging.isLeaf plain
  have leads := (grown.directory_leads steady).1
  have unlinked : ∀ dir, fs.walk true linkLimit
      (start crowd.setting.cwd (crowd.directoryPath output)) (Path.names (crowd.directoryPath output))
        = .ok (.present dir) → ∀ target,
      fs.get? ((Staging.stem ++ crowd.setting.names number) :: dir) ≠ some (.link target) := by
    intro dir leads' target found
    rw [leads] at leads'
    cases leads'
    obtain ⟨_, _, other⟩ := regular _ found
    cases other
  unfold stagingPath at member
  rw [seenOn_join isLeaf] at member
  rcases mem_wayTo_join isLeaf unlinked member with before | ⟨dir, leads', rfl⟩
  · exact ((grown.directory_leads steady).2 place before).imp_right .inl
  · rw [leads] at leads'
    cases leads'
    exact .inr (.inr rfl)

/-- **Making the directories of an output goes down from the one that is there.** -/
theorem Lies.prepare_eq (lies : crowd.Lies ground always drawn) {index : Nat} {request : BuildRequest}
    (asked : crowd.requests[index]? = some request) (steady : crowd.Steady ground drawn fs)
    (part : fs.Partly (ground.site index).base (ground.site index).missing) :
    fs.makeDirectories crowd.setting.cwd (Staging.directory request.output)
      = fs.descend (ground.site index).base (ground.site index).missing := by
  have sited := lies.sited index request asked
  obtain ⟨first, rest, rests, under, way⟩ := sited.begins
  have bound : index < crowd.requests.length := (List.getElem?_eq_some_iff.mp asked).1
  refine makeChain_eq_descend under part.bare (fun above suffix => rests.congr fun place member => ?_)
    fun path above shape _ => ?_
  · have calm := way place member
    rw [descend_other fs fun below => calm index bound (.inr (.inl (below.mono suffix)))]
    exact steady place calm
  · obtain ⟨more, shape'⟩ : ∃ more, Path.ancestors (Staging.directory request.output)
        = Staging.directory request.output :: more := by
      unfold Path.ancestors Path.ancestorsWithin
      split <;> exact ⟨_, rfl⟩
    rw [shape'] at shape
    cases shape
    exact sited.sane

end Sight

end Crowd

end CalcBuild

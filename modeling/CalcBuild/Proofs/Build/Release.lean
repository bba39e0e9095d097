/-
**What a build lets go of on both sides.**

The name for the linker is freed, moved to the output or given up, and the workspace is removed. Each of
these succeeds on both sides or on none, and nothing is left at the names that were drawn.

* `Mirrored.unlinked`, `Mirrored.discarded`: what is at the name for the linker is removed;
* `Mirrored.renamed`: what was linked is moved to the output;
* `Mirrored.removed`: the workspace is removed.
-/

import CalcBuild.Proofs.Build.Sides

namespace CalcBuild

open Files FileSystem

variable {State : Type}

/-- What is moved was there. -/
theorem Files.FileSystem.found_of_rename {fs fs' : FileSystem} {cwd : Place} {source target : Bytes}
    {dir : Place} {name : Bytes} {slashed : Bool}
    (ends : fs.ending cwd source = .ok (.name dir name slashed))
    (renames : fs.rename cwd source target = .ok fs') : (fs.get? (name :: dir)).isSome := by
  by_contra free
  rw [Option.not_isSome_iff_eq_none] at free
  unfold rename at renames
  rw [ends] at renames
  split at renames
  · cases renames
  · cases renames
  · rename_i same _
    cases same
    rw [free] at renames
    split at renames <;> cases renames
  · cases renames

namespace Crowd

variable {crowd : Crowd State} {ground : Ground} {always : List Bytes} {drawn index : Nat}
  {request : BuildRequest} {drew : List Nat} {run run' : BuildRun State} {fs fs' own own' : FileSystem}
  {upto : Nat} {staging : Bytes}

/-- What is looked at to find out what the name for the linker denotes is the same on both sides. -/
theorem Mirrored.agree_staging (lies : crowd.Lies ground always drawn)
    (mirrored : crowd.Mirrored ground drawn index request drew upto run fs own) (inside : upto ≤ drawn)
    (holds : run.staging? = some staging) :
    own.AgreeOn fs (fs.lookedAt crowd.setting.cwd staging) := by
  obtain ⟨number, member, rfl, _⟩ := mirrored.settles.staged staging holds
  have grown : run.IsGrown := .inr (by rw [holds]; exact nofun)
  exact fun place seen => mirrored.same_near grown ((mirrored.grown grown).staging_lookedAt
    mirrored.steady (lies.plain number (mirrored.before inside number member)) seen)

/-- **What is at the name for the linker is removed on both sides**, or on none. -/
theorem Mirrored.unlinked (lies : crowd.Lies ground always drawn)
    (asked : crowd.requests[index]? = some request)
    (mirrored : crowd.Mirrored ground drawn index request drew upto run fs own) (inside : upto ≤ drawn)
    (holds : run.staging? = some staging) :
    (∃ fault, fs.unlink crowd.setting.cwd staging = .error fault ∧
        own.unlink crowd.setting.cwd staging = .error fault) ∨
      ∃ fs' own', fs.unlink crowd.setting.cwd staging = .ok fs' ∧
        own.unlink crowd.setting.cwd staging = .ok own' ∧
        ∀ run' : BuildRun State, run'.workspace? = run.workspace? → run'.staging? = run.staging? →
          (run'.IsGrown → run.IsGrown) →
          crowd.Mirrored ground drawn index request drew upto run' fs' own' ∧
            Together (ground.Own crowd.setting.names index drew) fs fs' own own' := by
  obtain ⟨number, member, _, held, ends, proper, atStaging⟩ := mirrored.staging_held lies inside holds
  have denotes := placeOf_of_ending ends
  have alike := unlink_alike (mirrored.agree_staging lies inside holds) fun place denotes' => by
    rw [denotes] at denotes'
    cases denotes'
    exact mirrored.agree _ (.inr ⟨number, member, .inr rfl⟩)
  rcases alike.both with failed | ⟨fs', own', unlinks, unlinksOwn, together⟩
  · exact .inl failed
  refine .inr ⟨fs', own', unlinks, unlinksOwn, fun run' workspaces stagings still => ?_⟩
  refine mirrored.worked lies asked inside member proper atStaging
    (unlink_touched mirrored.sound unlinks).sound (unlink_touched mirrored.soundOwn unlinksOwn).sound
    (together.mono fun place here => (Option.some.inj (denotes.symm.trans here)).symm)
    (.inr fun entry found => ?_) workspaces stagings still
  obtain ⟨dir, name, _, ends', _, _, _, _, rfl⟩ := unlink_eq_ok_iff.mp unlinks
  rw [ends] at ends'
  cases ends'
  rw [get?_drop _ _ (List.cons_ne_nil _ _)] at found
  exact absurd found (by simp [Ground.staging])

/-- The directory of the output may be changed where a name was drawn in it. -/
theorem Mirrored.mayChange_dir (lies : crowd.Lies ground always drawn)
    (asked : crowd.requests[index]? = some request)
    (mirrored : crowd.Mirrored ground drawn index request drew upto run fs own) (grown : run.IsGrown)
    {number : Nat} (held : crowd.Held ground index request.output fs number) :
    fs.mayChange (ground.site index).dir = true := by
  have full := (mirrored.grown grown).full
  unfold Site.dir
  cases missing : (ground.site index).missing with
  | nil =>
    rw [List.nil_append, mayChange_congr (mirrored.steady _ (lies.base_calm asked))]
    exact held.allowed missing
  | cons name above =>
    rw [missing] at full
    exact mayChange_ofDirectory full.2.2

/-- A name for the linker tells when it was drawn. -/
theorem Lies.staging_injective (lies : crowd.Lies ground always drawn) {output : Bytes}
    {number number' : Nat} (early : number < drawn) (early' : number' < drawn)
    (same : stagingPath crowd.setting output number = stagingPath crowd.setting output number') :
    number = number' :=
  lies.distinct number early number' early' (List.append_cancel_left
    (Path.leaf_of_join (Staging.isLeaf (lies.plain number early))
      (Staging.isLeaf (lies.plain number' early')) same))

/-- **A name for the linker is let go of** when nothing is left there. -/
theorem Mirrored.released (lies : crowd.Lies ground always drawn)
    (mirrored : crowd.Mirrored ground drawn index request drew upto run fs own) (inside : upto ≤ drawn)
    {number : Nat} (member : number ∈ drew)
    (holds : run.staging? = some (stagingPath crowd.setting request.output number))
    (gone : fs.get? (ground.staging crowd.setting.names index number) = none)
    (workspaces : run'.workspace? = run.workspace?) (released : run'.staging? = none)
    (still : run'.IsGrown → run.IsGrown) :
    crowd.Mirrored ground drawn index request drew upto run' fs own := by
  have early {number : Nat} (member : number ∈ drew) : number < drawn :=
    mirrored.before inside number member
  obtain ⟨number', member', path, held⟩ := mirrored.settles.staged _ holds
  obtain rfl := lies.staging_injective (early member) (early member') path
  refine { mirrored with
    grown := fun grown => mirrored.grown (still grown)
    grownOwn := fun grown => mirrored.grownOwn (still grown)
    settles := ⟨fun workspace keeps => mirrored.settles.housed workspace (workspaces ▸ keeps),
      fun staging keeps => ?_, fun other member' place named => ?_⟩ }
  · rw [released] at keeps
    cases keeps
  · rcases mirrored.settles.swept other member' place named with same | ⟨workspace, keeps, rest⟩ |
      ⟨keeps, rfl⟩
    · exact .inl same
    · exact .inr (.inl ⟨workspace, workspaces.trans keeps, rest⟩)
    · rw [holds] at keeps
      obtain rfl := lies.staging_injective (early member) (early member') (Option.some.inj keeps)
      exact .inl (gone.trans held.free.symm)

/-- **The name for the linker is given up on both sides**, and nothing is left there. -/
theorem Mirrored.discarded (lies : crowd.Lies ground always drawn)
    (asked : crowd.requests[index]? = some request)
    (mirrored : crowd.Mirrored ground drawn index request drew upto run fs own) (inside : upto ≤ drawn)
    (holds : run.staging? = some staging) (workspaces : run'.workspace? = run.workspace?)
    (released : run'.staging? = none) (still : run'.IsGrown → run.IsGrown) :
    crowd.Mirrored ground drawn index request drew upto run'
        (Staging.discard crowd.setting staging fs) (Staging.discard crowd.setting staging own) ∧
      Together (ground.Own crowd.setting.names index drew) fs
        (Staging.discard crowd.setting staging fs) own (Staging.discard crowd.setting staging own) := by
  have grown : run.IsGrown := .inr (by rw [holds]; exact nofun)
  obtain ⟨number, member, rfl, held, ends, _, _⟩ := mirrored.staging_held lies inside holds
  unfold Staging.discard
  rcases mirrored.unlinked lies asked inside holds with ⟨fault, fails, failsOwn⟩ |
    ⟨fs', own', unlinks, unlinksOwn, next⟩
  · rw [fails, failsOwn]
    refine ⟨mirrored.released lies inside member holds ?_ workspaces released still, .refl _ _ _⟩
    -- It could be removed if it were there.
    by_contra there
    obtain ⟨entry, found⟩ := Option.ne_none_iff_exists'.mp there
    obtain ⟨mode, contents, rfl⟩ := held.regular entry found
    rw [unlink_eq_ok_iff.mpr ⟨_, _, _, ends, held.short, found, rfl,
      mirrored.mayChange_dir lies asked grown held, rfl⟩] at fails
    cases fails
  · rw [unlinks, unlinksOwn]
    obtain ⟨kept, together⟩ := next { run' with staging? := run.staging? } workspaces rfl fun _ => grown
    refine ⟨kept.released lies inside member holds ?_ rfl released fun grown' =>
      .inr (by rw [holds]; exact nofun), together⟩
    obtain ⟨dir, name, _, ends', _, _, _, _, rfl⟩ := unlink_eq_ok_iff.mp unlinks
    rw [ends] at ends'
    cases ends'
    rw [get?_drop _ _ (List.cons_ne_nil _ _)]
    exact if_pos rfl

/-- The output is not at a name that was drawn. -/
theorem Lies.output_apart (lies : crowd.Lies ground always drawn)
    (asked : crowd.requests[index]? = some request) {number : Nat} (early : number < drawn) :
    ¬ ground.Named crowd.setting.names index number (ground.site index).place :=
  lies.not_named (listed_of_asked asked) (isWithin_self _) early index

/-- **What was linked is moved to the output on both sides**, or on none. -/
theorem Mirrored.renamed (lies : crowd.Lies ground always drawn)
    (asked : crowd.requests[index]? = some request)
    (mirrored : crowd.Mirrored ground drawn index request drew upto run fs own) (inside : upto ≤ drawn)
    (holds : run.staging? = some staging) :
    (∃ fault, fs.rename crowd.setting.cwd staging request.output = .error fault ∧
        own.rename crowd.setting.cwd staging request.output = .error fault) ∨
      ∃ fs' own', fs.rename crowd.setting.cwd staging request.output = .ok fs' ∧
        own.rename crowd.setting.cwd staging request.output = .ok own' ∧
        ∀ run' : BuildRun State, run'.workspace? = run.workspace? → run'.staging? = none →
          (run'.IsGrown → run.IsGrown) →
          crowd.Mirrored ground drawn index request drew upto run' fs' own' ∧
            Together (ground.Own crowd.setting.names index drew) fs fs' own own' := by
  have grown : run.IsGrown := .inr (by rw [holds]; exact nofun)
  have longer := mirrored.longer_refl inside
  obtain ⟨number, member, rfl, held, ends, _, _⟩ := mirrored.staging_held lies inside holds
  obtain ⟨⟨slashed, ends'⟩, near⟩ := (mirrored.grown grown).output_ends mirrored.steady
  have denotes := placeOf_of_ending ends'
  have leaf : fs.isDirectoryAt (ground.staging crowd.setting.names index number) = false := by
    rw [Bool.eq_false_iff]
    intro directory
    obtain ⟨mode, found⟩ := isDirectoryAt_iff.mp directory
    obtain ⟨_, _, other⟩ := held.regular _ found
    cases other
  rcases (rename_alike mirrored.sound mirrored.soundOwn (mirrored.agree_staging lies inside holds)
    (fun place seen => mirrored.same_near grown (near place seen)) ends
    (mirrored.agree _ (.inr ⟨number, member, .inr rfl⟩)) leaf fun place denotes' => by
      rw [denotes] at denotes'
      cases denotes'
      exact mirrored.agree _ (.inl rfl)).both with failed | ⟨fs', own', renames, renamesOwn, changes⟩
  · exact .inl failed
  refine .inr ⟨fs', own', renames, renamesOwn, fun run' workspaces released still => ?_⟩
  have together : Together (ground.Own crowd.setting.names index drew) fs fs' own own' := by
    refine changes.mono fun place here => ?_
    rcases here with rfl | here
    · exact .inr ⟨number, member, .inr rfl⟩
    · exact .inl (Option.some.inj (here.symm.trans denotes))
  have gone : fs'.get? (ground.staging crowd.setting.names index number) = none := by
    obtain ⟨entry, found⟩ := Option.isSome_iff_exists.mp (found_of_rename ends renames)
    obtain ⟨mode, contents, rfl⟩ := held.regular entry found
    obtain ⟨dir', name', ends'', _, moved⟩ :=
      (rename_leaf_iff mirrored.sound.closed ends held.short found rfl).mp renames
    rw [ends'] at ends''
    cases ends''
    rcases moved with ⟨same, _⟩ | ⟨differs, _, _, leaf', rfl⟩
    · exact absurd (.inr same.symm) (lies.output_apart asked (longer.before number member))
    · exact (mirrored.sound.get?_move (List.cons_ne_nil _ _) (List.cons_ne_nil _ _) found rfl leaf' _).trans
        ((if_neg differs).trans (if_pos rfl))
  have unmoved {place : Place} (other : place ≠ ground.staging crowd.setting.names index number)
      (other' : place ≠ (ground.site index).place) : fs'.get? place = fs.get? place := by
    refine ((changes place).resolve_right fun ⟨here, _⟩ => ?_).1
    rcases here with here | here
    · exact other here
    · exact other' (Option.some.inj (here.symm.trans denotes))
  refine ⟨mirrored.work lies asked (rename_sound mirrored.sound renames)
    (rename_sound mirrored.soundOwn renamesOwn) longer together still
    ⟨fun workspace keeps => ?_, fun staging keeps => ?_, fun number' member' place named => ?_⟩, together⟩
  · obtain ⟨number', member', path, housed⟩ := mirrored.settles.housed workspace (workspaces ▸ keeps)
    refine ⟨number', member', path, housed.congr fun place within => unmoved ?_ ?_⟩
    · rintro rfl
      exact lies.staging_outside (listed_of_asked asked) (longer.before number' member') within
    · rintro rfl
      exact lies.output_apart asked (longer.before number' member') (.inl within)
  · rw [released] at keeps
    cases keeps
  · by_cases here : place = ground.staging crowd.setting.names index number
    · rw [here]
      exact .inl (gone.trans held.free.symm)
    · have elsewhere : place ≠ (ground.site index).place := by
        rintro rfl
        exact lies.output_apart asked (longer.before number' member') named
      rw [unmoved here elsewhere]
      rcases mirrored.settles.swept number' member' place named with same | ⟨workspace, keeps, rest⟩ |
        ⟨keeps, rfl⟩
      · exact .inl same
      · exact .inr (.inl ⟨workspace, workspaces.trans keeps, rest⟩)
      · rw [holds] at keeps
        obtain rfl := lies.staging_injective (longer.before number member)
          (longer.before number' member') (Option.some.inj keeps)
        exact absurd rfl here

/-- The path of a workspace tells when its name was drawn. -/
theorem Lies.workspace_injective (lies : crowd.Lies ground always drawn) {number number' : Nat}
    (early : number < drawn) (early' : number' < drawn)
    (same : crowd.workspacePath number = crowd.workspacePath number') : number = number' :=
  lies.distinct number early number' early' (List.append_cancel_left
    (Path.leaf_of_join (lies.isLeaf_workspace early) (lies.isLeaf_workspace early') same))

/-- **The workspace is removed on both sides**, and nothing is left of it. -/
theorem Mirrored.removed (lies : crowd.Lies ground always drawn)
    (asked : crowd.requests[index]? = some request)
    (mirrored : crowd.Mirrored ground drawn index request drew upto run fs own) (inside : upto ≤ drawn)
    {workspace : Workspace} (holds : run.workspace? = some workspace) (unstaged : run.staging? = none)
    (released : run'.workspace? = none) (unstaged' : run'.staging? = none)
    (still : run'.IsGrown → run.IsGrown) :
    ∃ fs' own', fs.removeAll crowd.setting.cwd workspace.path = (fs', .ok ()) ∧
      own.removeAll crowd.setting.cwd workspace.path = (own', .ok ()) ∧
      crowd.Mirrored ground drawn index request drew upto run' fs' own' ∧
      Together (ground.Own crowd.setting.names index drew) fs fs' own own' := by
  obtain ⟨number, member, path, housed⟩ := mirrored.settles.housed workspace holds
  have longer := mirrored.longer_refl inside
  have early := longer.before number member
  have proper : ground.workspace crowd.setting.names number ≠ [] := List.cons_ne_nil _ _
  have calm {place : Place}
      (seen : place ∈ fs.lookedAt crowd.setting.cwd (crowd.workspacePath number)) :=
    lies.workspace_lookedAt mirrored.steady early seen
  have ends := (lies.workspace_ending mirrored.steady early).trans housed.ends
  have allowed : fs.mayChange ground.root = true := by
    obtain ⟨_, _, finds, _⟩ := ending_name ends
    rw [mayChange_congr (mirrored.steady _ (calm (mem_trail_end finds)))]
    exact housed.allowed
  have modes : ∀ place mode, isWithin (ground.workspace crowd.setting.names number) place = true →
      fs.get? place = some (.directory mode) → mode = Mode.ofDirectory := by
    intro place mode within found
    by_cases here : place = ground.workspace crowd.setting.names number
    · rw [here, housed.own] at found
      cases found
      rfl
    · obtain ⟨_, _, other⟩ := housed.plain place within here _ found
      cases other
  obtain ⟨removes, removesOwn⟩ := removeAll_together mirrored.sound mirrored.soundOwn
    (fun place seen => by
      rw [mirrored.steady place (calm seen), mirrored.steadyOwn place (calm seen)])
    ends housed.short (isDirectoryAt_iff.mpr ⟨_, housed.own⟩) modes allowed
    fun place within => mirrored.agree place (.inr ⟨number, member, .inl within⟩)
  have together : Together (ground.Own crowd.setting.names index drew) fs
      (fs.dropBelow (ground.workspace crowd.setting.names number)) own
      (own.dropBelow (ground.workspace crowd.setting.names number)) :=
    (together_dropBelow proper).mono fun place within => .inr ⟨number, member, .inl within⟩
  rw [path]
  refine ⟨fs.dropBelow (ground.workspace crowd.setting.names number),
    own.dropBelow (ground.workspace crowd.setting.names number), removes, removesOwn,
    mirrored.work lies asked (mirrored.sound.dropBelow proper)
    (mirrored.soundOwn.dropBelow proper) longer together still
    ⟨fun workspace keeps => ?_, fun staging keeps => ?_, fun number' member' place named => ?_⟩, together⟩
  · rw [released] at keeps
    cases keeps
  · rw [unstaged'] at keeps
    cases keeps
  · rw [get?_dropBelow fs place proper]
    by_cases within : isWithin (ground.workspace crowd.setting.names number) place = true
    · rw [if_pos within]
      exact .inl (get?_within_free lies.sound.closed housed.free within).symm
    · rw [if_neg within]
      rcases mirrored.settles.swept number' member' place named with same | ⟨_, keeps, path', rest⟩ |
        ⟨keeps, _⟩
      · exact .inl same
      · rw [holds] at keeps
        cases keeps
        obtain rfl := lies.workspace_injective early (longer.before number' member')
          (path.symm.trans path')
        exact absurd rest within
      · rw [unstaged] at keeps
        cases keeps

end Crowd

end CalcBuild

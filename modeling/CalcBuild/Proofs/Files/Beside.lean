/-
**Making directories beside something else.**

Two file systems may differ in what lies at and below one place, where the first has something and
the second has nothing. Making a directory with those on the way to it does the same in both, as long
as the way does not lead through that place.

* `Beside`: the two agree everywhere else;
* `lookedAt`, `ending_congr`: the places that decide what a path denotes;
* `makeDirectory_beside`, `makeDirectories_beside`: the same directories are made.
-/

import CalcBuild.Proofs.Files.Growth

namespace CalcBuild.Files.FileSystem

/-- Where `fs` has nothing, at and below a place, `fs'` may have something; they agree everywhere
else. -/
structure Beside (apart : Place) (fs' fs : FileSystem) : Prop where
  sound : fs.Sound
  free : fs.get? apart = none
  same : ∀ place, ¬ isWithin apart place = true → fs'.get? place = fs.get? place

/-- Two file systems agree at and below a place. -/
def SameWithin (apart : Place) (fs' fs : FileSystem) : Prop :=
  ∀ place, isWithin apart place = true → fs'.get? place = fs.get? place

theorem SameWithin.trans {apart : Place} {fs fs' fs'' : FileSystem}
    (later : SameWithin apart fs'' fs') (earlier : SameWithin apart fs' fs) :
    SameWithin apart fs'' fs :=
  fun place within => (later place within).trans (earlier place within)

/-! ### What decides what a path denotes -/

/-- The places looked at on the way to the last component of a path. -/
def lookedAt (fs : FileSystem) (cwd : Place) (path : Bytes) : List Place :=
  fs.trail true linkLimit (start cwd path) (Path.names path).dropLast

/-- **The places looked at decide what a path denotes.** -/
theorem ending_congr {fs fs' : FileSystem} {cwd : Place} {path : Bytes}
    (same : ∀ place ∈ fs.lookedAt cwd path, fs'.get? place = fs.get? place) :
    fs'.ending cwd path = fs.ending cwd path := by
  have walks := (walk_congr same).1
  unfold ending
  dsimp only
  rw [walks]
  cases finds : fs.walk true linkLimit (start cwd path) (Path.names path).dropLast with
  | error fault => rfl
  | ok spot =>
    cases spot with
    | absent place => rfl
    | present dir =>
      have here := same dir (mem_trail_end finds)
      have directory : fs'.isDirectoryAt dir = fs.isDirectoryAt dir := by
        unfold isDirectoryAt directoryMode?
        rw [here]
      simp only [entryAt, here, directory]

theorem lookedAt_grows {fs fs' : FileSystem} (grows : fs'.Grows fs) {cwd : Place} {path : Bytes}
    {place : Place} (member : place ∈ fs.lookedAt cwd path) : place ∈ fs'.lookedAt cwd path :=
  trail_grows grows member

/-- On the way to what a path denotes there are entries only. -/
theorem lookedAt_of_ending {fs : FileSystem} (closed : fs.Closed) {cwd : Place} {path : Bytes}
    (here : (fs.get? (start cwd path)).isSome) {dir : Place} {name : Bytes} {slashed : Bool}
    (ends : fs.ending cwd path = .ok (.name dir name slashed)) :
    ∀ place ∈ fs.lookedAt cwd path, (fs.get? place).isSome := by
  obtain ⟨_, _, finds, _⟩ := ending_name ends
  intro place member
  exact (trail_present closed here finds place member).resolve_right nofun

/-- A path leads through the components before its last one, and on. -/
theorem components_eq (path : Bytes) :
    ∃ further, Path.components path = (Path.names path).dropLast ++ further := by
  unfold Path.components
  cases last : (Path.names path).getLast? with
  | none =>
    rw [List.getLast?_eq_none_iff.mp last]
    exact ⟨_, rfl⟩
  | some name =>
    obtain ⟨before, split⟩ := List.getLast?_eq_some_iff.mp last
    rw [split, List.dropLast_concat]
    cases Path.endsWithSlash path with
    | false => exact ⟨[name], rfl⟩
    | true => exact ⟨[name, []], by simp⟩

/-- On the way to what a path leads to there are entries only. -/
theorem lookedAt_of_find {fs : FileSystem} (closed : fs.Closed) {cwd : Place} {path : Bytes}
    (here : (fs.get? (start cwd path)).isSome) {found : Place × Entry}
    (finds : fs.find cwd true path = .ok found) :
    ∀ place ∈ fs.lookedAt cwd path, (fs.get? place).isSome := by
  intro place member
  obtain ⟨further, components⟩ := components_eq path
  unfold find locate at finds
  cases bytes : pathFault? path with
  | some fault => simp [bytes] at finds
  | none =>
    simp only [bytes] at finds
    cases walks : fs.walk true linkLimit (start cwd path) (Path.components path) with
    | error fault => simp [walks] at finds
    | ok spot =>
      have listed := trail_present closed here walks place (by
        rw [components]
        exact trail_append member further fun _ => rfl)
      refine listed.resolve_right ?_
      rintro rfl
      simp [walks] at finds

namespace Beside

variable {apart : Place} {fs fs' : FileSystem}

theorem get?_within (beside : Beside apart fs' fs) {place : Place}
    (within : isWithin apart place = true) : fs.get? place = none :=
  get?_within_free beside.sound.closed beside.free within

theorem outside_of_isSome (beside : Beside apart fs' fs) {place : Place}
    (listed : (fs.get? place).isSome) : ¬ isWithin apart place = true := by
  intro within
  rw [beside.get?_within within] at listed
  cases listed

theorem extends_ (beside : Beside apart fs' fs) : fs'.Extends fs :=
  fun place listed => beside.same place (beside.outside_of_isSome listed)

/-- A path denotes the same in both if the way does not lead through the place apart. -/
theorem ending_eq (beside : Beside apart fs' fs) {cwd : Place} {path : Bytes}
    (outside : ∀ place ∈ fs.lookedAt cwd path, ¬ isWithin apart place = true) :
    fs'.ending cwd path = fs.ending cwd path :=
  ending_congr fun place member => beside.same place (outside place member)

/-- An entry of a directory does not lie at or below the place apart, unless it is that place. -/
theorem outside_of_directory (beside : Beside apart fs' fs) {dir : Place} {name : Bytes}
    (directory : fs.isDirectoryAt dir = true) (differs : name :: dir ≠ apart) :
    ¬ isWithin apart (name :: dir) = true := by
  intro within
  rcases isWithin_cases within with same | below
  · exact differs same.symm
  · obtain ⟨mode, found⟩ := isDirectoryAt_iff.mp directory
    rw [beside.get?_within below] at found
    cases found

end Beside

/-! ### Making directories -/

section Making

variable {apart : Place} {fs fs' : FileSystem} {cwd : Place} {path : Bytes}

/-- A directory that is made in one file system is made in the other. -/
theorem makeDirectory_beside (beside : Beside apart fs' fs)
    (outside : ∀ place ∈ fs.lookedAt cwd path, ¬ isWithin apart place = true) {made : FileSystem}
    (makes : fs.makeDirectory cwd path = .ok made) (free : made.get? apart = none) :
    ∃ made', fs'.makeDirectory cwd path = .ok made' ∧ Beside apart made' made ∧
      SameWithin apart made' fs' := by
  have sound := makeDirectory_sound makes beside.sound
  obtain ⟨dir, name, slashed, ends, short, unlisted, allowed, rfl⟩ :=
    makeDirectory_eq_ok_iff.mp makes
  have proper := List.cons_ne_nil name dir
  have directory := ending_directory ends
  have differs : name :: dir ≠ apart := by
    rintro rfl
    rw [get?_put _ _ _ proper, if_pos rfl] at free
    cases free
  have ends' := (beside.ending_eq outside).trans ends
  have elsewhere := beside.outside_of_directory directory differs
  obtain ⟨mode, found⟩ := isDirectoryAt_iff.mp directory
  have parent := beside.extends_ dir (by rw [found]; rfl)
  refine ⟨_, makeDirectory_eq_ok_iff.mpr ⟨dir, name, slashed, ends', short,
    (beside.same _ elsewhere).trans unlisted, ?_, rfl⟩, ⟨sound, free, ?_⟩, ?_⟩
  · rw [mayChange_congr parent]
    exact allowed
  · intro place outside
    rw [get?_put _ _ _ proper, get?_put _ _ _ proper, beside.same place outside]
  · intro place within
    rw [get?_put _ _ _ proper, if_neg]
    rintro rfl
    exact elsewhere within

/-- A directory that is not made in one file system is not made in the other, for the same kind of
reason: that the one above it is missing or another one. -/
theorem makeDirectory_beside_error (beside : Beside apart fs' fs)
    (outside : ∀ place ∈ fs.lookedAt cwd path, ¬ isWithin apart place = true) {fault : Fault}
    (fails : fs.makeDirectory cwd path = .error fault) :
    ∃ fault', fs'.makeDirectory cwd path = .error fault' ∧ (fault' = .noEntry ↔ fault = .noEntry) := by
  have ends := beside.ending_eq outside
  unfold makeDirectory at fails ⊢
  rw [ends]
  cases denotes : fs.ending cwd path with
  | error fault' =>
    rw [denotes] at fails
    cases fails
    exact ⟨fault, rfl, Iff.rfl⟩
  | ok ending =>
    rw [denotes] at fails
    cases ending with
    | name dir name slashed =>
      dsimp only at fails ⊢
      have entry : ∀ fs : FileSystem, ∀ fault,
          (fs.freeName dir name).bind (fun place => fs.addAt place (.directory Mode.ofDirectory))
            = .error fault → fault ≠ .noEntry := by
        intro fs fault failed
        unfold freeName addAt at failed
        repeat' split at failed
        all_goals
          simp only [Except.bind] at failed
          try split at failed
        all_goals
          cases failed
          try exact nofun
      cases made' : (fs'.freeName dir name).bind fun place =>
          fs'.addAt place (.directory Mode.ofDirectory) with
      | error fault' =>
        exact ⟨fault', rfl, iff_of_false (entry fs' fault' made') (entry fs fault fails)⟩
      | ok made =>
        obtain ⟨short, free, allowed, _⟩ := freeName_addAt.mp made'
        obtain ⟨mode, found⟩ := isDirectoryAt_iff.mp (ending_directory denotes)
        have parent := beside.extends_ dir (by rw [found]; rfl)
        rw [mayChange_congr parent] at allowed
        have unlisted : fs.get? (name :: dir) = none := by
          by_contra listed
          rw [beside.extends_ _ (Option.isSome_iff_ne_none.mpr listed)] at free
          exact listed free
        rw [freeName_addAt.mpr ⟨short, unlisted, allowed, rfl⟩] at fails
        cases fails
    | _ =>
      cases fails
      exact ⟨_, rfl, Iff.rfl⟩

/-- A path that leads to a directory keeps that in the other file system, and cannot be made there. -/
theorem isDirectory_beside (beside : Beside apart fs' fs)
    (here : (fs.get? (start cwd path)).isSome) (leads : fs.isDirectory cwd path = true) :
    fs'.isDirectory cwd path = true ∧ (∀ place ∈ fs.lookedAt cwd path, (fs.get? place).isSome) ∧
      ∀ made, fs'.makeDirectory cwd path ≠ .ok made := by
  unfold isDirectory status? at leads
  cases finds : fs.find cwd true path with
  | error fault => simp [finds] at leads
  | ok found =>
    have finds' := find_extends beside.sound.closed beside.extends_ here finds
    refine ⟨?_, lookedAt_of_find beside.sound.closed here finds, fun made makes => ?_⟩
    · unfold isDirectory status?
      rw [finds']
      simpa [finds] using leads
    · obtain ⟨dir, name, slashed, ends, short, free, _⟩ := makeDirectory_eq_ok_iff.mp makes
      rw [find_free ends short free] at finds'
      cases finds'

/-- Makes a directory; one that exists is as good as a new one. -/
def makeOrFind (fs : FileSystem) (cwd : Place) (path : Bytes) : FileSystem × Except Cause Unit :=
  match fs.makeDirectory cwd path with
  | .ok made => (made, .ok ())
  | .error fault => (fs, if fs.isDirectory cwd path then .ok () else .error fault.cause)

theorem makeChain_missing (above : List Bytes) (proper : path ≠ [])
    (missing : fs.makeDirectory cwd path = .error .noEntry) :
    fs.makeChain cwd (path :: above) = match fs.makeChain cwd above with
      | (partly, .error cause) => (partly, .error cause)
      | (partly, .ok ()) => partly.makeOrFind cwd path := by
  rw [makeChain, if_neg proper, missing]
  rfl

theorem makeChain_other (above : List Bytes) (proper : path ≠ [])
    (other : fs.makeDirectory cwd path ≠ .error .noEntry) :
    fs.makeChain cwd (path :: above) = fs.makeOrFind cwd path := by
  rw [makeChain, if_neg proper]
  unfold makeOrFind
  cases makes : fs.makeDirectory cwd path with
  | ok made => rfl
  | error fault =>
    rw [makes] at other
    cases fault <;> first | rfl | exact absurd rfl other

theorem makeOrFind_grows : (fs.makeOrFind cwd path).1.Grows fs := by
  unfold makeOrFind
  cases makes : fs.makeDirectory cwd path with
  | ok made => exact makeDirectory_grows makes
  | error fault => exact .refl fs

/-- A directory that is made or found is made or found in the other file system as well, and the way
to it does not lead through the place apart. -/
theorem makeOrFind_beside (beside : Beside apart fs' fs) (here : (fs.get? (start cwd path)).isSome)
    {made : FileSystem} (makes : fs.makeOrFind cwd path = (made, .ok ()))
    (free : made.get? apart = none) :
    (∀ place ∈ fs.lookedAt cwd path, ¬ isWithin apart place = true) ∧
      ∃ made', fs'.makeOrFind cwd path = (made', .ok ()) ∧ Beside apart made' made ∧
        SameWithin apart made' fs' := by
  unfold makeOrFind at makes ⊢
  cases step : fs.makeDirectory cwd path with
  | ok first =>
    rw [step] at makes
    cases makes
    obtain ⟨_, _, _, ends, _⟩ := makeDirectory_eq_ok_iff.mp step
    have outside : ∀ place ∈ fs.lookedAt cwd path, ¬ isWithin apart place = true :=
      fun place member =>
        beside.outside_of_isSome (lookedAt_of_ending beside.sound.closed here ends place member)
    obtain ⟨made', step', beside'⟩ := makeDirectory_beside beside outside step free
    rw [step']
    exact ⟨outside, made', rfl, beside'⟩
  | error fault =>
    rw [step] at makes
    obtain ⟨rfl, leads⟩ := Prod.mk.inj makes
    have directory : fs.isDirectory cwd path = true := by
      by_contra other
      rw [if_neg other] at leads
      cases leads
    obtain ⟨directory', listed, unmade⟩ := isDirectory_beside beside here directory
    refine ⟨fun place member => beside.outside_of_isSome (listed place member), fs', ?_, beside,
      fun _ _ => rfl⟩
    cases step' : fs'.makeDirectory cwd path with
    | ok made => exact absurd step' (unmade made)
    | error fault' => simp only [directory', if_true]

/-- **Making missing directories makes the same ones**, beside a place that stays free. -/
theorem makeChain_beside (beside : Beside apart fs' fs) (here : (fs.get? cwd).isSome)
    {paths : List Bytes} {made : FileSystem} (makes : fs.makeChain cwd paths = (made, .ok ()))
    (free : made.get? apart = none) :
    ∃ made', fs'.makeChain cwd paths = (made', .ok ()) ∧ Beside apart made' made ∧
      SameWithin apart made' fs' := by
  induction paths generalizing made with
  | nil => cases makes
  | cons path above ih =>
    by_cases bare : path = []
    · subst bare
      rw [makeChain, if_pos rfl] at makes ⊢
      cases makes
      exact ⟨fs', rfl, beside, fun _ _ => rfl⟩
    have starts {fs : FileSystem} (here : (fs.get? cwd).isSome) :
        (fs.get? (start cwd path)).isSome := by
      unfold start
      split
      · rfl
      · exact here
    by_cases missing : fs.makeDirectory cwd path = .error .noEntry
    · rw [makeChain_missing above bare missing] at makes
      cases chain : fs.makeChain cwd above with
      | mk partly result =>
        rw [chain] at makes
        cases result with
        | error cause => cases makes
        | ok done =>
          have grows := (makeChain_madeBy fs cwd above).grows
          rw [chain] at grows
          have here' : (partly.get? cwd).isSome := by
            rw [grows.extends cwd here]
            exact here
          -- What the rest of the chain made is still there after its last directory.
          have later : made.Grows partly := by
            have same : (partly.makeOrFind cwd path).1 = made := congrArg Prod.fst makes
            exact same ▸ makeOrFind_grows
          have free' : partly.get? apart = none := by
            by_contra listed
            rw [later.extends _ (Option.isSome_iff_ne_none.mpr listed)] at free
            exact listed free
          obtain ⟨partly', chain', besidePartly, samePartly⟩ := ih chain free'
          obtain ⟨outside, made', last, besideMade, sameMade⟩ :=
            makeOrFind_beside besidePartly (starts here') makes free
          have outsideBefore : ∀ place ∈ fs.lookedAt cwd path, ¬ isWithin apart place = true :=
            fun place member => outside place (lookedAt_grows grows member)
          obtain ⟨fault', step', kind⟩ := makeDirectory_beside_error beside outsideBefore missing
          obtain rfl := kind.mpr rfl
          rw [makeChain_missing above bare step', chain']
          exact ⟨made', last, besideMade, sameMade.trans samePartly⟩
    · rw [makeChain_other above bare missing] at makes
      obtain ⟨outside, made', makes', beside'⟩ :=
        makeOrFind_beside beside (starts here) makes free
      have other : fs'.makeDirectory cwd path ≠ .error .noEntry := by
        intro missing'
        cases step : fs.makeDirectory cwd path with
        | ok first =>
          unfold makeOrFind at makes
          rw [step] at makes
          cases makes
          obtain ⟨_, step', _⟩ := makeDirectory_beside beside outside step free
          rw [missing'] at step'
          cases step'
        | error fault =>
          obtain ⟨fault', step', kind⟩ := makeDirectory_beside_error beside outside step
          rw [missing'] at step'
          cases step'
          rw [step, kind.mp rfl] at missing
          exact missing rfl
      rw [makeChain_other above bare other]
      exact ⟨made', makes', beside'⟩

/-- **Making a directory with those on the way to it makes the same ones** beside a place that stays
free. -/
theorem makeDirectories_beside (beside : Beside apart fs' fs) (here : (fs.get? cwd).isSome)
    {made : FileSystem} (makes : fs.makeDirectories cwd path = (made, .ok ()))
    (free : made.get? apart = none) :
    ∃ made', fs'.makeDirectories cwd path = (made', .ok ()) ∧ Beside apart made' made ∧
      SameWithin apart made' fs' :=
  makeChain_beside beside here makes free

end Making

end CalcBuild.Files.FileSystem

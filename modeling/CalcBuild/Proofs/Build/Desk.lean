/-
**A workspace beside all other files.**

While a build runs, its workspace holds the artifacts that were made so far, and everything else is
as in some other file system, the base. Each step of a build that succeeds adds an artifact or
changes the base.

* `Desk`: a workspace with artifacts, beside a base;
* `Desk.add`: what adding an artifact leaves;
* `Desk.change`, `Desk.put`, `Desk.drop`: what changes of the base leave;
* `Desk.artifact_ends`, `Desk.artifact_read`: the path of an artifact leads to it;
* `Desk.clear`: without the workspace only the base is left.
-/

import CalcBuild.Proofs.Build.Tools
import CalcBuild.Proofs.Files.Beside

namespace CalcBuild

open Files FileSystem

/-- At a place there is a directory that holds files with contents, all of which can be read, and
nothing else; everything else is as in the base, where nothing is at that place. -/
structure Desk (base : FileSystem) (place : Place) (made : List (Bytes × Bytes)) (fs : FileSystem) :
    Prop where
  sound : fs.Sound
  beside : Beside place fs base
  own : fs.get? place = some (.directory Mode.ofDirectory)
  holds : ∀ leaf contents, made.lookup leaf = some contents →
    ∃ mode : Mode, mode.mayRead = true ∧ fs.get? (leaf :: place) = some (.file mode contents)
  free : ∀ leaf, made.lookup leaf = none → fs.get? (leaf :: place) = none

namespace Desk

variable {base base' fs fs' : FileSystem} {place : Place} {made : List (Bytes × Bytes)}

/-- A new directory is a desk without artifacts. -/
theorem ofNew {dir : Place} {name : Bytes} (sound : base.Sound) (free : base.get? (name :: dir) = none)
    (directory : base.isDirectoryAt dir = true) :
    Desk base (name :: dir) [] (base.put (name :: dir) (.directory Mode.ofDirectory)) := by
  have proper := List.cons_ne_nil name dir
  refine ⟨sound.put proper directory fun _ => rfl, ⟨sound, free, fun place outside => ?_⟩, ?_,
    fun leaf contents listed => ?_, fun leaf _ => ?_⟩
  · rw [get?_put _ _ _ proper, if_neg]
    rintro rfl
    exact outside (isWithin_self _)
  · rw [get?_put _ _ _ proper, if_pos rfl]
  · cases listed
  · rw [get?_put _ _ _ proper, if_neg (List.cons_ne_self _ _)]
    exact get?_within_free sound.closed free (isWithin_cons leaf (isWithin_self _))

/-- **Changes outside of the workspace** lead to another base. -/
theorem change (desk : Desk base place made fs) (sound : fs'.Sound) (beside : Beside place fs' base')
    (within : SameWithin place fs' fs) : Desk base' place made fs' where
  sound := sound
  beside := beside
  own := (within place (isWithin_self place)).trans desk.own
  holds := by
    intro leaf contents listed
    rw [within _ (isWithin_cons leaf (isWithin_self place))]
    exact desk.holds leaf contents listed
  free := by
    intro leaf unlisted
    rw [within _ (isWithin_cons leaf (isWithin_self place))]
    exact desk.free leaf unlisted

/-- **An artifact that is added** is held, and everything else is as it was. -/
theorem add (desk : Desk base place made fs) (sound : fs'.Sound) {leaf : Bytes} {mode : Mode}
    {contents : Bytes} (readable : mode.mayRead = true)
    (view : ∀ other, fs'.get? other
      = if other = leaf :: place then some (.file mode contents) else fs.get? other) :
    Desk base place ((leaf, contents) :: made) fs' where
  sound := sound
  beside := by
    refine ⟨desk.beside.sound, desk.beside.free, fun other outside => ?_⟩
    rw [view, if_neg, desk.beside.same other outside]
    rintro rfl
    exact outside (isWithin_cons leaf (isWithin_self _))
  own := by rw [view, if_neg (List.cons_ne_self _ _).symm, desk.own]
  holds := by
    intro other contents' listed
    rw [view]
    by_cases same : other = leaf
    · subst same
      rw [List.lookup_cons, beq_self_eq_true] at listed
      cases listed
      exact ⟨mode, readable, if_pos rfl⟩
    · rw [List.lookup_cons, beq_false_of_ne same] at listed
      obtain ⟨mode', readable', found⟩ := desk.holds other contents' listed
      exact ⟨mode', readable', (if_neg (by simp [same])).trans found⟩
  free := by
    intro other unlisted
    by_cases same : other = leaf
    · subst same
      rw [List.lookup_cons, beq_self_eq_true] at unlisted
      cases unlisted
    · rw [List.lookup_cons, beq_false_of_ne same] at unlisted
      rw [view, if_neg (by simp [same]), desk.free other unlisted]

/-- **A file that is put outside of the workspace** is put in the base. -/
theorem put (desk : Desk base place made fs) (sound : fs'.Sound) {dir : Place} {name : Bytes}
    {mode : Mode} {contents : Bytes} (directory : base.isDirectoryAt dir = true)
    (leaf : base.isDirectoryAt (name :: dir) = false)
    (outside : ¬ isWithin place (name :: dir) = true)
    (view : ∀ other, fs'.get? other
      = if other = name :: dir then some (.file mode contents) else fs.get? other) :
    Desk (base.put (name :: dir) (.file mode contents)) place made fs' := by
  have proper := List.cons_ne_nil name dir
  have inside {other : Place} (within : isWithin place other = true) : other ≠ name :: dir := by
    rintro rfl
    exact outside within
  refine desk.change sound ⟨?_, ?_, fun other without => ?_⟩ fun other within => ?_
  · exact desk.beside.sound.put proper directory fun other => by rw [leaf] at other; cases other
  · rw [get?_put _ _ _ proper, if_neg (inside (isWithin_self place)), desk.beside.free]
  · rw [view, get?_put _ _ _ proper, desk.beside.same other without]
  · rw [view, if_neg (inside within)]

/-- **A file that was put outside of the workspace and is dropped** leaves the base. -/
theorem drop {dir : Place} {name : Bytes} {entry : Entry}
    (desk : Desk (base.put (name :: dir) entry) place made fs) (sound : base.Sound)
    (free : base.get? (name :: dir) = none) (leaf : entry.isDirectory = false)
    (outside : ¬ isWithin place (name :: dir) = true) :
    Desk base place made (fs.drop (name :: dir)) := by
  have proper := List.cons_ne_nil name dir
  have inside {other : Place} (within : isWithin place other = true) : other ≠ name :: dir := by
    rintro rfl
    exact outside within
  have found : fs.get? (name :: dir) = some entry := by
    rw [desk.beside.same _ outside, get?_put _ _ _ proper, if_pos rfl]
  refine desk.change (desk.sound.drop proper fun below => ?_) ⟨sound, ?_, fun other without => ?_⟩
    fun other within => ?_
  · exact get?_below_leaf desk.sound.closed (isDirectoryAt_leaf found leaf)
      (isWithin_cons below (isWithin_self _)) (List.cons_ne_self _ _)
  · rw [← desk.beside.free, get?_put _ _ _ proper, if_neg (inside (isWithin_self place))]
  · rw [get?_drop _ _ proper]
    by_cases here : other = name :: dir
    · rw [if_pos here, here, free]
    · rw [if_neg here, desk.beside.same other without, get?_put _ _ _ proper, if_neg here]
  · rw [get?_drop _ _ proper, if_neg (inside within)]

section Paths

variable {cwd dir : Place} {name path : Bytes} {slashed : Bool}

/-- The path of an artifact denotes it. -/
theorem artifact_ends (desk : Desk base (name :: dir) made fs)
    (ends : fs.ending cwd path = .ok (.name dir name slashed)) (short : name.length ≤ longestName)
    (absolute : Path.isAbsolute path = true) {leaf : Bytes} (isLeaf : Path.IsLeaf leaf)
    (bytes : pathFault? (Path.join path leaf) = none) :
    fs.ending cwd (Path.join path leaf) = .ok (.name (name :: dir) leaf false) := by
  have directory : fs.isDirectoryAt (name :: dir) = true := isDirectoryAt_iff.mpr ⟨_, desk.own⟩
  refine (ending_join_iff isLeaf).mpr ⟨bytes, rfl, rfl, ?_, _, desk.own, by decide⟩
  have walks := walk_directory ends short directory
  rw [start_absolute absolute] at walks
  rw [start_absolute (Path.isAbsolute_join leaf absolute)]
  exact walks

/-- **An artifact can be read** by its path. -/
theorem artifact_read (desk : Desk base (name :: dir) made fs) {leaf contents : Bytes}
    (ends : fs.ending cwd (Path.join path leaf) = .ok (.name (name :: dir) leaf false))
    (short : leaf.length ≤ longestName) (listed : made.lookup leaf = some contents) :
    fs.read cwd (Path.join path leaf) = .ok contents ∧
      fs.pathExists cwd (Path.join path leaf) = true := by
  obtain ⟨mode, readable, found⟩ := desk.holds leaf contents listed
  have finds := @find_entry _ _ _ _ _ ends short _ found true (.inr nofun)
  unfold FileSystem.read pathExists status?
  rw [finds]
  simp [readable]

/-- **Without the workspace only the base is left.** -/
theorem clear (desk : Desk base (name :: dir) made fs)
    (ends : fs.ending cwd path = .ok (.name dir name slashed)) (short : name.length ≤ longestName)
    (allowed : fs.mayChange dir = true) :
    fs.removeAll cwd path = (fs.dropBelow (name :: dir), .ok ()) ∧
      ∀ place, (fs.dropBelow (name :: dir)).get? place = base.get? place := by
  have directory : fs.isDirectoryAt (name :: dir) = true := isDirectoryAt_iff.mpr ⟨_, desk.own⟩
  refine ⟨removeAll_eq desk.sound ends short directory (fun place mode within found => ?_) allowed,
    fun place => ?_⟩
  · by_cases own : place = name :: dir
    · rw [own, desk.own] at found
      cases found
      rfl
    · obtain ⟨leaf, below⟩ := isWithin_below within own
      cases listed : made.lookup leaf with
      | none =>
        rw [get?_within_free desk.sound.closed (desk.free leaf listed) below] at found
        cases found
      | some contents =>
        obtain ⟨mode', _, file⟩ := desk.holds leaf contents listed
        by_cases here : place = leaf :: name :: dir
        · rw [here, file] at found
          cases found
        · rw [get?_below_leaf desk.sound.closed (isDirectoryAt_leaf file rfl) below here] at found
          cases found
  · rw [get?_dropBelow fs place (List.cons_ne_nil name dir)]
    by_cases within : isWithin (name :: dir) place = true
    · rw [if_pos within, desk.beside.get?_within within]
    · rw [if_neg within, desk.beside.same place within]

end Paths

end Desk

end CalcBuild

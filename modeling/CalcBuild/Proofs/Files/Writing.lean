/-
**Changes of one entry.**

Writing a file, making a link or a directory, and setting a mode change at most one entry, and leave a
tree. Which entry that is, a lookup of the path tells beforehand.

* `ChangedAt`: nothing changed but what is at one place;
* `write_changed`, `symlink_changed`, `makeDirectory_changed`, `setMode_changed`: the operations.
-/

import CalcBuild.Proofs.Files.Effect

namespace CalcBuild.Files

/-- The place that a lookup ended at, whether or not anything is there. -/
def Spot.place : Spot → Place
  | .present place => place
  | .absent place => place

namespace FileSystem

variable {fs mid fs' : FileSystem} {cwd place : Place} {path : Bytes}

/-- Nothing changed but what is at one place. -/
structure ChangedAt (place : Place) (fs fs' : FileSystem) : Prop where
  sound : fs'.Sound
  elsewhere : ∀ other, other ≠ place → fs'.get? other = fs.get? other

namespace ChangedAt

theorem refl (sound : fs.Sound) : ChangedAt place fs fs := ⟨sound, fun _ _ => rfl⟩

theorem trans (earlier : ChangedAt place fs mid) (later : ChangedAt place mid fs') :
    ChangedAt place fs fs' :=
  ⟨later.sound, fun other differs =>
    (later.elsewhere other differs).trans (earlier.elsewhere other differs)⟩

/-- Binding a place of a directory to an entry. A directory stays one. -/
theorem put (sound : fs.Sound) {entry : Entry} (proper : place ≠ [])
    (parent : fs.isDirectoryAt place.tail = true)
    (fits : fs.isDirectoryAt place = true → entry.isDirectory = true) :
    ChangedAt place fs (fs.put place entry) :=
  ⟨sound.put proper parent fits, fun other differs => by
    rw [get?_put fs entry other proper, if_neg differs]⟩

/-- Binding a free place of a directory to an entry. -/
theorem put_free (sound : fs.Sound) (entry : Entry) (proper : place ≠ [])
    (parent : fs.isDirectoryAt place.tail = true) (free : fs.get? place = none) :
    ChangedAt place fs (fs.put place entry) := by
  refine put sound proper parent fun directory => ?_
  rw [isDirectoryAt_free free] at directory
  cases directory

/-- Replacing an entry that is below the root by one of its kind. -/
theorem put_listed (sound : fs.Sound) {old entry : Entry} (proper : place ≠ [])
    (found : fs.get? place = some old) (kind : old.isDirectory = entry.isDirectory) :
    ChangedAt place fs (fs.put place entry) := by
  have parent : fs.isDirectoryAt place.tail = true := by
    cases place with
    | nil => exact absurd rfl proper
    | cons name dir => exact sound.closed name dir (by rw [found]; rfl)
  refine put sound proper parent fun directory => ?_
  obtain ⟨mode, listed⟩ := isDirectoryAt_iff.mp directory
  rw [found] at listed
  cases listed
  exact kind.symm

end ChangedAt

theorem isDirectoryAt_of_mayChange (allowed : fs.mayChange place = true) :
    fs.isDirectoryAt place = true := by
  obtain ⟨mode, directory, _⟩ := mayChange_iff.mp allowed
  exact isDirectoryAt_iff.mpr ⟨mode, directory⟩

/-- A lookup that ends at a place without entry ends at a free name. -/
theorem walk_absent {follow : Bool} {links : Nat} {at_ : Place} {names : List Bytes}
    (walks : fs.walk follow links at_ names = .ok (.absent place)) :
    place ≠ [] ∧ fs.get? place = none := by
  induction links, at_, names using hop_induction fs follow with
  | done links at_ =>
    rw [walk_nil] at walks
    cases walks
  | stop links at_ name rest result stops =>
    rw [walk_cons, stops] at walks
    subst walks
    obtain ⟨_, _, ⟨same, free⟩ | ⟨other, _⟩⟩ := hop_stop_ok stops
    · cases same
      exact ⟨List.cons_ne_nil _ _, free⟩
    · cases other
  | go links at_ name rest links' at' names' goes ih =>
    rw [walk_cons, goes] at walks
    exact ih walks

theorem locate_absent (locates : fs.locate cwd true path = .ok (.absent place)) :
    place ≠ [] ∧ fs.get? place = none := by
  unfold locate at locates
  split at locates
  · cases locates
  · exact walk_absent locates

/-- An entry that is no directory is listed, and it is not the root. -/
theorem get?_of_entryAt {entry : Entry} (found : fs.entryAt place = entry)
    (plain : entry.isDirectory = false) : place ≠ [] ∧ fs.get? place = some entry := by
  unfold entryAt at found
  cases listed : fs.get? place with
  | none =>
    rw [listed] at found
    subst found
    cases plain
  | some other =>
    rw [listed] at found
    refine ⟨?_, congrArg some found⟩
    rintro rfl
    cases listed
    subst found
    cases plain

/-- A write goes to the place that a lookup of its path ends at. -/
theorem openForWriting_changed (sound : fs.Sound) {keep : Bool}
    (opens : fs.openForWriting cwd keep path = .ok (place, fs')) :
    ChangedAt place fs fs' ∧ ∃ spot, fs.locate cwd true path = .ok spot ∧ spot.place = place := by
  unfold openForWriting at opens
  split at opens
  · cases opens
  · cases opens
  · cases locates : fs.locate cwd true path with
    | error fault => simp [locates] at opens
    | ok spot =>
      cases spot with
      | absent free =>
        simp only [locates, addAt] at opens
        split at opens
        · rename_i allowed
          cases opens
          obtain ⟨proper, unlisted⟩ := locate_absent locates
          exact ⟨.put_free sound _ proper (isDirectoryAt_of_mayChange allowed) unlisted,
            _, rfl, rfl⟩
        · cases opens
      | present found =>
        simp only [locates] at opens
        split at opens
        · rename_i mode contents here
          split at opens
          · obtain ⟨proper, listed⟩ := get?_of_entryAt here rfl
            cases keep with
            | true =>
              cases opens
              exact ⟨.refl sound, _, rfl, rfl⟩
            | false =>
              cases opens
              exact ⟨.put_listed sound proper listed rfl, _, rfl, rfl⟩
          · cases opens
        · cases opens
          exact ⟨.refl sound, _, rfl, rfl⟩
        · cases opens
        · cases opens

theorem appendAt_changed (sound : fs.Sound) (place : Place) (bytes : Bytes) :
    ChangedAt place fs (fs.appendAt place bytes) := by
  unfold appendAt
  split
  · rename_i mode contents found
    refine .put_listed sound ?_ found rfl
    rintro rfl
    cases found
  · exact .refl sound

/-- **Writing changes the entry that a lookup of the path ends at.** -/
theorem write_changed (sound : fs.Sound) {contents : Bytes}
    (writes : fs.write cwd path contents = .ok fs') :
    ∃ spot, fs.locate cwd true path = .ok spot ∧ ChangedAt spot.place fs fs' := by
  unfold write at writes
  cases opens : fs.openForWriting cwd false path with
  | error fault =>
    rw [opens] at writes
    cases writes
  | ok opened =>
    obtain ⟨place, mid⟩ := opened
    rw [opens] at writes
    cases writes
    obtain ⟨changed, spot, locates, rfl⟩ := openForWriting_changed sound opens
    exact ⟨spot, locates, changed.trans (appendAt_changed changed.sound _ _)⟩

/-- **Making a directory changes what the path denotes.** -/
theorem makeDirectory_changed (sound : fs.Sound) (makes : fs.makeDirectory cwd path = .ok fs') :
    ∃ place, fs.placeOf cwd path = some place ∧ ChangedAt place fs fs' := by
  obtain ⟨dir, name, _, ends, _, free, _, rfl⟩ := makeDirectory_eq_ok_iff.mp makes
  exact ⟨name :: dir, placeOf_of_ending ends,
    .put_free sound _ (List.cons_ne_nil _ _) (ending_directory ends) free⟩

/-- **Making a link changes what the path denotes**, and nothing at the target. -/
theorem symlink_changed (sound : fs.Sound) {target : Bytes}
    (links : fs.symlink cwd target path = .ok fs') :
    ∃ place, fs.placeOf cwd path = some place ∧ ChangedAt place fs fs' := by
  unfold symlink at links
  split at links
  · cases links
  · split at links
    · cases links
    · cases ends : fs.ending cwd path with
      | error fault => simp [ends] at links
      | ok ending =>
        cases ending with
        | name dir name slashed =>
          cases free : fs.freeName dir name with
          | error fault => simp [ends, free] at links
          | ok place =>
            cases slashed with
            | true => simp [ends, free] at links
            | false =>
              simp only [ends, free, Bool.false_eq_true, if_false] at links
              have adds : (fs.freeName dir name).bind (fun place => fs.addAt place (.link target))
                  = .ok fs' := by
                rw [free]
                exact links
              obtain ⟨_, unlisted, _, rfl⟩ := freeName_addAt.mp adds
              exact ⟨name :: dir, placeOf_of_ending ends,
                .put_free sound _ (List.cons_ne_nil _ _) (ending_directory ends) unlisted⟩
        | _ => simp [ends] at links

/-- What a path leads to is the entry at the place that it leads to. -/
theorem entryAt_of_find {follow : Bool} {entry : Entry}
    (finds : fs.find cwd follow path = .ok (place, entry)) : fs.entryAt place = entry := by
  unfold find at finds
  split at finds
  · cases finds
  · cases finds
  · obtain ⟨rfl, same⟩ := Prod.mk.inj (Except.ok.inj finds)
    exact same

/-- **Setting a mode changes the entry that the path leads to**, below the root. -/
theorem setMode_changed (sound : fs.Sound) {mode : Mode} (sets : fs.setMode cwd mode path = .ok fs') :
    ∃ place entry, fs.find cwd true path = .ok (place, entry) ∧
      (place ≠ [] → ChangedAt place fs fs') := by
  unfold setMode at sets
  split at sets
  · cases sets
  · rename_i place mode' contents finds
    cases sets
    refine ⟨place, _, finds, fun proper => ?_⟩
    exact .put_listed sound proper (get?_of_entryAt (entryAt_of_find finds) rfl).2 rfl
  · rename_i place mode' finds
    cases sets
    refine ⟨place, _, finds, fun proper => ?_⟩
    split
    · rename_i directory
      obtain ⟨_, listed⟩ := isDirectoryAt_iff.mp directory
      exact .put_listed sound proper listed rfl
    · exact .refl sound
  · rename_i found _ _ finds
    cases sets
    exact ⟨found.1, found.2, finds, fun _ => .refl sound⟩

end FileSystem

end CalcBuild.Files

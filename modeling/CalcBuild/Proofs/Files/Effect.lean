/-
**What operations on files do.**

An operation that succeeds puts, drops or moves what a path denotes, and the directory allowed it.

* `makeDirectory_eq_ok_iff`, `createNew_eq_ok_iff`, `unlink_eq_ok_iff`: one entry is made or removed;
* `Touched`: a change of nothing but what a path denotes, which is no directory;
* `rename_leaf_iff`: an entry that is no directory is moved;
* `rename_sound`: a rename of anything leaves a tree;
* `removeAll_eq`: a directory goes with everything in it.
-/

import CalcBuild.Proofs.Files.Ending

namespace CalcBuild.Files.FileSystem

/-! ### One entry -/

/-- Making an entry under a free name of a directory that may be changed. -/
theorem freeName_addAt {fs fs' : FileSystem} {dir : Place} {name : Bytes} {entry : Entry} :
    (fs.freeName dir name).bind (fun place => fs.addAt place entry) = .ok fs' ↔
      name.length ≤ longestName ∧ fs.get? (name :: dir) = none ∧ fs.mayChange dir = true ∧
      fs' = fs.put (name :: dir) entry := by
  unfold freeName addAt
  by_cases long : longestName < name.length
  · have exceeds : ¬ name.length ≤ longestName := by omega
    simp [long, exceeds, Except.bind]
  · by_cases taken : (fs.get? (name :: dir)).isSome = true
    · have listed : fs.get? (name :: dir) ≠ none := Option.isSome_iff_ne_none.mp taken
      simp [long, taken, listed, Except.bind]
    · have free : fs.get? (name :: dir) = none := by simpa using taken
      by_cases allowed : fs.mayChange dir = true
      · simp [long, free, allowed, Except.bind, eq_comm]
        omega
      · simp [long, free, allowed, Except.bind]

/-- Where a directory can be made, and what there is afterwards. -/
theorem makeDirectory_eq_ok_iff {fs fs' : FileSystem} {cwd : Place} {path : Bytes} :
    fs.makeDirectory cwd path = .ok fs' ↔
      ∃ dir name slashed, fs.ending cwd path = .ok (.name dir name slashed) ∧
        name.length ≤ longestName ∧ fs.get? (name :: dir) = none ∧ fs.mayChange dir = true ∧
        fs' = fs.put (name :: dir) (.directory Mode.ofDirectory) := by
  unfold makeDirectory
  cases ends : fs.ending cwd path with
  | error fault => simp
  | ok ending =>
    cases ending with
    | name dir name slashed =>
      simp only [freeName_addAt]
      constructor
      · intro made
        exact ⟨dir, name, slashed, rfl, made⟩
      · rintro ⟨_, _, _, same, made⟩
        cases same
        exact made
    | _ => simp

/-- Where an empty file can be made, and what there is afterwards. -/
theorem createNew_eq_ok_iff {fs fs' : FileSystem} {cwd : Place} {mode : Mode} {path : Bytes} :
    fs.createNew cwd mode path = .ok fs' ↔
      ∃ dir name, fs.ending cwd path = .ok (.name dir name false) ∧
        name.length ≤ longestName ∧ fs.get? (name :: dir) = none ∧ fs.mayChange dir = true ∧
        fs' = fs.put (name :: dir) (.file mode []) := by
  unfold createNew
  cases ends : fs.ending cwd path with
  | error fault => simp
  | ok ending =>
    cases ending with
    | name dir name slashed =>
      cases slashed with
      | true => simp
      | false =>
        simp only [Bool.false_eq_true, if_false, freeName_addAt]
        constructor
        · intro made
          exact ⟨dir, name, rfl, made⟩
        · rintro ⟨_, _, same, made⟩
          cases same
          exact made
    | _ => simp

/-- Which entries can be unlinked, and what there is afterwards. -/
theorem unlink_eq_ok_iff {fs fs' : FileSystem} {cwd : Place} {path : Bytes} :
    fs.unlink cwd path = .ok fs' ↔
      ∃ dir name entry, fs.ending cwd path = .ok (.name dir name false) ∧
        name.length ≤ longestName ∧ fs.get? (name :: dir) = some entry ∧
        entry.isDirectory = false ∧ fs.mayChange dir = true ∧ fs' = fs.drop (name :: dir) := by
  unfold unlink removeAt
  cases ends : fs.ending cwd path with
  | error fault => simp
  | ok ending =>
    cases ending with
    | name dir name slashed =>
      by_cases long : longestName < name.length
      · have exceeds : ¬ name.length ≤ longestName := by omega
        simp [long, exceeds]
      · cases found : fs.get? (name :: dir) with
        | none =>
          simp only [long, if_false, found]
          constructor
          · intro removed
            cases removed
          · rintro ⟨_, _, _, same, _, listed, _⟩
            cases same
            rw [found] at listed
            cases listed
        | some entry =>
          have short : name.length ≤ longestName := by omega
          cases entry with
          | directory mode => simp [long, found, Entry.isDirectory]
          | _ =>
            by_cases allowed : fs.mayChange dir = true <;> cases slashed <;>
              simp [long, found, allowed, short, Entry.isDirectory, eq_comm (a := fs')]
    | _ => simp

/-! ### Changes of what one path denotes -/

/-- Nothing changed but what a path denotes, and that neither was nor is a directory. -/
structure Touched (cwd : Place) (path : Bytes) (fs fs' : FileSystem) : Prop where
  sound : fs'.Sound
  frame : ∀ place, fs'.get? place = fs.get? place ∨
    fs.placeOf cwd path = some place ∧ fs.isDirectoryAt place = false ∧
      fs'.isDirectoryAt place = false

namespace Touched

variable {cwd : Place} {path : Bytes} {fs fs' : FileSystem} {place : Place}

theorem refl (sound : fs.Sound) : Touched cwd path fs fs := ⟨sound, fun _ => .inl rfl⟩

theorem elsewhere (touched : Touched cwd path fs fs') (denotes : fs.placeOf cwd path = some place)
    {other : Place} (differs : other ≠ place) : fs'.get? other = fs.get? other := by
  refine (touched.frame other).resolve_right fun changed => differs ?_
  have same := changed.1
  rw [denotes] at same
  exact (Option.some.inj same).symm

theorem leaf (touched : Touched cwd path fs fs') (before : fs.isDirectoryAt place = false) :
    fs'.isDirectoryAt place = false := by
  rcases touched.frame place with same | ⟨_, _, after⟩
  · unfold isDirectoryAt directoryMode? at before ⊢
    rwa [same]
  · exact after

theorem directory_iff (touched : Touched cwd path fs fs') {mode : Mode} :
    fs'.get? place = some (.directory mode) ↔ fs.get? place = some (.directory mode) := by
  rcases touched.frame place with same | ⟨_, before, after⟩
  · rw [same]
  · constructor
    · intro directory
      rw [isDirectoryAt_iff.mpr ⟨mode, directory⟩] at after
      cases after
    · intro directory
      rw [isDirectoryAt_iff.mpr ⟨mode, directory⟩] at before
      cases before

end Touched

theorem isDirectoryAt_free {fs : FileSystem} {place : Place} (free : fs.get? place = none) :
    fs.isDirectoryAt place = false := by
  unfold isDirectoryAt directoryMode?
  rw [free]
  rfl

theorem createNew_touched {fs fs' : FileSystem} {cwd : Place} {mode : Mode} {path : Bytes}
    (sound : fs.Sound) (makes : fs.createNew cwd mode path = .ok fs') :
    Touched cwd path fs fs' := by
  obtain ⟨dir, name, ends, _, free, _, rfl⟩ := createNew_eq_ok_iff.mp makes
  have proper := List.cons_ne_nil name dir
  have unlisted := isDirectoryAt_free free
  refine ⟨sound.put proper (ending_directory ends) fun directory => ?_, fun place => ?_⟩
  · rw [unlisted] at directory
    cases directory
  · by_cases same : place = name :: dir
    · subst same
      have made : (fs.put (name :: dir) (.file mode [])).get? (name :: dir)
          = some (.file mode []) := by
        rw [get?_put _ _ _ proper, if_pos rfl]
      exact .inr ⟨by unfold placeOf; rw [ends], unlisted, isDirectoryAt_leaf made rfl⟩
    · exact .inl (by rw [get?_put _ _ _ proper, if_neg same])

theorem unlink_touched {fs fs' : FileSystem} {cwd : Place} {path : Bytes} (sound : fs.Sound)
    (unlinks : fs.unlink cwd path = .ok fs') : Touched cwd path fs fs' := by
  obtain ⟨dir, name, entry, ends, _, found, plain, _, rfl⟩ := unlink_eq_ok_iff.mp unlinks
  have proper := List.cons_ne_nil name dir
  have leaf := isDirectoryAt_leaf found plain
  refine ⟨sound.drop proper fun below => get?_below_leaf sound.closed leaf
    (isWithin_cons below (isWithin_self _)) (List.cons_ne_self _ _), fun place => ?_⟩
  by_cases same : place = name :: dir
  · subst same
    refine .inr ⟨by unfold placeOf; rw [ends], leaf, isDirectoryAt_free ?_⟩
    rw [get?_drop _ _ proper, if_pos rfl]
  · exact .inl (by rw [get?_drop _ _ proper, if_neg same])

/-! ### Renames -/

/-- What a rename finds wrong with moving an entry that is no directory. -/
theorem renameFault?_leaf {fs : FileSystem} (closed : fs.Closed) {source target : Place}
    {entry : Entry} (found : fs.get? source = some entry) (leaf : entry.isDirectory = false)
    (proper : source ≠ []) (proper' : target ≠ []) (parent : fs.isDirectoryAt target.tail = true) :
    fs.renameFault? source target entry = none ↔
      fs.mayChange source.tail = true ∧ fs.mayChange target.tail = true ∧
        fs.isDirectoryAt target = false := by
  have apart : isWithin source target.tail = false :=
    Bool.eq_false_iff.mpr (not_isWithin_leaf closed (isDirectoryAt_leaf found leaf) parent)
  have turns : mayTurn source target entry = true := by
    cases entry with
    | directory mode => cases leaf
    | _ => rfl
  unfold renameFault?
  rw [apart, if_neg Bool.false_ne_true]
  by_cases inside : isWithin target source.tail = true
  · have directory : fs.isDirectoryAt target = true := by
      cases source with
      | nil => exact absurd rfl proper
      | cons name dir =>
        have differs : name :: dir ≠ target := by
          rintro rfl
          exact not_isWithin_tail name dir inside
        have listed : (fs.get? (name :: dir)).isSome := by
          rw [found]
          rfl
        exact isDirectoryAt_above closed (isWithin_cons name inside) differs listed
    simp [inside, directory]
  · rw [if_neg inside]
    have replaces : fs.replaceFault? target entry = none ↔ fs.isDirectoryAt target = false := by
      unfold replaceFault? isDirectoryAt directoryMode?
      cases listed : fs.get? target with
      | none => simp
      | some other => cases other <;> cases entry <;> simp_all [Entry.isDirectory]
    by_cases allowed : (fs.mayChange source.tail && fs.mayChange target.tail) = true
    · have both := Bool.and_eq_true_iff.mp allowed
      rw [← replaces]
      cases fs.replaceFault? target entry with
      | none => simp [both, turns]
      | some fault => cases fault <;> simp [allowed, turns]
    · have refused : ¬ (fs.mayChange source.tail = true ∧ fs.mayChange target.tail = true) := by
        rwa [Bool.and_eq_true_iff] at allowed
      simp only [allowed, Bool.not_false, if_true]
      constructor
      · intro none_wrong
        cases none_wrong
      · rintro ⟨sourceAllows, targetAllows, _⟩
        exact absurd ⟨sourceAllows, targetAllows⟩ refused

/-- **Which renames of an entry that is no directory succeed.** -/
theorem rename_leaf_iff {fs fs' : FileSystem} (closed : fs.Closed) {cwd : Place}
    {source target : Bytes} {dir : Place} {name : Bytes} {entry : Entry}
    (ends : fs.ending cwd source = .ok (.name dir name false)) (short : name.length ≤ longestName)
    (found : fs.get? (name :: dir) = some entry) (leaf : entry.isDirectory = false) :
    fs.rename cwd source target = .ok fs' ↔
      ∃ dir' name', fs.ending cwd target = .ok (.name dir' name' false) ∧
        name'.length ≤ longestName ∧
        (name :: dir = name' :: dir' ∧ fs' = fs ∨
          name :: dir ≠ name' :: dir' ∧ fs.mayChange dir = true ∧ fs.mayChange dir' = true ∧
            fs.isDirectoryAt (name' :: dir') = false ∧ fs' = fs.move (name :: dir) (name' :: dir')) := by
  have long : ¬ longestName < name.length := by omega
  unfold rename
  rw [ends]
  cases ends' : fs.ending cwd target with
  | error fault => simp
  | ok ending =>
    cases ending with
    | name dir' name' slashed' =>
      simp only [long, if_false, found, leaf, Bool.not_false, Bool.true_and, Bool.false_or]
      have proper : name :: dir ≠ [] := List.cons_ne_nil _ _
      have wrong := renameFault?_leaf closed found leaf proper (List.cons_ne_nil name' dir')
        (ending_directory ends')
      rw [List.tail_cons, List.tail_cons] at wrong
      constructor
      · intro moved
        split at moved
        · cases moved
        · rename_i short'
          cases slashed' with
          | true => simp at moved
          | false =>
            refine ⟨dir', name', rfl, by omega, ?_⟩
            rw [if_neg Bool.false_ne_true] at moved
            by_cases same : name :: dir = name' :: dir'
            · rw [if_pos same] at moved
              exact .inl ⟨same, (Except.ok.inj moved).symm⟩
            · rw [if_neg same] at moved
              cases fault : fs.renameFault? (name :: dir) (name' :: dir') entry with
              | some fault' => simp [fault] at moved
              | none =>
                obtain ⟨sourceAllows, targetAllows, leaf'⟩ := wrong.mp fault
                simp only [fault] at moved
                exact .inr ⟨same, sourceAllows, targetAllows, leaf', (Except.ok.inj moved).symm⟩
      · rintro ⟨_, _, ends'', short', moved⟩
        cases ends''
        rw [if_neg (by omega), if_neg Bool.false_ne_true]
        rcases moved with ⟨same, rfl⟩ | ⟨differs, sourceAllows, targetAllows, leaf', rfl⟩
        · rw [if_pos same]
        · rw [if_neg differs, wrong.mpr ⟨sourceAllows, targetAllows, leaf'⟩]
    | _ => simp

/-- **What a rename that succeeds moves**: what is at one place to another one that does not lie within it,
unless both paths denote one place. -/
theorem rename_cases {fs fs' : FileSystem} {cwd : Place} {source target : Bytes}
    (renames : fs.rename cwd source target = .ok fs') :
    ∃ dir name slashed dir' name' slashed',
      fs.ending cwd source = .ok (.name dir name slashed) ∧
      fs.ending cwd target = .ok (.name dir' name' slashed') ∧
      (name :: dir = name' :: dir' ∧ fs' = fs ∨ ∃ moving, fs.get? (name :: dir) = some moving ∧
        fs.renameFault? (name :: dir) (name' :: dir') moving = none ∧
        fs' = fs.move (name :: dir) (name' :: dir')) := by
  unfold rename at renames
  split at renames
  · cases renames
  · cases renames
  · rename_i dir name slashed dir' name' slashed' ends ends'
    refine ⟨dir, name, slashed, dir', name', slashed', ends, ends', ?_⟩
    split at renames
    · cases renames
    · cases found : fs.get? (name :: dir) with
      | none => simp [found] at renames
      | some moving =>
        simp only [found] at renames
        split at renames
        · cases renames
        · split at renames
          · cases renames
          · split at renames
            · rename_i same
              exact .inl ⟨same, (Except.ok.inj renames).symm⟩
            · cases fault : fs.renameFault? (name :: dir) (name' :: dir') moving with
              | some fault' => simp [fault] at renames
              | none =>
                simp only [fault] at renames
                exact .inr ⟨moving, rfl, fault, (Except.ok.inj renames).symm⟩
  · cases renames

/-- A rename keeps a table sound, whatever it moves. -/
theorem rename_sound {fs fs' : FileSystem} {cwd : Place} {source target : Bytes} (sound : fs.Sound)
    (renames : fs.rename cwd source target = .ok fs') : fs'.Sound := by
  obtain ⟨dir, name, _, dir', name', _, _, ends', ⟨_, rfl⟩ | ⟨moving, _, fault, rfl⟩⟩ :=
    rename_cases renames
  · exact sound
  · refine sound.move (List.cons_ne_nil name dir) (List.cons_ne_nil name' dir') ?_
      (ending_directory ends')
    intro within
    unfold renameFault? at fault
    rw [if_pos within] at fault
    cases fault

/-! ### A directory with everything in it -/

/-- **A directory all of whose directories were made without asking for a mode is removed with
everything in it.** -/
theorem removeAll_eq {fs : FileSystem} (sound : fs.Sound) {cwd : Place} {path : Bytes} {dir : Place}
    {name : Bytes} {slashed : Bool} (ends : fs.ending cwd path = .ok (.name dir name slashed))
    (short : name.length ≤ longestName) (directory : fs.isDirectoryAt (name :: dir) = true)
    (modes : ∀ place mode, isWithin (name :: dir) place = true →
      fs.get? place = some (.directory mode) → mode = Mode.ofDirectory)
    (allowed : fs.mayChange dir = true) :
    fs.removeAll cwd path = (fs.dropBelow (name :: dir), .ok ()) := by
  obtain ⟨mode, found⟩ := isDirectoryAt_iff.mp directory
  have clears : fs.mayClear (name :: dir) = true := by
    unfold mayClear
    rw [List.all_eq_true]
    rintro ⟨place, entry⟩ listed
    have shown := (sound.mem_table_iff.mp listed).2
    cases entry with
    | directory mode =>
      by_cases within : isWithin (name :: dir) place = true
      · have standard := modes place mode within shown
        have allows : Mode.ofDirectory.mayRead = true ∧ Mode.ofDirectory.mayWrite = true ∧
            Mode.ofDirectory.mayEnter = true := by decide
        simp [within, standard, mayEmpty, allows]
      · simp [within]
    | _ => rfl
  unfold removeAll
  rw [find_directory ends short found false]
  simp [clears, allowed]

end CalcBuild.Files.FileSystem

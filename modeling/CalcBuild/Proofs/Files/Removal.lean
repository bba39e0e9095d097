/-
**What is gone after a removal.**

Removing a directory with everything in it may come to a halt halfway. However far it comes, it removes
nothing that is not at or below the place that it starts at, and what is left is a tree.

* `Shrunk`: nothing changed but at and below a place, where entries are gone;
* `clearEach`, `clear_shrunk`: entry by entry;
* `removeAll_shrunk`: what is left after a removal, complete or not;
* `removeAll_complete`: what is left after a complete one.
-/

import CalcBuild.Proofs.Files.Effect

namespace CalcBuild.Files.FileSystem

/-- Nothing changed but at and below a place, where entries are gone. -/
structure Shrunk (place : Place) (fs fs' : FileSystem) : Prop where
  sound : fs'.Sound
  frame : ∀ other, fs'.get? other = fs.get? other ∨
    isWithin place other = true ∧ fs'.get? other = none

namespace Shrunk

variable {place : Place} {fs mid fs' : FileSystem}

theorem refl (sound : fs.Sound) : Shrunk place fs fs := ⟨sound, fun _ => .inl rfl⟩

/-- What was free stays free. -/
theorem free (shrunk : Shrunk place fs fs') {other : Place} (before : fs.get? other = none) :
    fs'.get? other = none := by
  rcases shrunk.frame other with same | ⟨_, gone⟩
  · rw [same, before]
  · exact gone

theorem elsewhere (shrunk : Shrunk place fs fs') {other : Place}
    (outside : ¬ isWithin place other = true) : fs'.get? other = fs.get? other :=
  (shrunk.frame other).resolve_right fun ⟨within, _⟩ => outside within

theorem trans {inner : Place} (earlier : Shrunk place fs mid) (later : Shrunk inner mid fs')
    (within : isWithin place inner = true) : Shrunk place fs fs' := by
  refine ⟨later.sound, fun other => ?_⟩
  rcases later.frame other with same | ⟨below, gone⟩
  · rw [same]
    exact earlier.frame other
  · exact .inr ⟨isWithin_trans within below, gone⟩

theorem dropBelow (sound : fs.Sound) : Shrunk place fs (fs.dropBelow place) := by
  by_cases root : place = []
  · -- Below the root is everything that is listed.
    have nothing : fs.dropBelow place = empty := by
      simp [root, FileSystem.dropBelow, isWithin, empty]
    rw [nothing]
    refine ⟨sound_empty, fun other => ?_⟩
    cases other with
    | nil => exact .inl rfl
    | cons name dir => exact .inr ⟨isWithin_iff.mpr (root ▸ List.nil_suffix), rfl⟩
  · refine ⟨sound.dropBelow root, fun other => ?_⟩
    rw [get?_dropBelow fs other root]
    by_cases within : isWithin place other = true
    · exact .inr ⟨within, if_pos within⟩
    · exact .inl (if_neg within)

end Shrunk

/-- **Removing an entry below which there is nothing.** The root stays. -/
theorem removeAt_shrunk {fs fs' : FileSystem} {place : Place} (sound : fs.Sound)
    (bare : ∀ name, fs.get? (name :: place) = none) (removes : fs.removeAt place = .ok fs') :
    Shrunk place fs fs' ∧ (place ≠ [] → fs'.get? place = none) := by
  unfold removeAt at removes
  split at removes
  · cases removes
    by_cases root : place = []
    · subst root
      have same : fs.drop [] = fs := by
        unfold drop
        congr 1
        refine List.filter_eq_self.mpr fun row listed => bne_iff_ne.mpr fun bottom => ?_
        exact sound.rootUnlisted (bottom ▸ List.mem_map_of_mem (f := Prod.fst) listed)
      rw [same]
      exact ⟨.refl sound, fun proper => absurd rfl proper⟩
    · refine ⟨⟨sound.drop root bare, fun other => ?_⟩, fun _ => ?_⟩
      · rw [get?_drop fs other root]
        by_cases here : other = place
        · exact .inr ⟨here ▸ isWithin_self other, if_pos here⟩
        · exact .inl (if_neg here)
      · rw [get?_drop fs place root, if_pos rfl]
  · cases removes

/-- Below an entry that is no directory there is nothing. -/
theorem bare_leaf {fs : FileSystem} (closed : fs.Closed) {place : Place}
    (leaf : fs.isDirectoryAt place = false) (name : Bytes) : fs.get? (name :: place) = none :=
  get?_below_leaf closed leaf (isWithin_cons name (isWithin_self place)) (List.cons_ne_self _ _)

theorem mem_namesIn {fs : FileSystem} (sound : fs.Sound) {place : Place} {name : Bytes}
    (listed : fs.get? (name :: place) ≠ none) : name ∈ fs.namesIn place := by
  obtain ⟨entry, found⟩ := Option.ne_none_iff_exists'.mp listed
  have row := sound.mem_table_iff.mpr ⟨List.cons_ne_nil name place, found⟩
  exact List.mem_filterMap.mpr ⟨_, row, if_pos rfl⟩

/-! ### Entry by entry -/

/-- Clears the entries of a directory one after the other, as far as that comes. -/
def clearEach (depth : Nat) (place : Place) (mode : Mode) (names : List Bytes)
    (state : FileSystem × Except Fault Unit) : FileSystem × Except Fault Unit :=
  names.foldl (fun state name =>
    match state with
    | (fs, .ok ()) =>
      if mode.mayEnter then fs.clear depth (name :: place) else (fs, .error .permissionDenied)
    | failed => failed) state

/-- Clears what is in a directory, as far as that comes; in anything else there is nothing. -/
def clearInside (fs : FileSystem) (depth : Nat) (place : Place) : FileSystem × Except Fault Unit :=
  match fs.get? place with
  | some (.directory mode) =>
    if !mode.mayRead then (fs, .error .permissionDenied)
    else clearEach depth place mode (fs.namesIn place).reverse (fs, .ok ())
  | _ => (fs, .ok ())

theorem clear_succ (fs : FileSystem) (depth : Nat) (place : Place) :
    fs.clear (depth + 1) place =
      match fs.clearInside depth place with
      | (partly, .error fault) => (partly, .error fault)
      | (empty, .ok ()) =>
        match empty.removeAt place with
        | .ok removed => (removed, .ok ())
        | .error fault => (empty, .error fault) := by
  rw [clear]
  rfl

/-- A clearing that comes to an end leaves nothing at the place, unless that is the root. -/
def Clears (depth : Nat) : Prop :=
  ∀ (fs : FileSystem) (place : Place), fs.Sound →
    Shrunk place fs (fs.clear depth place).1 ∧
      ((fs.clear depth place).2 = .ok () → place ≠ [] → (fs.clear depth place).1.get? place = none)

theorem clearEach_error (depth : Nat) (place : Place) (mode : Mode) (names : List Bytes)
    (fs : FileSystem) (fault : Fault) :
    clearEach depth place mode names (fs, .error fault) = (fs, .error fault) := by
  induction names with
  | nil => rfl
  | cons name names ih => exact ih

theorem clearEach_shrunk {depth : Nat} (clears : Clears depth) (place : Place) (mode : Mode)
    (names : List Bytes) {fs : FileSystem} (sound : fs.Sound) :
    Shrunk place fs (clearEach depth place mode names (fs, .ok ())).1 ∧
      ((clearEach depth place mode names (fs, .ok ())).2 = .ok () → ∀ name ∈ names,
        (clearEach depth place mode names (fs, .ok ())).1.get? (name :: place) = none) := by
  induction names generalizing fs with
  | nil => exact ⟨.refl sound, fun _ _ member => nomatch member⟩
  | cons name names ih =>
    have steps : clearEach depth place mode (name :: names) (fs, .ok ())
        = clearEach depth place mode names
          (if mode.mayEnter then fs.clear depth (name :: place)
            else (fs, .error .permissionDenied)) := rfl
    rw [steps]
    split
    · obtain ⟨shrunk, gone⟩ := clears fs (name :: place) sound
      have within := isWithin_cons name (isWithin_self place)
      generalize fs.clear depth (name :: place) = cleared at shrunk gone
      obtain ⟨partly, result⟩ := cleared
      have first : Shrunk place fs partly := (Shrunk.refl sound).trans shrunk within
      cases result with
      | error fault =>
        rw [clearEach_error]
        exact ⟨first, fun ends => nomatch ends⟩
      | ok done =>
        obtain ⟨rest, others⟩ := ih shrunk.sound
        refine ⟨first.trans rest (isWithin_self place), fun ends other member => ?_⟩
        rcases List.mem_cons.mp member with rfl | later
        · exact rest.free (gone rfl (List.cons_ne_nil _ _))
        · exact others ends other later
    · rw [clearEach_error]
      exact ⟨.refl sound, fun ends => nomatch ends⟩

theorem clearInside_shrunk {depth : Nat} (clears : Clears depth) (place : Place) {fs : FileSystem}
    (sound : fs.Sound) :
    Shrunk place fs (fs.clearInside depth place).1 ∧
      ((fs.clearInside depth place).2 = .ok () →
        ∀ name, (fs.clearInside depth place).1.get? (name :: place) = none) := by
  have bare (leaf : fs.isDirectoryAt place = false) :
      Shrunk place fs fs ∧ ((Except.ok () : Except Fault Unit) = .ok () →
        ∀ name, fs.get? (name :: place) = none) :=
    ⟨.refl sound, fun _ => bare_leaf sound.closed leaf⟩
  unfold clearInside
  cases found : fs.get? place with
  | none => exact bare (isDirectoryAt_free found)
  | some entry =>
    cases entry with
    | directory mode =>
      dsimp only
      split
      · exact ⟨.refl sound, fun ends => nomatch ends⟩
      · obtain ⟨shrunk, gone⟩ :=
          clearEach_shrunk clears place mode (fs.namesIn place).reverse sound
        refine ⟨shrunk, fun ends name => ?_⟩
        by_cases listed : fs.get? (name :: place) = none
        · exact shrunk.free listed
        · exact gone ends name (List.mem_reverse.mpr (mem_namesIn sound listed))
    | _ => exact bare (isDirectoryAt_leaf found rfl)

/-- **Clearing a place**, completely or not, removes nothing elsewhere. -/
theorem clear_shrunk (depth : Nat) : Clears depth := by
  induction depth with
  | zero => exact fun fs place sound => ⟨.refl sound, fun ends => nomatch ends⟩
  | succ depth ih =>
    intro fs place sound
    rw [clear_succ]
    obtain ⟨shrunk, bare⟩ := clearInside_shrunk ih place sound
    generalize fs.clearInside depth place = inside at shrunk bare
    obtain ⟨partly, result⟩ := inside
    cases result with
    | error fault => exact ⟨shrunk, fun ends => nomatch ends⟩
    | ok done =>
      dsimp only
      cases removes : partly.removeAt place with
      | error fault => exact ⟨shrunk, fun ends => nomatch ends⟩
      | ok removed =>
        obtain ⟨last, gone⟩ := removeAt_shrunk shrunk.sound (bare rfl) removes
        exact ⟨shrunk.trans last (isWithin_self place), fun _ => gone⟩

/-! ### A directory with everything in it -/

/-- A path that leads to a link leads to what is no directory. -/
theorem leaf_of_find {fs : FileSystem} {cwd : Place} {follow : Bool} {path : Bytes} {place : Place}
    {target : Bytes} (finds : fs.find cwd follow path = .ok (place, .link target)) :
    fs.isDirectoryAt place = false := by
  have entry : fs.entryAt place = .link target := by
    unfold find at finds
    split at finds
    · cases finds
    · cases finds
    · obtain ⟨rfl, same⟩ := Prod.mk.inj (Except.ok.inj finds)
      exact same
  unfold entryAt at entry
  cases found : fs.get? place with
  | none =>
    rw [found] at entry
    cases entry
  | some other =>
    rw [found] at entry
    obtain rfl : other = .link target := entry
    exact isDirectoryAt_leaf found rfl

/-- **A removal removes nothing elsewhere**: nothing but at and below the place that its path leads to,
a link at the end of the path not followed. -/
theorem removeAll_shrunk {fs : FileSystem} (sound : fs.Sound) (cwd : Place) (path : Bytes) :
    (fs.removeAll cwd path).1 = fs ∨
      ∃ place entry, fs.find cwd false path = .ok (place, entry) ∧
        Shrunk place fs (fs.removeAll cwd path).1 := by
  unfold removeAll
  split
  · exact .inl rfl
  · rename_i place mode finds
    refine .inr ⟨place, _, finds, ?_⟩
    split
    · exact .dropBelow sound
    · exact (clear_shrunk _ fs place sound).1
  · rename_i place target finds
    split
    · rename_i removed removes
      exact .inr ⟨place, _, finds,
        (removeAt_shrunk sound (bare_leaf sound.closed (leaf_of_find finds)) removes).1⟩
    · exact .inl rfl
  · exact .inl rfl

/-- **A removal that is complete removes what is at and below the place, and nothing else.** -/
theorem removeAll_complete {fs : FileSystem} (sound : fs.Sound) {cwd : Place} {path : Bytes}
    {place : Place} {mode : Mode} (finds : fs.find cwd false path = .ok (place, .directory mode))
    (proper : place ≠ []) (complete : (fs.removeAll cwd path).2 = .ok ()) :
    (fs.removeAll cwd path).1.Sound ∧ ∀ other, (fs.removeAll cwd path).1.get? other
      = if isWithin place other then none else fs.get? other := by
  have removed (fs' : FileSystem) (shrunk : Shrunk place fs fs') (gone : fs'.get? place = none) :
      fs'.Sound ∧ ∀ other, fs'.get? other = if isWithin place other then none else fs.get? other := by
    refine ⟨shrunk.sound, fun other => ?_⟩
    by_cases within : isWithin place other = true
    · rw [if_pos within]
      exact get?_within_free shrunk.sound.closed gone within
    · rw [if_neg within]
      exact shrunk.elsewhere within
  unfold removeAll at complete ⊢
  simp only [finds] at complete ⊢
  split
  · exact ⟨sound.dropBelow proper, fun other => get?_dropBelow fs other proper⟩
  · rename_i partly
    rw [if_neg partly] at complete
    obtain ⟨shrunk, gone⟩ := clear_shrunk (fs.table.length + 1) fs place sound
    exact removed _ shrunk (gone complete proper)

/-- A removal is complete if all directories at and below the place can be emptied, and the place can be
removed from its own. -/
theorem removeAll_allowed {fs : FileSystem} {cwd : Place} {path : Bytes} {place : Place} {mode : Mode}
    (finds : fs.find cwd false path = .ok (place, .directory mode))
    (clears : fs.mayClear place = true) (allowed : fs.mayChange place.tail = true) :
    (fs.removeAll cwd path).2 = .ok () := by
  unfold removeAll
  simp [finds, clears, allowed]

end CalcBuild.Files.FileSystem

/-
**The view of a file system.**

A file system is a table, but all that a lookup sees of it is `FileSystem.get?`. This module says
what each of the four changes of a table does to that view.

* `get?_put`, `get?_drop`, `get?_dropBelow`, `get?_move`: the changes, seen through the view;
* `Sound`: the tables that stand for a tree, and which changes keep them so;
* `mem_table_iff`: in such a table the rows are what the view shows.
-/

import CalcBuild.Files.Change
import Mathlib.Data.List.Basic
import Mathlib.Data.List.Nodup

namespace CalcBuild.Files.FileSystem

/-! ### Places within places -/

@[simp]
theorem isWithin_self (place : Place) : isWithin place place = true :=
  isWithin_iff.mpr (List.suffix_refl place)

theorem isWithin_cons (name : Bytes) {above place : Place} (within : isWithin above place = true) :
    isWithin above (name :: place) = true :=
  isWithin_iff.mpr ((isWithin_iff.mp within).trans (List.suffix_cons name place))

theorem isWithin_trans {above middle place : Place} (upper : isWithin above middle = true)
    (lower : isWithin middle place = true) : isWithin above place = true :=
  isWithin_iff.mpr ((isWithin_iff.mp upper).trans (isWithin_iff.mp lower))

/-- What lies within a place is that place, or lies in something within it. -/
theorem isWithin_cases {above : Place} {name : Bytes} {dir : Place}
    (within : isWithin above (name :: dir) = true) :
    above = name :: dir ∨ isWithin above dir = true := by
  rcases List.suffix_cons_iff.mp (isWithin_iff.mp within) with same | below
  · exact .inl same
  · exact .inr (isWithin_iff.mpr below)

/-- What lies below a place lies at or below an entry of it. -/
theorem isWithin_below {above place : Place} (within : isWithin above place = true)
    (differs : place ≠ above) : ∃ name, isWithin (name :: above) place = true := by
  obtain ⟨names, rfl⟩ := isWithin_iff.mp within
  rcases List.eq_nil_or_concat names with rfl | ⟨rest, name, rfl⟩
  · exact absurd rfl differs
  · exact ⟨name, isWithin_iff.mpr ⟨rest, by simp⟩⟩

/-- Only the root contains the root. -/
theorem isWithin_root {above : Place} (within : isWithin above [] = true) : above = [] :=
  List.suffix_nil.mp (isWithin_iff.mp within)

/-- A place does not lie within one of its own entries. -/
theorem not_isWithin_tail (name : Bytes) (dir : Place) : ¬ isWithin (name :: dir) dir = true := by
  intro within
  have long := (isWithin_iff.mp within).length_le
  rw [List.length_cons] at long
  omega

/-! ### The view after a change -/

@[simp]
theorem get?_root (fs : FileSystem) : fs.get? [] = some (.directory Mode.ofMachine) := rfl

/-- Filtering a table by its places hides the places that are filtered out. -/
theorem lookup_filter (keep : Place → Bool) (table : List (Place × Entry)) (place : Place) :
    (table.filter fun row => keep row.1).lookup place
      = if keep place then table.lookup place else none := by
  induction table with
  | nil => simp
  | cons row rest ih =>
    obtain ⟨key, entry⟩ := row
    by_cases same : place = key
    · subst same
      by_cases kept : keep place = true
      · simp [kept]
      · simp [kept, ih]
    · have differs : (place == key) = false := beq_false_of_ne same
      rw [List.filter_cons, List.lookup_cons, differs]
      by_cases kept : keep key = true
      · rw [if_pos kept, List.lookup_cons, differs]
        exact ih
      · rw [if_neg kept]
        exact ih

theorem get?_put (fs : FileSystem) {place : Place} (entry : Entry) (other : Place)
    (proper : place ≠ []) :
    (fs.put place entry).get? other = if other = place then some entry else fs.get? other := by
  unfold get? put
  by_cases root : other = []
  · subst root
    rw [if_pos rfl, if_pos rfl, if_neg (Ne.symm proper)]
  · rw [if_neg root, if_neg root, List.lookup_cons]
    by_cases same : other = place
    · simp [same]
    · rw [beq_false_of_ne same, if_neg same, lookup_filter (fun key => key != place)]
      simp [same]

theorem get?_drop (fs : FileSystem) {place : Place} (other : Place) (proper : place ≠ []) :
    (fs.drop place).get? other = if other = place then none else fs.get? other := by
  unfold get? drop
  by_cases root : other = []
  · subst root
    rw [if_pos rfl, if_pos rfl, if_neg (Ne.symm proper)]
  · rw [if_neg root, if_neg root, lookup_filter (fun key => key != place)]
    by_cases same : other = place <;> simp [same]

theorem get?_dropBelow (fs : FileSystem) {place : Place} (other : Place) (proper : place ≠ []) :
    (fs.dropBelow place).get? other
      = if isWithin place other then none else fs.get? other := by
  unfold get? dropBelow
  by_cases root : other = []
  · subst root
    rw [if_pos rfl, if_pos rfl, if_neg fun within => proper (isWithin_root within)]
  · rw [if_neg root, if_neg root, lookup_filter (fun key => !isWithin place key)]
    by_cases within : isWithin place other = true <;> simp [within]

/-! ### Tables that stand for a tree -/

/-- A table that stands for a tree: no place is listed twice, the root is not listed, and every
entry lies in a directory. -/
structure Sound (fs : FileSystem) : Prop where
  listedOnce : (fs.table.map Prod.fst).Nodup
  rootUnlisted : [] ∉ fs.table.map Prod.fst
  closed : fs.Closed

/-- The tree with nothing below the root. -/
theorem sound_empty : empty.Sound where
  listedOnce := List.nodup_nil
  rootUnlisted := List.not_mem_nil
  closed := by
    intro name dir listed
    simp [get?, empty] at listed

/-- In a list whose keys differ, the rows are what a lookup finds. -/
theorem lookup_eq_some_iff {table : List (Place × Entry)} (distinct : (table.map Prod.fst).Nodup)
    {place : Place} {entry : Entry} :
    table.lookup place = some entry ↔ (place, entry) ∈ table := by
  induction table with
  | nil => simp
  | cons row rest ih =>
    obtain ⟨key, first⟩ := row
    rw [List.map_cons, List.nodup_cons] at distinct
    rw [List.lookup_cons]
    by_cases same : place = key
    · subst same
      simp only [beq_self_eq_true, Option.some.injEq, List.mem_cons, Prod.mk.injEq, true_and]
      constructor
      · intro first_eq
        exact .inl first_eq.symm
      · rintro (first_eq | later)
        · exact first_eq.symm
        · exact absurd (List.mem_map_of_mem (f := Prod.fst) later) distinct.1
    · rw [beq_false_of_ne same, ih distinct.2]
      simp [same]

/-- **The rows of a sound table are what the view shows** below the root. -/
theorem Sound.mem_table_iff {fs : FileSystem} (sound : fs.Sound) {place : Place} {entry : Entry} :
    (place, entry) ∈ fs.table ↔ place ≠ [] ∧ fs.get? place = some entry := by
  unfold get?
  constructor
  · intro listed
    have proper : place ≠ [] := by
      rintro rfl
      exact sound.rootUnlisted (List.mem_map_of_mem (f := Prod.fst) listed)
    rw [if_neg proper]
    exact ⟨proper, (lookup_eq_some_iff sound.listedOnce).mpr listed⟩
  · rintro ⟨proper, found⟩
    rw [if_neg proper] at found
    exact (lookup_eq_some_iff sound.listedOnce).mp found

theorem isDirectoryAt_iff {fs : FileSystem} {place : Place} :
    fs.isDirectoryAt place = true ↔ ∃ mode, fs.get? place = some (.directory mode) := by
  unfold isDirectoryAt directoryMode?
  split <;> simp_all

theorem mayChange_iff {fs : FileSystem} {place : Place} :
    fs.mayChange place = true ↔
      ∃ mode, fs.get? place = some (.directory mode) ∧ mode.mayWrite ∧ mode.mayEnter := by
  unfold mayChange directoryMode?
  split <;> simp_all

/-- Whether a directory may be changed is told by the entry at its place. -/
theorem mayChange_congr {fs fs' : FileSystem} {place : Place}
    (same : fs'.get? place = fs.get? place) : fs'.mayChange place = fs.mayChange place := by
  unfold mayChange directoryMode?
  rw [same]

/-- Everything above an entry is a directory. -/
theorem isDirectoryAt_above {fs : FileSystem} (closed : fs.Closed) {above : Place} :
    ∀ {place : Place}, isWithin above place = true → place ≠ above → (fs.get? place).isSome →
      fs.isDirectoryAt above = true
  | [], within, differs, _ => absurd (isWithin_root within).symm differs
  | name :: dir, within, differs, listed => by
    have parent : fs.isDirectoryAt dir = true := closed name dir listed
    rcases isWithin_cases within with same | below
    · exact absurd same.symm differs
    · by_cases here : dir = above
      · rw [← here]
        exact parent
      · obtain ⟨mode, found⟩ := isDirectoryAt_iff.mp parent
        exact isDirectoryAt_above closed below here (by rw [found]; rfl)

/-- Nothing lies within a place that is free. -/
theorem get?_within_free {fs : FileSystem} (closed : fs.Closed) {above place : Place}
    (free : fs.get? above = none) (within : isWithin above place = true) :
    fs.get? place = none := by
  by_cases same : place = above
  · rw [same]
    exact free
  · by_contra listed
    have directory := isDirectoryAt_above closed within same (Option.isSome_iff_ne_none.mpr listed)
    obtain ⟨mode, found⟩ := isDirectoryAt_iff.mp directory
    rw [free] at found
    cases found

/-- Nothing lies below a place that is no directory. -/
theorem get?_below_leaf {fs : FileSystem} (closed : fs.Closed) {above place : Place}
    (leaf : fs.isDirectoryAt above = false) (within : isWithin above place = true)
    (differs : place ≠ above) : fs.get? place = none := by
  by_contra listed
  have directory := isDirectoryAt_above closed within differs (Option.isSome_iff_ne_none.mpr listed)
  rw [leaf] at directory
  cases directory

/-- No directory lies at or below a place that is none. -/
theorem not_isWithin_leaf {fs : FileSystem} (closed : fs.Closed) {above place : Place}
    (leaf : fs.isDirectoryAt above = false) (directory : fs.isDirectoryAt place = true) :
    ¬ isWithin above place = true := by
  intro within
  by_cases same : place = above
  · rw [same, leaf] at directory
    cases directory
  · obtain ⟨mode, listed⟩ := isDirectoryAt_iff.mp directory
    rw [get?_below_leaf closed leaf within same] at listed
    cases listed

/-- The keys of a filtered table are among the keys of the table. -/
theorem keys_filter_sublist (keep : Place × Entry → Bool) (table : List (Place × Entry)) :
    ((table.filter keep).map Prod.fst).Sublist (table.map Prod.fst) :=
  List.Sublist.map _ List.filter_sublist

theorem Sound.put {fs : FileSystem} (sound : fs.Sound) {place : Place} {entry : Entry}
    (proper : place ≠ []) (parent : fs.isDirectoryAt place.tail = true)
    (fits : fs.isDirectoryAt place = true → entry.isDirectory = true) :
    (fs.put place entry).Sound where
  listedOnce := by
    unfold FileSystem.put
    rw [List.map_cons, List.nodup_cons]
    refine ⟨?_, sound.listedOnce.sublist (keys_filter_sublist _ _)⟩
    simp
  rootUnlisted := by
    unfold FileSystem.put
    rw [List.map_cons, List.mem_cons, not_or]
    exact ⟨Ne.symm proper, fun listed =>
      sound.rootUnlisted ((keys_filter_sublist _ _).subset listed)⟩
  closed := by
    intro name dir listed
    rw [get?_put fs entry _ proper] at listed
    have directory : fs.isDirectoryAt dir = true := by
      by_cases same : name :: dir = place
      · rw [← same] at parent
        exact parent
      · rw [if_neg same] at listed
        exact sound.closed name dir listed
    rw [isDirectoryAt_iff, get?_put fs entry _ proper]
    by_cases here : dir = place
    · subst here
      have kind := fits directory
      rw [if_pos rfl]
      cases entry with
      | directory mode => exact ⟨mode, rfl⟩
      | _ => cases kind
    · rw [if_neg here]
      exact isDirectoryAt_iff.mp directory

theorem Sound.drop {fs : FileSystem} (sound : fs.Sound) {place : Place} (proper : place ≠ [])
    (leaf : ∀ name, fs.get? (name :: place) = none) : (fs.drop place).Sound where
  listedOnce := sound.listedOnce.sublist (keys_filter_sublist _ _)
  rootUnlisted := fun listed => sound.rootUnlisted ((keys_filter_sublist _ _).subset listed)
  closed := by
    intro name dir listed
    rw [get?_drop fs _ proper] at listed
    have kept : fs.get? (name :: dir) ≠ none := by
      intro free
      rw [free, ite_self] at listed
      cases listed
    rw [isDirectoryAt_iff, get?_drop fs _ proper]
    by_cases here : dir = place
    · subst here
      exact absurd (leaf name) kept
    · rw [if_neg here]
      exact isDirectoryAt_iff.mp (sound.closed name dir (Option.isSome_iff_ne_none.mpr kept))

theorem Sound.dropBelow {fs : FileSystem} (sound : fs.Sound) {place : Place}
    (proper : place ≠ []) : (fs.dropBelow place).Sound where
  listedOnce := sound.listedOnce.sublist (keys_filter_sublist _ _)
  rootUnlisted := fun listed => sound.rootUnlisted ((keys_filter_sublist _ _).subset listed)
  closed := by
    intro name dir listed
    rw [get?_dropBelow fs _ proper] at listed
    by_cases within : isWithin place (name :: dir) = true
    · rw [if_pos within] at listed
      cases listed
    · rw [if_neg within] at listed
      rw [isDirectoryAt_iff, get?_dropBelow fs _ proper,
        if_neg fun below => within (isWithin_cons name below)]
      exact isDirectoryAt_iff.mp (sound.closed name dir listed)

/-! ### Moving what is at and below a place -/

/-- A place at or below the source goes with its names to the target. -/
theorem rebase_append (names source target : Place) :
    rebase source target (names ++ source) = names ++ target := by
  unfold rebase
  rw [List.length_append, Nat.add_sub_cancel, List.take_left]

theorem rebase_cons (name : Bytes) {source target place : Place}
    (within : isWithin source place = true) :
    rebase source target (name :: place) = name :: rebase source target place := by
  obtain ⟨names, rfl⟩ := isWithin_iff.mp within
  rw [← List.cons_append, rebase_append, rebase_append, List.cons_append]

/-- The rows that are moved are found where they went. -/
theorem lookup_rebase (source target : Place) (table : List (Place × Entry)) (place : Place) :
    ((table.filter fun row => isWithin source row.1).map
        fun row => (rebase source target row.1, row.2)).lookup place
      = if isWithin target place then table.lookup (rebase target source place) else none := by
  induction table with
  | nil => simp
  | cons row rest ih =>
    obtain ⟨key, entry⟩ := row
    rw [List.filter_cons]
    by_cases moves : isWithin source key = true
    · obtain ⟨names, rfl⟩ := isWithin_iff.mp moves
      rw [if_pos moves, List.map_cons, rebase_append, List.lookup_cons, ih]
      by_cases within : isWithin target place = true
      · obtain ⟨names', rfl⟩ := isWithin_iff.mp within
        have same : (names' ++ target == names ++ target) = (names' ++ source == names ++ source) := by
          rw [Bool.eq_iff_iff, beq_iff_eq, beq_iff_eq, List.append_cancel_right_eq,
            List.append_cancel_right_eq]
        rw [if_pos within, if_pos within, rebase_append, List.lookup_cons, same]
      · have differs : (place == names ++ target) = false := by
          refine beq_false_of_ne ?_
          rintro rfl
          exact within (isWithin_iff.mpr (List.suffix_append ..))
        rw [if_neg within, if_neg within, differs]
    · rw [if_neg moves, ih]
      by_cases within : isWithin target place = true
      · obtain ⟨names', rfl⟩ := isWithin_iff.mp within
        have differs : (names' ++ source == key) = false := by
          refine beq_false_of_ne ?_
          rintro rfl
          exact moves (isWithin_iff.mpr (List.suffix_append ..))
        rw [if_pos within, if_pos within, rebase_append, List.lookup_cons, differs]
      · rw [if_neg within, if_neg within]

/-- **After a move**, what was at and below the source is at and below the target, and nothing else is
at or below either. -/
theorem get?_move (fs : FileSystem) {source target : Place} (proper : source ≠ [])
    (proper' : target ≠ []) (other : Place) :
    (fs.move source target).get? other
      = if isWithin target other then fs.get? (rebase target source other)
        else if isWithin source other then none else fs.get? other := by
  by_cases root : other = []
  · subst root
    rw [if_neg fun within => proper' (isWithin_root within),
      if_neg fun within => proper (isWithin_root within)]
    rfl
  have stays :=
    lookup_filter (fun key => !isWithin source key && !isWithin target key) fs.table other
  unfold get? FileSystem.move
  dsimp only
  rw [if_neg root, if_neg root, List.lookup_append, lookup_rebase, stays]
  by_cases within : isWithin target other = true
  · obtain ⟨names, rfl⟩ := isWithin_iff.mp within
    have listed : rebase target source (names ++ target) ≠ [] := by
      rw [rebase_append]
      exact fun bare => proper (List.append_eq_nil_iff.mp bare).2
    simp [within, listed]
  · simp only [Bool.not_eq_true] at within
    simp only [within]
    cases isWithin source other <;> simp

/-- The places that are listed after a move. -/
theorem keys_move (fs : FileSystem) (source target : Place) :
    (fs.move source target).table.map Prod.fst
      = ((fs.table.filter fun row => isWithin source row.1).map Prod.fst).map (rebase source target)
        ++ (fs.table.filter fun row =>
          !isWithin source row.1 && !isWithin target row.1).map Prod.fst := by
  unfold FileSystem.move
  rw [List.map_append, List.map_map, List.map_map]
  rfl

/-- **A move keeps a table sound** if it goes into a directory that does not lie within what moves. -/
theorem Sound.move {fs : FileSystem} (sound : fs.Sound) {source target : Place}
    (proper : source ≠ []) (proper' : target ≠ []) (outside : ¬ isWithin source target.tail = true)
    (parent : fs.isDirectoryAt target.tail = true) : (fs.move source target).Sound where
  listedOnce := by
    have moving {key : Place}
        (member : key ∈ (fs.table.filter fun row => isWithin source row.1).map Prod.fst) :
        ∃ names, key = names ++ source := by
      obtain ⟨row, listed, rfl⟩ := List.mem_map.mp member
      obtain ⟨names, key⟩ := isWithin_iff.mp (List.mem_filter.mp listed).2
      exact ⟨names, key.symm⟩
    rw [keys_move, List.nodup_append]
    refine ⟨?_, sound.listedOnce.sublist (keys_filter_sublist _ _), ?_⟩
    · refine List.Nodup.map_on ?_ (sound.listedOnce.sublist (keys_filter_sublist _ _))
      intro key member key' member' same
      obtain ⟨names, rfl⟩ := moving member
      obtain ⟨names', rfl⟩ := moving member'
      rw [rebase_append, rebase_append, List.append_cancel_right_eq] at same
      rw [same]
    · intro key member key' member'
      obtain ⟨key₀, moved, rfl⟩ := List.mem_map.mp member
      obtain ⟨names, rfl⟩ := moving moved
      obtain ⟨row, listed, rfl⟩ := List.mem_map.mp member'
      have stays := (List.mem_filter.mp listed).2
      rw [rebase_append]
      intro same
      have within : isWithin target row.1 = true :=
        isWithin_iff.mpr (same ▸ List.suffix_append names target)
      simp [within] at stays
  rootUnlisted := by
    rw [keys_move, List.mem_append, not_or]
    refine ⟨fun member => ?_, fun listed =>
      sound.rootUnlisted ((keys_filter_sublist _ _).subset listed)⟩
    obtain ⟨key, _, bare⟩ := List.mem_map.mp member
    exact proper' (List.append_eq_nil_iff.mp bare).2
  closed := by
    intro name dir listed
    rw [isDirectoryAt_iff, get?_move fs proper proper']
    rw [get?_move fs proper proper'] at listed
    by_cases below : isWithin target dir = true
    · rw [if_pos (isWithin_cons name below), rebase_cons name below] at listed
      rw [if_pos below]
      exact isDirectoryAt_iff.mp (sound.closed _ _ listed)
    · rw [if_neg below]
      by_cases here : isWithin target (name :: dir) = true
      · obtain rfl : target = name :: dir := (isWithin_cases here).resolve_right below
        rw [List.tail_cons] at outside parent
        rw [if_neg outside]
        exact isDirectoryAt_iff.mp parent
      · rw [if_neg here] at listed
        by_cases gone : isWithin source (name :: dir) = true
        · rw [if_pos gone] at listed
          cases listed
        · rw [if_neg gone] at listed
          rw [if_neg fun within => gone (isWithin_cons name within)]
          exact isDirectoryAt_iff.mp (sound.closed name dir listed)

/-- An entry that is no directory has a place that is none. -/
theorem isDirectoryAt_leaf {fs : FileSystem} {place : Place} {entry : Entry}
    (found : fs.get? place = some entry) (leaf : entry.isDirectory = false) :
    fs.isDirectoryAt place = false := by
  rw [Bool.eq_false_iff]
  intro directory
  obtain ⟨mode, other⟩ := isDirectoryAt_iff.mp directory
  rw [found] at other
  cases other
  cases leaf

/-- What is at a place that is none is no directory. -/
theorem isDirectory_of_leaf {fs : FileSystem} {place : Place} {entry : Entry}
    (found : fs.get? place = some entry) (leaf : fs.isDirectoryAt place = false) :
    entry.isDirectory = false := by
  cases entry with
  | directory mode =>
    rw [isDirectoryAt_iff.mpr ⟨mode, found⟩] at leaf
    cases leaf
  | _ => rfl

/-- **Moving an entry that is no directory** to a place that is none either: the entry is found at
the new place only, and nothing else changes. -/
theorem Sound.get?_move {fs : FileSystem} (sound : fs.Sound) {source target : Place}
    {entry : Entry} (proper : source ≠ []) (proper' : target ≠ [])
    (found : fs.get? source = some entry) (leaf : entry.isDirectory = false)
    (leaf' : fs.isDirectoryAt target = false) (other : Place) :
    (fs.move source target).get? other
      = if other = target then some entry else if other = source then none else fs.get? other := by
  have bare := isDirectoryAt_leaf found leaf
  rw [FileSystem.get?_move fs proper proper']
  by_cases below : isWithin target other = true
  · obtain ⟨names, rfl⟩ := isWithin_iff.mp below
    rw [if_pos below, rebase_append]
    by_cases same : names = []
    · subst same
      rw [List.nil_append, List.nil_append, if_pos rfl, found]
    · have differs (place : Place) : names ++ place ≠ place := by simpa using same
      rw [if_neg (differs target), get?_below_leaf sound.closed leaf' below (differs target), ite_self]
      exact get?_below_leaf sound.closed bare (isWithin_iff.mpr (List.suffix_append ..)) (differs _)
  · have notTarget : other ≠ target := by
      rintro rfl
      exact below (isWithin_self other)
    rw [if_neg below, if_neg notTarget]
    by_cases within : isWithin source other = true
    · rw [if_pos within]
      by_cases same : other = source
      · rw [if_pos same]
      · rw [if_neg same, get?_below_leaf sound.closed bare within same]
    · have notSource : other ≠ source := by
        rintro rfl
        exact within (isWithin_self other)
      rw [if_neg within, if_neg notSource]

end CalcBuild.Files.FileSystem

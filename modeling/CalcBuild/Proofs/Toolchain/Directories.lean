/-
**The directories of a search path.**

A search path has the directories that are given for it, as they are, and behind them the entries of a
list in which colons stand between the entries. Empty entries do not count, wherever they stand: two
lists give the same directories exactly if one becomes the other when empty entries are put in and taken
out. As the given directories come first, what they hold is found whatever the list has.

* `entries_intercalate`, `entries_append`: the entries of lists that are put together;
* `Padded`: a list with one empty entry more;
* `entries_eq_iff`: what the entries leave open of a list;
* `directories_told`: the directories of a search path.
-/

import CalcBuild.Toolchain.SearchPath
import Mathlib.Logic.Relation

namespace CalcBuild.SearchPath

open Files

/-! ### Entries -/

/-- The entries of two lists with a colon between them. -/
theorem entries_append (before after : Bytes) :
    entries (before ++ colon :: after) = entries before ++ entries after := by
  unfold entries
  simp only [Text.splitAt_eq_splitOn]
  rw [List.splitOn_append_cons_self, List.filter_append]

theorem entries_leading (list : Bytes) : entries (colon :: list) = entries list :=
  entries_append [] list

theorem entries_trailing (list : Bytes) : entries (list ++ [colon]) = entries list := by
  rw [entries_append]
  exact List.append_nil _

/-- **The entries of joined parts** are the parts that are not empty. -/
theorem entries_intercalate {parts : List Bytes} (unmarked : ∀ part ∈ parts, colon ∉ part) :
    entries ([colon].intercalate parts) = parts.filter (· != []) := by
  cases parts with
  | nil => rfl
  | cons part parts =>
    unfold entries
    rw [Text.splitAt_eq_splitOn, List.splitOn_intercalate colon unmarked (List.cons_ne_nil _ _)]

theorem mem_entries {list dir : Bytes} (member : dir ∈ entries list) : dir ≠ [] ∧ colon ∉ dir := by
  obtain ⟨part, proper⟩ := List.mem_filter.mp member
  exact ⟨bne_iff_ne.mp proper, (Text.mem_splitAt part).1⟩

/-! ### Empty entries -/

/-- A list, and the same list with one empty entry more: before the first entry, behind the last one, or
between two of them. -/
inductive Padded : Bytes → Bytes → Prop where
  | first (list : Bytes) : Padded list (colon :: list)
  | last (list : Bytes) : Padded list (list ++ [colon])
  | between (before after : Bytes) :
      Padded (before ++ colon :: after) (before ++ colon :: colon :: after)

/-- **An empty entry does not count.** -/
theorem Padded.entries_eq {list more : Bytes} (padded : Padded list more) :
    entries list = entries more := by
  cases padded with
  | first => rw [entries_leading]
  | last => rw [entries_trailing]
  | between before after => rw [entries_append, entries_append, entries_leading]

/-- An empty entry more in a list is one more in a list that ends with it. -/
theorem Padded.behind {list more : Bytes} (padded : Padded list more) (dir : Bytes) :
    Padded (dir ++ colon :: list) (dir ++ colon :: more) := by
  cases padded with
  | first => exact .between dir list
  | last =>
    rw [← List.cons_append, ← List.append_assoc]
    exact .last _
  | between before after =>
    have split (rest : Bytes) : dir ++ colon :: (before ++ rest) = (dir ++ colon :: before) ++ rest := by
      rw [List.append_assoc, List.cons_append]
    rw [split, split]
    exact .between _ after

/-- Two lists of which one becomes the other when empty entries are put in and taken out. -/
abbrev SameEntries : Bytes → Bytes → Prop := Relation.EqvGen Padded

theorem SameEntries.behind {list more : Bytes} (same : SameEntries list more) (dir : Bytes) :
    SameEntries (dir ++ colon :: list) (dir ++ colon :: more) := by
  induction same with
  | rel _ _ padded => exact .rel _ _ (padded.behind dir)
  | refl => exact .refl _
  | symm _ _ _ ih => exact .symm _ _ ih
  | trans _ _ _ _ _ first second => exact .trans _ _ _ first second

theorem SameEntries.entries_eq {list more : Bytes} (same : SameEntries list more) :
    entries list = entries more := by
  induction same with
  | rel _ _ padded => exact padded.entries_eq
  | refl => rfl
  | symm _ _ _ ih => exact ih.symm
  | trans _ _ _ _ _ first second => exact first.trans second

/-- Empty parts can be taken out before parts are joined. -/
theorem sameEntries_intercalate (parts : List Bytes) :
    SameEntries ([colon].intercalate parts) ([colon].intercalate (parts.filter (· != []))) := by
  induction parts with
  | nil => exact .refl _
  | cons part parts ih =>
    cases parts with
    | nil =>
      cases part with
      | nil => exact .refl _
      | cons byte rest => exact .refl _
    | cons next parts =>
      rw [List.intercalate_cons_cons, List.append_assoc, List.singleton_append]
      by_cases empty : part = []
      · rw [empty]
        exact .trans _ _ _ (.symm _ _ (.rel _ _ (.first _))) ih
      · have stays : (part :: next :: parts).filter (· != []) = part :: (next :: parts).filter (· != []) :=
          List.filter_cons_of_pos (bne_iff_ne.mpr empty)
        rw [stays]
        refine .trans _ _ _ (ih.behind part) ?_
        cases kept : (next :: parts).filter (· != []) with
        | nil =>
          -- nothing stands behind the part any more, and its colon goes
          rw [List.intercalate_singleton]
          exact .symm _ _ (.rel _ _ (.last part))
        | cons first later =>
          rw [List.intercalate_cons_cons, List.append_assoc, List.singleton_append]
          exact .refl _

/-- A list is its entries, joined again, up to empty entries. -/
theorem sameEntries_entries (list : Bytes) : SameEntries list ([colon].intercalate (entries list)) := by
  have joined := sameEntries_intercalate (list.splitOn colon)
  rwa [List.intercalate_splitOn, ← Text.splitAt_eq_splitOn] at joined

/-- **The entries of a list leave nothing open** but where empty entries are. -/
theorem entries_eq_iff {list list' : Bytes} : entries list = entries list' ↔ SameEntries list list' := by
  refine ⟨fun same => ?_, fun same => same.entries_eq⟩
  have back := (sameEntries_entries list').symm
  rw [← same] at back
  exact .trans _ _ _ (sameEntries_entries list) back

/-! ### Search paths -/

/-- **A search in the given directories comes first**: only what is not found there is searched in the
others. -/
theorem find_new (extra : List Bytes) (list? : Option Bytes) (fs : FileSystem) (cwd : Place)
    (name : Bytes) : (new extra list?).find fs cwd name
      = ((new extra none).find fs cwd name).or ((new [] list?).find fs cwd name) := by
  have none_more : (new extra none).dirs = extra := List.append_nil extra
  have split : (new extra list?).dirs = (new extra none).dirs ++ (new [] list?).dirs := by
    rw [none_more]
    rfl
  unfold find
  rw [split, List.map_append, List.find?_append]

/-- **The directories of a search path.** They are the given ones, as they are, and those of the list,
none of which is empty or has a colon in it. Directories that are joined with colons are found again, and
the directories of two lists with a colon between them are those of the first and then those of the
second. Two lists give the same search path exactly if they differ by empty entries only, and what is
found in the given directories is found whatever the list is. -/
theorem directories_told (extra : List Bytes) :
    (∀ dirs : List Bytes, (∀ dir ∈ dirs, dir ≠ [] ∧ colon ∉ dir) →
      (new extra (some ([colon].intercalate dirs))).dirs = extra ++ dirs) ∧
    (∀ before after : Bytes, (new extra (some (before ++ colon :: after))).dirs
      = (new extra (some before)).dirs ++ (new [] (some after)).dirs) ∧
    (∀ list?, (new extra list?).dirs = extra ++ (new [] list?).dirs ∧
      ∀ dir ∈ (new [] list?).dirs, dir ≠ [] ∧ colon ∉ dir) ∧
    (∀ list list' : Bytes, new extra (some list) = new extra (some list') ↔ SameEntries list list') ∧
    (∀ list? fs cwd name, (new extra list?).find fs cwd name
      = ((new extra none).find fs cwd name).or ((new [] list?).find fs cwd name)) := by
  refine ⟨fun dirs proper => ?_, fun before after => ?_, fun list? => ⟨rfl, fun dir member => ?_⟩,
    fun list list' => ?_, find_new extra⟩
  · show extra ++ entries ([colon].intercalate dirs) = extra ++ dirs
    rw [entries_intercalate fun dir member => (proper dir member).2,
      List.filter_eq_self.mpr fun dir member => bne_iff_ne.mpr (proper dir member).1]
  · show extra ++ entries (before ++ colon :: after) = extra ++ entries before ++ entries after
    rw [entries_append, List.append_assoc]
  · cases list? with
    | none => cases member
    | some list => exact mem_entries member
  · rw [← entries_eq_iff]
    unfold new
    rw [mk.injEq]
    exact (List.append_cancel_left_eq _ _ _).to_iff

/-- A directory that is no text, and lists that begin and end with colons or have nothing else. -/
theorem directories_told_padded :
    (new [[0x78], []] (some [0x61, 0x3A, 0xFF])).dirs = [[0x78], [], [0x61], [0xFF]] ∧
    new [] (some [0x3A, 0x61, 0x3A, 0x3A]) = new [] (some [0x61]) ∧
    new [] (some [0x3A, 0x3A]) ≠ new [] (some [0x61]) := by
  refine ⟨(directories_told [[0x78], []]).1 [[0x61], [0xFF]] (by decide), ?_, fun same => ?_⟩
  · refine ((directories_told []).2.2.2.1 _ _).mpr ?_
    refine .trans _ [0x61, 0x3A, 0x3A] _ (.symm _ _ (.rel _ _ (.first _))) ?_
    exact .trans _ [0x61, 0x3A] _ (.symm _ _ (.rel _ _ (.last [0x61, 0x3A])))
      (.symm _ _ (.rel _ _ (.last [0x61])))
  · have differs := (((directories_told []).2.2.2.1 _ _).mp same).entries_eq
    revert differs
    decide

end CalcBuild.SearchPath

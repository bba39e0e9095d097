/-
**Cutting lists.**

A list is cut at every occurrence of a mark; the marks belong to no part.

* `splitAt`: the parts;
* `splitAt_eq_splitOn`: they are those of the standard library;
* `mem_splitAt`: a part holds no mark, and nothing that is not in the list.
-/

import CalcBuild.Text.Utf8

namespace CalcBuild.Text

/-- Cuts a list at every occurrence of an item: `n` occurrences give `n + 1` parts. -/
def splitAt {Item : Type} [DecidableEq Item] (mark : Item) (items : List Item) :
    List (List Item) :=
  items.foldr (fun item parts =>
    if item = mark then [] :: parts
    else match parts with
      | [] => [[item]]
      | first :: rest => (item :: first) :: rest) [[]]

variable {Item : Type} [DecidableEq Item]

theorem splitAt_eq_splitOn (mark : Item) (items : List Item) :
    splitAt mark items = items.splitOn mark := by
  induction items with
  | nil => rfl
  | cons item rest ih =>
    have cut : splitAt mark (item :: rest) = if item = mark then [] :: splitAt mark rest
        else match splitAt mark rest with
          | [] => [[item]]
          | first :: later => (item :: first) :: later := rfl
    obtain ⟨first, later, parts⟩ := List.exists_cons_of_ne_nil (List.splitOn_ne_nil mark rest)
    rw [cut, ih, List.splitOn_cons_eq_if_modifyHead, parts]
    by_cases same : item = mark
    · rw [if_pos same, if_pos (beq_iff_eq.mpr same)]
    · rw [if_neg same, if_neg (mt beq_iff_eq.mp same)]
      rfl

/-- An item that is no mark belongs to the first part. -/
theorem splitAt_cons {mark item : Item} (other : item ≠ mark) (rest : List Item) :
    ∃ first later, splitAt mark rest = first :: later ∧
      splitAt mark (item :: rest) = (item :: first) :: later := by
  obtain ⟨first, later, parts⟩ := List.exists_cons_of_ne_nil (List.splitOn_ne_nil mark rest)
  refine ⟨first, later, by rw [splitAt_eq_splitOn, parts], ?_⟩
  rw [splitAt_eq_splitOn, List.splitOn_cons_eq_if_modifyHead, parts,
    if_neg (mt beq_iff_eq.mp other)]
  rfl

theorem splitAt_mark (mark : Item) (rest : List Item) :
    splitAt mark (mark :: rest) = [] :: splitAt mark rest :=
  if_pos rfl

/-- **A part holds no mark**, and nothing that is not in the list. -/
theorem mem_splitAt {mark : Item} {items part : List Item} (member : part ∈ splitAt mark items) :
    mark ∉ part ∧ part ⊆ items := by
  induction items generalizing part with
  | nil =>
    obtain rfl := List.mem_singleton.mp member
    exact ⟨List.not_mem_nil, List.nil_subset _⟩
  | cons item rest ih =>
    by_cases same : item = mark
    · rw [same, splitAt_mark] at member
      rcases List.mem_cons.mp member with rfl | later
      · exact ⟨List.not_mem_nil, List.nil_subset _⟩
      · exact ⟨(ih later).1, List.subset_cons_of_subset _ (ih later).2⟩
    · obtain ⟨first, later, parts, cut⟩ := splitAt_cons same rest
      rw [parts] at ih
      rw [cut] at member
      rcases List.mem_cons.mp member with rfl | listed
      · obtain ⟨unmarked, inside⟩ := ih List.mem_cons_self
        exact ⟨by simp [unmarked, Ne.symm same], List.cons_subset_cons _ inside⟩
      · obtain ⟨unmarked, inside⟩ := ih (List.mem_cons_of_mem _ listed)
        exact ⟨unmarked, List.subset_cons_of_subset _ inside⟩

end CalcBuild.Text

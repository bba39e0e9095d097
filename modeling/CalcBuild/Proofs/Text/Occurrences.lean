/-
**How often a text occurs in another.**

Where a text is put together from pieces, an occurrence of another text lies within one piece or goes
from one into the next. What the text that is looked for begins with, ends with and does not contain
rules the latter out.

* `occurrences`: at how many places a text begins;
* `occurrences_eq_zero_iff`: it begins nowhere exactly if it is not contained;
* `occurrences_skip`: nothing begins in words without its first character;
* `occurrences_split`: pieces with words between them that it cannot go on through;
* `occurrences_self`: a text that is ended by a character which it has nowhere else.
-/

import Mathlib

namespace CalcBuild.Text

/-- At how many places of a text another one begins. -/
def occurrences (text : List Char) : List Char → Nat
  | [] => if text = [] then 1 else 0
  | c :: rest => (if text <+: c :: rest then 1 else 0) + occurrences text rest

variable {text : List Char}

/-- **A text that is not contained occurs nowhere**, and one that is contained occurs somewhere. -/
theorem occurrences_eq_zero_iff {whole : List Char} :
    occurrences text whole = 0 ↔ ¬ text <:+: whole := by
  induction whole with
  | nil => simp [occurrences]
  | cons c rest ih =>
    rw [occurrences, Nat.add_eq_zero_iff, ih, List.infix_cons_iff, not_or]
    simp

section Pieces

variable {first : Char} (begins : text.head? = some first)

include begins

theorem not_prefix_of_head {c : Char} (differs : first ≠ c) (rest : List Char) :
    ¬ text <+: c :: rest := by
  intro starts
  cases text with
  | nil => cases begins
  | cons d text =>
    cases begins
    exact differs (List.cons_prefix_cons.mp starts).1

/-- **A text does not begin in words** that its first character does not occur in. -/
theorem occurrences_skip {words : List Char} (apart : first ∉ words) (rest : List Char) :
    occurrences text (words ++ rest) = occurrences text rest := by
  induction words with
  | nil => rfl
  | cons c words ih =>
    have differs : first ≠ c := fun same => apart (same ▸ List.mem_cons_self)
    rw [List.cons_append, occurrences, if_neg (not_prefix_of_head begins differs _), Nat.zero_add,
      ih fun member => apart (List.mem_cons_of_mem _ member)]

theorem occurrences_words {words : List Char} (apart : first ∉ words) : occurrences text words = 0 := by
  rw [← List.append_nil words, occurrences_skip begins apart]
  refine if_neg ?_
  rintro rfl
  cases begins

variable {last : Char} (ends : text.getLast? = some last)

include ends in
omit begins in
/-- A text that begins before some words and does not contain them, nor ends in them, has ended before
they begin. -/
theorem prefix_of_split {words : List Char} {c : Char} (unended : last ∉ words)
    (stops : ¬ words ++ [c] <:+: text) {before after : List Char}
    (starts : text <+: before ++ (words ++ c :: after)) : text <+: before := by
  have joint : before ++ (words ++ [c]) <+: before ++ (words ++ c :: after) :=
    ⟨after, by simp only [List.append_assoc, List.singleton_append]⟩
  have inside : text <+: before ++ words := by
    rcases List.prefix_or_prefix_of_prefix starts joint with within | beyond
    · rw [← List.append_assoc, List.prefix_concat_iff] at within
      rcases within with rfl | inside
      · exact absurd ⟨before, [], by simp only [List.append_assoc, List.append_nil]⟩ stops
      · exact inside
    · exact absurd ((List.suffix_append _ _).isInfix.trans beyond.isInfix) stops
  rcases List.prefix_or_prefix_of_prefix inside (List.prefix_append _ _) with early | ⟨more, rfl⟩
  · exact early
  · have more_words := (List.prefix_append_right_inj before).mp inside
    cases more with
    | nil => rw [List.append_nil]
    | cons d more =>
      rw [List.getLast?_append_of_ne_nil _ (List.cons_ne_nil _ _)] at ends
      exact absurd (more_words.subset (List.mem_of_getLast? ends)) unended

include ends in
/-- **Pieces are searched one by one** if the text cannot go on through the words between them: it does
not begin in the words, nor end in them, and it does not contain them with the character after them. -/
theorem occurrences_split {words : List Char} {c : Char} (unbegun : first ∉ words)
    (unended : last ∉ words) (stops : ¬ words ++ [c] <:+: text) (before after : List Char) :
    occurrences text (before ++ (words ++ c :: after))
      = occurrences text before + occurrences text (c :: after) := by
  induction before with
  | nil =>
    rw [List.nil_append, occurrences_skip begins unbegun,
      occurrences_words begins List.not_mem_nil, Nat.zero_add]
  | cons d before ih =>
    have same : text <+: d :: before ++ (words ++ c :: after) ↔ text <+: d :: before :=
      ⟨prefix_of_split ends unended stops, fun starts => starts.trans (List.prefix_append _ _)⟩
    rw [List.cons_append] at same ⊢
    rw [occurrences, ih, if_congr same rfl rfl, ← Nat.add_assoc]
    rfl

end Pieces

/-- **A text that is ended by a character which it has nowhere else** does not overlap itself. -/
theorem occurrences_self {body : List Char} {last : Char} (once : last ∉ body) (rest : List Char) :
    occurrences (body ++ [last]) (body ++ [last] ++ rest)
      = 1 + occurrences (body ++ [last]) rest := by
  -- What begins later would have the last character where the text still goes on.
  have later (back : List Char) : ∀ front : List Char, front ++ back = body ++ [last] → front ≠ [] →
      occurrences (body ++ [last]) (back ++ rest) = occurrences (body ++ [last]) rest := by
    induction back with
    | nil => exact fun _ _ _ => rfl
    | cons c back ih =>
      intro front split nonempty
      have nowhere : ¬ body ++ [last] <+: c :: (back ++ rest) := by
        intro starts
        have lengths := congrArg List.length split
        have positive := List.length_pos_iff.mpr nonempty
        simp only [List.length_append, List.length_singleton] at lengths
        have within : c :: back <+: c :: (back ++ rest) := List.prefix_append _ _
        have inside : c :: back <+: body :=
          List.prefix_of_prefix_length_le within ((List.prefix_append _ _).trans starts) (by omega)
        have ends : (c :: back).getLast? = some last := by
          rw [← List.getLast?_append_of_ne_nil front (List.cons_ne_nil _ _), split,
            List.getLast?_append_of_ne_nil _ (List.cons_ne_nil _ _)]
          rfl
        exact once (inside.subset (List.mem_of_getLast? ends))
      rw [List.cons_append, occurrences, if_neg nowhere, Nat.zero_add]
      exact ih (front ++ [c]) (by rw [List.append_assoc]; exact split) (by simp)
  generalize whole : body ++ [last] = text at later ⊢
  cases text with
  | nil => exact absurd whole (by simp)
  | cons c text =>
    have starts : c :: text <+: c :: (text ++ rest) := List.prefix_append _ _
    rw [List.cons_append, occurrences, if_pos starts, later text [c] rfl (List.cons_ne_nil _ _)]

end CalcBuild.Text

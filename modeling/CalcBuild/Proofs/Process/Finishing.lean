/-
**Processes that end.**

A process that nobody disturbs goes from step to step on the files as it leaves them. It finishes if
that comes to an end.

* `Programs.Finishes`: a process that comes to an end with a status, and the files that it leaves;
* `Programs.Finishes.next`: what is left of that after one step.
-/

import CalcBuild.Proofs.Process.Confined

namespace CalcBuild

open Files

variable {State : Type}

/-- Undisturbed, a process ends with a status after finitely many steps, and leaves some files; the
signals that it sends on the way are harmless. -/
inductive Programs.Finishes (programs : Programs State) (harmless : Nat → Prop) :
    FileSystem → State → FileSystem → WaitStatus → Prop where
  | ends {fs fs' : FileSystem} {state : State} {status : WaitStatus}
      (ends : programs.step fs state = (fs', .ends status)) :
      Finishes programs harmless fs state fs' status
  | goesOn {fs mid fs' : FileSystem} {state next : State} {move : Move State} {status : WaitStatus}
      (steps : programs.step fs state = (mid, move)) (moves : move.next? = some next)
      (signals : ∀ signal next, move = .signals signal next → harmless signal)
      (rest : Finishes programs harmless mid next fs' status) :
      Finishes programs harmless fs state fs' status

namespace Programs.Finishes

variable {programs : Programs State} {harmless : Nat → Prop} {fs fs' : FileSystem} {state : State}
  {status : WaitStatus}

/-- A process that finishes sends harmless signals only. -/
theorem signals (finishes : programs.Finishes harmless fs state fs' status) {signal : Nat}
    {next : State} (sends : (programs.step fs state).2 = .signals signal next) : harmless signal := by
  cases finishes with
  | ends ends =>
    rw [ends] at sends
    cases sends
  | goesOn steps _ signals _ =>
    rw [steps] at sends
    exact signals signal next sends

/-- **One step of a process that finishes** ends it, or leaves one that finishes. -/
theorem next (finishes : programs.Finishes harmless fs state fs' status) {child : Child State}
    (follows : child.Follows (programs.step fs state).2) :
    (child = .ended status ∧ (programs.step fs state).1 = fs') ∨
      ∃ next wakes, child = .running next wakes ∧
        programs.Finishes harmless (programs.step fs state).1 next fs' status := by
  cases finishes with
  | ends ends =>
    rw [ends] at follows ⊢
    cases child with
    | running next wakes => cases follows
    | ended status' =>
      cases follows
      exact .inl ⟨rfl, rfl⟩
  | goesOn steps moves _ rest =>
    rw [steps] at follows ⊢
    cases child with
    | running next wakes =>
      obtain rfl := Option.some.inj (follows.symm.trans moves)
      exact .inr ⟨_, wakes, rfl, rest⟩
    | ended status' =>
      cases follows
      cases moves

end Programs.Finishes

end CalcBuild

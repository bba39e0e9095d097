/-
**What a run of the driver complains about.**

Each failure has its place in a run. The signal handlers come first, then the tools, then the source,
and what goes wrong after that is a failure of the build. Only of a missing tool and of a build is it
told what the driver was doing.

* `BuildFailure.IsOfBuild`: the failures that a build can have;
* `Returned`: the complaints that a run can end with;
* `isOfBuild_of_turn`, `Comes.isOfBuild`: what one turn of a build fails with, and what a whole run does;
* `run_returned`: a run that fails ends with one of these complaints.
-/

import CalcBuild.CommandLine.Execution
import CalcBuild.Proofs.Build.Cancellation
import CalcBuild.Proofs.Toolchain.Resolution

namespace CalcBuild

variable {State : Type}

/-- The failures that a build can have; the others come before it. -/
def BuildFailure.IsOfBuild : BuildFailure → Prop
  | .toolNotFound _ | .inputRead .. | .signalSetup _ => False
  | _ => True

/-! ### Failures of a build -/

namespace Solo

variable {solo : Solo State}

/-- **What a turn fails with** is a failure that a build can have. -/
theorem isOfBuild_of_turn {before after : World} {run run' : BuildRun State} {events : List Event}
    {failure : BuildFailure} (turn : solo.Turn before run after run' events)
    (fails : run'.failure? = some failure) : run.failure? = some failure ∨ failure.IsOfBuild := by
  cases turn with
  | process phase _ _ _ _ _ => cases fails
  | own steps =>
    cases steps with
    | advanced _ steps =>
      cases steps with
      | rejected reason =>
        cases fails
        rcases rejection_cases reason with rfl | rfl <;> exact .inr trivial
      | _ => cases fails <;> exact .inr trivial
    | @opened _ workspace =>
      rw [(BuildRun.following_quiet _ (BuildRun.commands _ workspace _) rfl).2] at fails
      cases fails
    | @succeeded _ _ later =>
      rw [(BuildRun.following_quiet _ later rfl).2] at fails
      cases fails
    | sourceless | unstaged =>
      cases fails
      exact .inr trivial
    | unopened _ fails' =>
      cases fails
      obtain ⟨⟨_, rfl⟩, _⟩ := create_error fails'
      exact .inr trivial
    | unprepared _ fails' =>
      cases fails
      obtain ⟨_, rfl⟩ := prepare_error fails'
      exact .inr trivial
    | unreserved _ fails' =>
      cases fails
      obtain ⟨⟨_, rfl⟩, _⟩ := reserve_error fails'
      exact .inr trivial
    | unvacated _ fails' =>
      cases fails
      obtain ⟨_, rfl⟩ := vacate_error fails'
      exact .inr trivial
    | unpublished _ _ fails' =>
      cases fails
      obtain ⟨⟨_, rfl⟩, _⟩ := publish_error fails'
      exact .inr trivial
    | failed phase | withdrawn phase | abandoned phase =>
      exact .inl (by simp only [BuildRun.failure?, phase]; exact fails)
    | _ => cases fails

/-- **A build fails as a build can**, whatever turns it takes. -/
theorem Comes.isOfBuild {choices : List Choice} {world : World} {run : BuildRun State}
    {trace : List Event} (comes : solo.Comes choices world run trace) :
    ∀ failure, run.failure? = some failure → failure.IsOfBuild := by
  refine comes.induction (motive := fun _ _ run _ =>
    ∀ failure, run.failure? = some failure → failure.IsOfBuild) ?_ ?_ ?_
  · intro failure fails
    cases fails
  · exact fun _ _ _ _ ih => ih
  · intro choices choice before after run run' trace events _ _ turn ih failure fails
    exact (isOfBuild_of_turn turn fails).elim (ih failure) id

end Solo

namespace CommandLine

/-- The complaints that a run of the driver can end with. -/
inductive Returned : Complaint → Prop
  | signals (errno : Int) : Returned (.failed (.signalSetup errno))
  | tools (tool : Tool) :
      Returned (.during "failed to resolve toolchain" (.failed (.toolNotFound tool)))
  | source (path : Bytes) (cause : Cause) : Returned (.failed (.inputRead path cause))
  | build (path : Bytes) {failure : BuildFailure} (inside : failure.IsOfBuild) :
      Returned (.during ("failed to build " ++ Text.Utf8.lossy path) (.failed failure))

theorem read_error {fs : Files.FileSystem} {cwd : Files.Place} {path : Bytes} {output? : Option Bytes}
    {failure : BuildFailure} (fails : BuildRequest.read fs cwd path output? = .error failure) :
    ∃ cause, failure = .inputRead path cause := by
  unfold BuildRequest.read BuildRequest.ofContents at fails
  split at fails
  · cases fails
    exact ⟨_, rfl⟩
  · split at fails <;> cases fails
    exact ⟨_, rfl⟩

theorem prepare_error {site : Site} {files : Files.FileSystem} {invocation : Invocation}
    {complaint : Complaint} (fails : (prepare site files invocation).result = .error complaint) :
    Returned complaint := by
  unfold prepare at fails
  dsimp only at fails
  split at fails
  · rename_i failure unresolved
    cases fails
    obtain ⟨tool, rfl, _⟩ := Toolchain.resolve_eq_error_iff.mp unresolved
    exact .tools tool
  · split at fails
    · rename_i failure unread
      cases fails
      obtain ⟨cause, rfl⟩ := read_error unread
      exact .source _ _
    · cases fails

/-- **A run that fails ends with one of these complaints.** -/
theorem run_returned {programs : Programs State} {choices : List Choice} {site : Site}
    {invocation : Invocation} {world : World} {complaint : Complaint}
    (fails : (run programs choices site invocation world).ending = .failure complaint) :
    Returned complaint := by
  unfold run runWith at fails
  dsimp only at fails
  split at fails
  · rename_i unprepared
    cases fails
    exact prepare_error unprepared
  · rename_i builder request _
    unfold conclude ending at fails
    dsimp only at fails
    split at fails
    · cases fails
    · cases fails
    · rename_i failure _ result
      cases fails
      let solo : Solo State := ⟨programs, site.setting, builder, world, request⟩
      obtain ⟨_, run, _, comes⟩ := solo.exists_comes choices
      change buildResult? (solo.after choices) = _ at result
      unfold buildResult? at result
      rw [comes.jobs_eq] at result
      refine .build _ (comes.isOfBuild _ ?_)
      simp only [BuildRun.failure?, BuildRun.phase_of_result? result]
    · cases fails

end CommandLine

end CalcBuild

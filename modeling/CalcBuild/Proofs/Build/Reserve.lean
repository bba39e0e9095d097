/-
**Names that are reserved.**

Making something under a random name either makes it, under a path from the root, or changes no
files. This is so for workspaces and for the name that the linker writes to.

* `World.reserve_cases`: what a reservation comes to;
* `create_cases`, `reserve_cases`: making a workspace, and the empty file that the name of the linker is
  found by;
* `create_ok`, `reserve_ok`, `vacate_ok`, `publish_ok`: what it means that such a step succeeds;
* `create_error`, `prepare_error`, `reserve_error`, `vacate_error`, `publish_error`: and that it fails.
-/

import CalcBuild.Build.Staging
import CalcBuild.Build.Workspace
import CalcBuild.Proofs.Files.Growth

namespace CalcBuild

open Files

/-- The path from the root under which names are drawn in a directory. -/
def Setting.anchor (setting : Setting) (dir : Bytes) : Bytes :=
  if Path.isAbsolute dir then dir else Path.join setting.cwd.path dir

theorem Setting.isAbsolute_anchor (setting : Setting) (dir : Bytes) :
    Path.isAbsolute (setting.anchor dir) = true := by
  unfold anchor
  split
  · assumption
  · exact Path.isAbsolute_join _ (isAbsolute_path _)

namespace World

variable {setting : Setting} {make : FileSystem → Bytes → Except Fault FileSystem}

/-- A reservation in a directory makes something under one of the names drawn, or nothing. -/
theorem reserveWithin_cases {base stem : Bytes} {attempts : Nat} {world world' : World}
    {result : Except Cause Bytes}
    (reserves : world.reserveWithin setting make base stem attempts = (world', result)) :
    (∃ drawn, world.drawn ≤ drawn ∧ drawn < world'.drawn ∧
        result = .ok (Path.join base (stem ++ setting.names drawn)) ∧
        make world.files (Path.join base (stem ++ setting.names drawn)) = .ok world'.files) ∨
      (∃ cause, result = .error cause) ∧ world'.files = world.files := by
  induction attempts generalizing world with
  | zero =>
    cases reserves
    exact .inr ⟨⟨_, rfl⟩, rfl⟩
  | succ attempts ih =>
    unfold reserveWithin at reserves
    dsimp only at reserves
    split at reserves
    · rename_i files makes
      cases reserves
      exact .inl ⟨world.drawn, Nat.le_refl _, Nat.lt_succ_self _, rfl, makes⟩
    · refine (ih reserves).imp_left ?_
      rintro ⟨drawn, from_, before, rest⟩
      exact ⟨drawn, Nat.le_of_succ_le from_, before, rest⟩
    · cases reserves
      exact .inr ⟨⟨_, rfl⟩, rfl⟩

/-- **A reservation makes something under a name drawn for it**, or changes no files. -/
theorem reserve_cases {dir stem : Bytes} {world world' : World} {result : Except Cause Bytes}
    (reserves : world.reserve setting make dir stem = (world', result)) :
    (∃ drawn, world.drawn ≤ drawn ∧ drawn < world'.drawn ∧
        result = .ok (Path.join (setting.anchor dir) (stem ++ setting.names drawn)) ∧
        make world.files (Path.join (setting.anchor dir) (stem ++ setting.names drawn))
          = .ok world'.files) ∨
      (∃ cause, result = .error cause) ∧ world'.files = world.files := by
  unfold reserve at reserves
  unfold Setting.anchor
  split at reserves
  · rename_i absolute
    rw [if_pos absolute]
    exact reserveWithin_cases reserves
  · rename_i relative
    rw [if_neg relative]
    split at reserves
    · exact reserveWithin_cases reserves
    · cases reserves
      exact .inr ⟨⟨_, rfl⟩, rfl⟩

end World

/-- The name of a workspace is a name of its own if the random part is one. -/
theorem Workspace.isLeaf_name {part : Bytes} (plain : Path.slash ∉ part) :
    Path.IsLeaf (Workspace.stem ++ part) := by
  have stem : Workspace.stem = [0x63, 0x61, 0x6C, 0x63, 0x63] := by decide
  refine ⟨by simp [stem, FileSystem.isOrdinary, Path.here, Path.up], fun member => ?_⟩
  rcases List.mem_append.mp member with inStem | inPart
  · exact absurd inStem (by decide)
  · exact plain inPart

/-- **Making a workspace makes a new directory under a name drawn for it**, or changes no files. -/
theorem create_cases {setting : Setting} {root? : Option Bytes} {world world' : World}
    {result : Except BuildFailure Workspace}
    (creates : Workspace.create setting root? world = (world', result)) :
    (∃ workspace drawn, result = .ok workspace ∧ Path.isAbsolute workspace.path = true ∧
        workspace.path = Path.join (setting.anchor (root?.getD setting.temporaryRoot))
          (Workspace.stem ++ setting.names drawn) ∧
        world.files.makeDirectory setting.cwd workspace.path = .ok world'.files) ∨
      (∃ cause, result = .error (.workspaceCreate cause)) ∧ world'.files = world.files := by
  unfold Workspace.create at creates
  dsimp only at creates
  rw [Prod.mk.injEq] at creates
  obtain ⟨after, same⟩ := creates
  generalize reserves : world.reserve setting _ _ _ = made at after same
  obtain ⟨_, _⟩ := made
  dsimp only at after same
  subst after same
  rcases World.reserve_cases reserves with ⟨drawn, _, _, rfl, makes⟩ | ⟨⟨cause, rfl⟩, files⟩
  · have absolute := Path.isAbsolute_join (Workspace.stem ++ setting.names drawn)
      (setting.isAbsolute_anchor (root?.getD setting.temporaryRoot))
    exact .inl ⟨⟨_⟩, drawn, rfl, absolute, rfl, makes⟩
  · exact .inr ⟨⟨cause, rfl⟩, files⟩

/-- **Reserving a name for the linker makes a new empty file** under a name drawn for it, or changes no
files. -/
theorem reserve_cases {setting : Setting} {output : Bytes} {world world' : World}
    {result : Except BuildFailure Bytes}
    (reserves : Staging.reserve setting output world = (world', result)) :
    (∃ staging drawn, result = .ok staging ∧ Path.isAbsolute staging = true ∧
        world.files.createNew setting.cwd Staging.mode staging = .ok world'.files ∧
        world.drawn ≤ drawn ∧ drawn < world'.drawn ∧
        staging = Path.join (setting.anchor (Staging.directory output))
          (Staging.stem ++ setting.names drawn)) ∨
      (∃ cause, result = .error (.output output cause)) ∧ world'.files = world.files := by
  unfold Staging.reserve at reserves
  dsimp only at reserves
  rw [Prod.mk.injEq] at reserves
  obtain ⟨after, same⟩ := reserves
  generalize made_eq : world.reserve setting _ _ _ = made at after same
  obtain ⟨_, _⟩ := made
  dsimp only at after same
  subst after same
  rcases World.reserve_cases made_eq with ⟨drawn, from_, before, rfl, makes⟩ | ⟨⟨cause, rfl⟩, files⟩
  · have absolute := Path.isAbsolute_join (Staging.stem ++ setting.names drawn)
      (setting.isAbsolute_anchor (Staging.directory output))
    exact .inl ⟨_, drawn, rfl, absolute, makes, from_, before, rfl⟩
  · exact .inr ⟨⟨cause, rfl⟩, files⟩

/-! ### What succeeds, and what fails -/

section Outcomes

variable {setting : Setting} {root? : Option Bytes} {output staging : Bytes} {world world' : World}
  {files files' : FileSystem} {workspace : Workspace} {failure : BuildFailure}

/-- A workspace that was made is a new directory, at a path from the root. -/
theorem create_ok (creates : Workspace.create setting root? world = (world', .ok workspace)) :
    ∃ drawn, Path.isAbsolute workspace.path = true ∧
      workspace.path = Path.join (setting.anchor (root?.getD setting.temporaryRoot))
        (Workspace.stem ++ setting.names drawn) ∧
      world.files.makeDirectory setting.cwd workspace.path = .ok world'.files := by
  rcases create_cases creates with ⟨_, drawn, same, made⟩ | ⟨⟨_, other⟩, _⟩
  · cases same
    exact ⟨drawn, made⟩
  · cases other

theorem create_error (fails : Workspace.create setting root? world = (world', .error failure)) :
    (∃ cause, failure = .workspaceCreate cause) ∧ world'.files = world.files := by
  rcases create_cases fails with ⟨_, _, other, _⟩ | ⟨⟨cause, same⟩, files⟩
  · cases other
  · cases same
    exact ⟨⟨cause, rfl⟩, files⟩

/-- Preparing for the output makes directories on the way to it, whether it succeeds or not. -/
theorem prepare_madeBy {result : Except BuildFailure Unit}
    (prepares : Staging.prepare setting output world = (world', result)) :
    FileSystem.MadeBy setting.cwd (Path.ancestors (Staging.directory output)) world.files
      world'.files := by
  obtain rfl : _ = world' := congrArg Prod.fst prepares
  exact FileSystem.makeDirectories_madeBy world.files setting.cwd (Staging.directory output)

theorem prepare_error (fails : Staging.prepare setting output world = (world', .error failure)) :
    ∃ cause, failure = .output output cause := by
  have same := congrArg Prod.snd fails
  unfold Staging.prepare at same
  dsimp only at same
  cases made : (world.files.makeDirectories setting.cwd (Staging.directory output)).2 with
  | ok _ =>
    rw [made] at same
    cases same
  | error cause =>
    rw [made] at same
    cases same
    exact ⟨cause, rfl⟩

/-- A name that was reserved for the linker is that of a new empty file, at a path from the root. -/
theorem reserve_ok (reserves : Staging.reserve setting output world = (world', .ok staging)) :
    ∃ drawn, Path.isAbsolute staging = true ∧
      world.files.createNew setting.cwd Staging.mode staging = .ok world'.files ∧
      world.drawn ≤ drawn ∧ drawn < world'.drawn ∧
      staging = Path.join (setting.anchor (Staging.directory output))
        (Staging.stem ++ setting.names drawn) := by
  rcases reserve_cases reserves with ⟨_, drawn, same, made⟩ | ⟨⟨_, other⟩, _⟩
  · cases same
    exact ⟨drawn, made⟩
  · cases other

theorem reserve_error (fails : Staging.reserve setting output world = (world', .error failure)) :
    (∃ cause, failure = .output output cause) ∧ world'.files = world.files := by
  rcases reserve_cases fails with ⟨_, _, other, _⟩ | ⟨⟨cause, same⟩, files⟩
  · cases other
  · cases same
    exact ⟨⟨cause, rfl⟩, files⟩

/-- A name that was vacated was unlinked. -/
theorem vacate_ok (vacates : Staging.vacate setting output staging files = (files', .ok ())) :
    files.unlink setting.cwd staging = .ok files' := by
  unfold Staging.vacate at vacates
  split at vacates <;> cases vacates
  assumption

theorem vacate_error (fails : Staging.vacate setting output staging files = (files', .error failure)) :
    ∃ cause, failure = .output output cause := by
  unfold Staging.vacate at fails
  split at fails <;> cases fails
  exact ⟨_, rfl⟩

/-- What was published was renamed from the name for the linker to the output. -/
theorem publish_ok (publishes : Staging.publish setting output staging files = (files', .ok ())) :
    files.rename setting.cwd staging output = .ok files' := by
  unfold Staging.publish at publishes
  split at publishes <;> cases publishes
  assumption

/-- A rename that fails changes no files. -/
theorem publish_error
    (fails : Staging.publish setting output staging files = (files', .error failure)) :
    (∃ cause, failure = .output output cause) ∧ files' = files := by
  unfold Staging.publish at fails
  split at fails <;> cases fails
  exact ⟨⟨_, rfl⟩, rfl⟩

end Outcomes

end CalcBuild

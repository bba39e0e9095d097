/-
**What time and the flag have no part in.**

Making a workspace and preparing the output depend on the files and on how many names have been drawn,
and on nothing else of the world.

* `World.untimed`: a world without its time and its flag;
* `World.reserve_untimed`, `Workspace.create_untimed`, `Staging.prepare_untimed`,
  `Staging.reserve_untimed`: operations that leave both aside.
-/

import CalcBuild.Build.Staging
import CalcBuild.Build.Workspace

namespace CalcBuild

open Files

namespace World

/-- The world at the time zero, with the flag lowered. -/
def untimed (world : World) : World := { world with flag := .lowered, clock := 0 }

@[simp]
theorem untimed_files (world : World) : world.untimed.files = world.files := rfl

@[simp]
theorem untimed_drawn (world : World) : world.untimed.drawn = world.drawn := rfl

/-- What is left of a world are its files and how many names have been drawn. -/
theorem untimed_eq_iff {world other : World} :
    other.untimed = world.untimed ↔ other.files = world.files ∧ other.drawn = world.drawn := by
  simp [untimed]

variable (setting : Setting) (make : FileSystem → Bytes → Except Fault FileSystem)

theorem reserveWithin_untimed (base stem : Bytes) (attempts : Nat) (world : World) :
    world.untimed.reserveWithin setting make base stem attempts =
      ((world.reserveWithin setting make base stem attempts).1.untimed,
        (world.reserveWithin setting make base stem attempts).2) := by
  induction attempts generalizing world with
  | zero => rfl
  | succ attempts ih =>
    unfold reserveWithin
    dsimp only [untimed_files, untimed_drawn]
    split
    · rfl
    · exact ih { world with drawn := world.drawn + 1 }
    · rfl

/-- **A reservation leaves time and the flag aside.** -/
theorem reserve_untimed (dir stem : Bytes) (world : World) :
    world.untimed.reserve setting make dir stem =
      ((world.reserve setting make dir stem).1.untimed, (world.reserve setting make dir stem).2) := by
  unfold reserve
  rw [untimed_files]
  split
  · exact reserveWithin_untimed ..
  · split
    · exact reserveWithin_untimed ..
    · rfl

end World

variable (setting : Setting) (world : World)

theorem Workspace.create_untimed (root? : Option Bytes) :
    Workspace.create setting root? world.untimed =
      ((Workspace.create setting root? world).1.untimed, (Workspace.create setting root? world).2) := by
  unfold Workspace.create
  dsimp only
  rw [World.reserve_untimed]

theorem Staging.prepare_untimed (output : Bytes) :
    Staging.prepare setting output world.untimed =
      ((Staging.prepare setting output world).1.untimed, (Staging.prepare setting output world).2) :=
  rfl

theorem Staging.reserve_untimed (output : Bytes) :
    Staging.reserve setting output world.untimed =
      ((Staging.reserve setting output world).1.untimed, (Staging.reserve setting output world).2) := by
  unfold Staging.reserve
  dsimp only
  rw [World.reserve_untimed]

end CalcBuild

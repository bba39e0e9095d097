/-
**What a build holds, and what it leaves alone.**

From the moment it has a workspace until it lets go of it, a build on its own changes nothing but what
is in the workspace, the name that the linker writes to, and missing directories on the way to the
output. This module states that for each step of the build and of its processes.

* `Solo.Kept`: an entry that is as it was before, or one of the directories made for the output;
* `Solo.Held`: the workspace, and that everything outside of it is kept;
* `Solo.Staged`: the name that the linker writes to, and that everything else is as it was;
* `Held.grow`, `Held.touch`, `Held.release`: what steps leave of a workspace;
* `Staged.touch`, `Staged.discard`: what steps leave of a name for the linker.
-/

import CalcBuild.Proofs.Build.Order

namespace CalcBuild

open Files FileSystem

variable {State : Type}

namespace Solo

variable (solo : Solo State)

/-! ### What may be new -/

/-- A directory on the way to the output that was missing: the first three stages had succeeded, and
at some moment a path to the directory of the output denoted it. -/
def MadeParent (choices : List Choice) (place : Place) : Prop :=
  (∀ stage ∈ [Stage.runtimeCompile, .frontendCompile, .lower],
    ∃ command status, command.stage = stage ∧ solo.Succeeded choices command status) ∧
  ∃ earlier world run trace, earlier <+: choices ∧ solo.Comes earlier world run trace ∧
    ∃ path ∈ Path.ancestors (Staging.directory solo.request.output),
      world.files.placeOf solo.setting.cwd path = some place

/-- An entry is as it was before the build, or is one of the missing directories. -/
def Kept (choices : List Choice) (fs : FileSystem) (place : Place) : Prop :=
  fs.get? place = solo.world.files.get? place ∨
    solo.world.files.get? place = none ∧ fs.get? place = some (.directory Mode.ofDirectory) ∧
      solo.MadeParent choices place

variable {solo}

theorem MadeParent.mono {choices choices' : List Choice} {place : Place}
    (made : solo.MadeParent choices place) (longer : choices <+: choices') :
    solo.MadeParent choices' place := by
  obtain ⟨succeeded, earlier, world, run, trace, shorter, rest⟩ := made
  refine ⟨fun stage member => ?_, earlier, world, run, trace, shorter.trans longer, rest⟩
  obtain ⟨command, status, same, done⟩ := succeeded stage member
  exact ⟨command, status, same, done.mono longer⟩

theorem Kept.mono {choices choices' : List Choice} {fs : FileSystem} {place : Place}
    (kept : solo.Kept choices fs place) (longer : choices <+: choices') :
    solo.Kept choices' fs place :=
  kept.imp_right fun ⟨free, directory, made⟩ => ⟨free, directory, made.mono longer⟩

theorem Kept.congr {choices : List Choice} {fs fs' : FileSystem} {place : Place}
    (kept : solo.Kept choices fs place) (same : fs'.get? place = fs.get? place) :
    solo.Kept choices fs' place := by
  unfold Kept at kept ⊢
  rwa [same]

variable (solo)

/-! ### The workspace -/

/-- A build holds a workspace: its path denoted a free place when it was made, it is a directory all of
whose directories are new, and everything outside of it is kept, apart from some places. -/
structure Held (choices : List Choice) (fs : FileSystem) (workspace : Workspace) (dir : Place)
    (name : Bytes) (but : Place → Prop) : Prop where
  sound : fs.Sound
  absolute : Path.isAbsolute workspace.path = true
  denoted : ∃ slashed,
    solo.world.files.ending solo.setting.cwd workspace.path = .ok (.name dir name slashed)
  short : name.length ≤ longestName
  free : solo.world.files.get? (name :: dir) = none
  allowed : solo.world.files.mayChange dir = true
  own : fs.isDirectoryAt (name :: dir) = true
  modes : ∀ place mode, isWithin (name :: dir) place = true →
    fs.get? place = some (.directory mode) → mode = Mode.ofDirectory
  outside : ∀ place, ¬ isWithin (name :: dir) place = true → ¬ but place →
    solo.Kept choices fs place

/-- A build holds a name for the linker: apart from what is there, and that is no directory, the files
are those among which the name was free. -/
structure Staged (fs : FileSystem) (staging : Bytes) (dir : Place) (name : Bytes) : Prop where
  absolute : Path.isAbsolute staging = true
  free : solo.world.files.get? (name :: dir) = none
  leaf : fs.isDirectoryAt (name :: dir) = false
  short : name.length ≤ longestName
  base : ∃ base : FileSystem, base.Closed ∧
    base.ending solo.setting.cwd staging = .ok (.name dir name false) ∧
    base.get? (name :: dir) = none ∧ base.mayChange dir = true ∧
    ∀ place, place ≠ name :: dir → fs.get? place = base.get? place

variable {solo}

namespace Held

variable {choices choices' : List Choice} {fs fs' : FileSystem} {workspace : Workspace} {dir : Place}
  {name : Bytes} {but : Place → Prop}

theorem mono (held : solo.Held choices fs workspace dir name but) (longer : choices <+: choices') :
    solo.Held choices' fs workspace dir name but :=
  { held with outside := fun place outside other => (held.outside place outside other).mono longer }

/-- Everything that was there before is still there. -/
theorem extends_ (closed : solo.world.files.Closed)
    (held : solo.Held choices fs workspace dir name but)
    (new : ∀ place, but place → solo.world.files.get? place = none) :
    fs.Extends solo.world.files := by
  intro place listed
  have outside : ¬ isWithin (name :: dir) place = true := by
    intro within
    rw [get?_within_free closed held.free within] at listed
    cases listed
  have other : ¬ but place := by
    intro excepted
    rw [new place excepted] at listed
    cases listed
  rcases held.outside place outside other with same | ⟨free, _⟩
  · exact same
  · rw [free] at listed
    cases listed

/-- **The path of the workspace still denotes it.** -/
theorem ends (closed : solo.world.files.Closed)
    (held : solo.Held choices fs workspace dir name but)
    (new : ∀ place, but place → solo.world.files.get? place = none) :
    ∃ slashed, fs.ending solo.setting.cwd workspace.path = .ok (.name dir name slashed) := by
  obtain ⟨slashed, denoted⟩ := held.denoted
  exact ⟨slashed, ending_extends closed (held.extends_ closed new) (start_present held.absolute)
    denoted⟩

/-- **Making missing directories** of the output keeps the workspace. -/
theorem grow (held : solo.Held choices fs workspace dir name but) (grows : fs'.Grows fs)
    (sound : fs'.Sound) (made : ∀ place, fs.get? place = none → fs'.get? place ≠ none →
      solo.MadeParent choices place) :
    solo.Held choices fs' workspace dir name but := by
  obtain ⟨mode, found⟩ := isDirectoryAt_iff.mp held.own
  refine { held with sound := sound, own := ?_, modes := ?_, outside := ?_ }
  · rw [isDirectoryAt_iff, grows.extends _ (by rw [found]; rfl)]
    exact ⟨mode, found⟩
  · intro place mode within directory
    rcases grows place with same | ⟨_, new⟩
    · exact held.modes place mode within (same ▸ directory)
    · rw [new] at directory
      cases directory
      rfl
  · intro place outside other
    have kept := held.outside place outside other
    rcases grows place with same | ⟨free, new⟩
    · exact kept.congr same
    · rcases kept with same | ⟨_, directory, _⟩
      · exact .inr ⟨same ▸ free, new, made place free (by rw [new]; exact nofun)⟩
      · rw [free] at directory
        cases directory

/-- What is excepted no longer has to be when it is kept. -/
theorem settle (held : solo.Held choices fs workspace dir name but)
    (settled : ∀ place, but place → solo.Kept choices fs place) :
    solo.Held choices fs workspace dir name fun _ => False := by
  refine { held with outside := fun place outside _ => ?_ }
  by_cases excepted : but place
  · exact settled place excepted
  · exact held.outside place outside excepted

/-- **What a change of one path leaves of the workspace**, if what the path denotes is in it or is
excepted. -/
theorem touch (held : solo.Held choices fs workspace dir name but) {path : Bytes}
    (touched : Touched solo.setting.cwd path fs fs') {but' : Place → Prop}
    (fewer : ∀ place, but place → but' place)
    (inside : ∀ place, fs.placeOf solo.setting.cwd path = some place →
      isWithin (name :: dir) place = true ∨ but' place) :
    solo.Held choices fs' workspace dir name but' := by
  refine { held with sound := touched.sound, own := ?_, modes := ?_, outside := ?_ }
  · obtain ⟨mode, found⟩ := isDirectoryAt_iff.mp held.own
    exact isDirectoryAt_iff.mpr ⟨mode, touched.directory_iff.mpr found⟩
  · intro place mode within directory
    exact held.modes place mode within (touched.directory_iff.mp directory)
  · intro place outside other
    refine (held.outside place outside fun excepted => other (fewer place excepted)).congr ?_
    refine (touched.frame place).resolve_right fun changed => ?_
    exact (inside place changed.1).elim outside other

/-- **Removing the workspace** leaves nothing but what is kept. -/
theorem release (closed : solo.world.files.Closed)
    (held : solo.Held choices fs workspace dir name fun _ => False) :
    workspace.discard solo.setting fs = fs.dropBelow (name :: dir) ∧
      ∀ place, solo.Kept choices (fs.dropBelow (name :: dir)) place := by
  obtain ⟨slashed, ends⟩ := held.ends closed fun _ => False.elim
  obtain ⟨mode, directory, _, _⟩ := mayChange_iff.mp held.allowed
  have parent : fs.get? dir = solo.world.files.get? dir :=
    held.extends_ closed (fun _ => False.elim) dir (by rw [directory]; rfl)
  have allowed : fs.mayChange dir = true := by
    rw [mayChange_congr parent]
    exact held.allowed
  constructor
  · unfold Workspace.discard Workspace.remove
    rw [removeAll_eq held.sound ends held.short held.own held.modes allowed]
  · intro place
    unfold Kept
    rw [get?_dropBelow fs place (List.cons_ne_nil name dir)]
    by_cases within : isWithin (name :: dir) place = true
    · rw [if_pos within, get?_within_free closed held.free within]
      exact .inl rfl
    · rw [if_neg within]
      exact held.outside place within id

end Held

namespace Staged

variable {fs fs' : FileSystem} {staging : Bytes} {dir : Place} {name : Bytes}

/-- **The name for the linker still denotes its place.** -/
theorem ends (staged : solo.Staged fs staging dir name) :
    fs.ending solo.setting.cwd staging = .ok (.name dir name false) := by
  obtain ⟨base, closed, ends, free, _, same⟩ := staged.base
  refine ending_extends closed (fun place listed => same place ?_) (start_present staged.absolute)
    ends
  rintro rfl
  rw [free] at listed
  cases listed

theorem placeOf (staged : solo.Staged fs staging dir name) :
    fs.placeOf solo.setting.cwd staging = some (name :: dir) := by
  unfold FileSystem.placeOf
  rw [staged.ends]

/-- A change at the name keeps everything else. -/
theorem touch (staged : solo.Staged fs staging dir name)
    (touched : Touched solo.setting.cwd staging fs fs') : solo.Staged fs' staging dir name := by
  obtain ⟨base, closed, ends, free, allowed, same⟩ := staged.base
  exact { staged with
    leaf := touched.leaf staged.leaf
    base := ⟨base, closed, ends, free, allowed, fun place differs =>
      (touched.elsewhere staged.placeOf differs).trans (same place differs)⟩ }

/-- **Unlinking the name** leaves nothing there. -/
theorem discard (staged : solo.Staged fs staging dir name) :
    (Staging.discard solo.setting staging fs).get? (name :: dir) = none := by
  obtain ⟨base, _, _, _, allowed, same⟩ := staged.base
  have parent : fs.mayChange dir = true := by
    rw [mayChange_congr (same dir fun equal => ?_)]
    · exact allowed
    · exact absurd (congrArg List.length equal) (by simp)
  unfold Staging.discard
  cases unlinks : fs.unlink solo.setting.cwd staging with
  | ok fs' =>
    obtain ⟨_, _, _, ends, _, _, _, _, rfl⟩ := unlink_eq_ok_iff.mp unlinks
    rw [staged.ends] at ends
    cases ends
    exact (get?_drop _ _ (List.cons_ne_nil name dir)).trans (if_pos rfl)
  | error fault =>
    by_contra listed
    obtain ⟨entry, found⟩ := Option.ne_none_iff_exists'.mp listed
    have plain : entry.isDirectory = false := by
      cases entry with
      | directory mode =>
        have directory := isDirectoryAt_iff.mpr ⟨mode, found⟩
        rw [staged.leaf] at directory
        cases directory
      | _ => rfl
    rw [unlink_eq_ok_iff.mpr ⟨dir, name, entry, staged.ends, staged.short, found, plain, parent, rfl⟩]
      at unlinks
    cases unlinks

end Staged

/-- Removing what is at a name touches what the name denotes. -/
theorem discard_touched {setting : Setting} {staging : Bytes} {fs : FileSystem} (sound : fs.Sound) :
    Touched setting.cwd staging fs (Staging.discard setting staging fs) := by
  unfold Staging.discard
  cases unlinks : fs.unlink setting.cwd staging with
  | ok fs' => exact unlink_touched sound unlinks
  | error fault => exact .refl sound

theorem vacate_eq (setting : Setting) (output staging : Bytes) (fs : FileSystem) :
    (Staging.vacate setting output staging fs).1 = Staging.discard setting staging fs := by
  unfold Staging.discard Staging.vacate
  cases fs.unlink setting.cwd staging <;> rfl

end Solo

end CalcBuild

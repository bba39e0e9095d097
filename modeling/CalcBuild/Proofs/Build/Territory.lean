/-
**What belongs to a build.**

A build owns what is in its workspace and what is at the name that it holds for the linker. Apart from
the directories that it makes for its output, and from the output, it changes nothing else. So a path
that leads through nothing that builds own keeps denoting what it denotes.

* `BuildRun.InWorkspace`, `BuildRun.AtStaging`, `BuildRun.Owns`: what a build owns;
* `BuildRun.Placed`: the name for the linker denotes a place that is no directory;
* `BuildRun.Effect.frame`: what a turn changes is owned, or is a directory or the output;
* `BuildRun.Effect.ending_kept`, `BuildRun.Effect.placed`: what paths keep denoting.
-/

import CalcBuild.Proofs.Build.Footprint
import CalcBuild.Proofs.Files.Beside

namespace CalcBuild

open Files FileSystem

variable {State : Type}

namespace BuildRun

/-- A place in the workspace that a build holds: at or below what the path of the workspace leads to. -/
def InWorkspace (setting : Setting) (fs : FileSystem) (run : BuildRun State) (place : Place) : Prop :=
  ∃ workspace follow root entry, run.workspace? = some workspace ∧
    fs.find setting.cwd follow workspace.path = .ok (root, entry) ∧ isWithin root place = true

/-- The place of the name for the linker that a build holds. -/
def AtStaging (setting : Setting) (fs : FileSystem) (run : BuildRun State) (place : Place) : Prop :=
  ∃ staging, run.staging? = some staging ∧ fs.placeOf setting.cwd staging = some place

/-- What a build owns. -/
def Owns (setting : Setting) (fs : FileSystem) (run : BuildRun State) (place : Place) : Prop :=
  run.InWorkspace setting fs place ∨ run.AtStaging setting fs place

/-- The name for the linker, if a build holds one, denotes a place that is no directory. -/
def Placed (setting : Setting) (fs : FileSystem) (run : BuildRun State) : Prop :=
  ∀ staging, run.staging? = some staging → ∃ dir name,
    fs.ending setting.cwd staging = .ok (.name dir name false) ∧ name.length ≤ longestName ∧
    fs.isDirectoryAt (name :: dir) = false

variable {setting : Setting} {run run' : BuildRun State} {fs fs' : FileSystem} {place : Place}

/-- What a turn does to a place. -/
inductive Changed (setting : Setting) (run run' : BuildRun State) (fs fs' : FileSystem)
    (place : Place) : Prop where
  | kept (same : fs'.get? place = fs.get? place)
  | owned (owns : run.Owns setting fs place)
  | new (owns : run'.Owns setting fs' place) (free : fs.get? place = none)
  | made (grows : fs'.Grows fs) (path : Bytes) (member : path ∈ Path.ancestors (Staging.directory run.request.output))
      (denotes : fs'.placeOf setting.cwd path = some place) (free : fs.get? place = none)
      (directory : fs'.get? place = some (.directory Mode.ofDirectory))
  | moved (phase : run.phase = .publishing)
      (denotes : fs.placeOf setting.cwd run.request.output = some place) (source : Place)
      (owns : run.AtStaging setting fs source) (entry : Entry) (found : fs.get? source = some entry)
      (arrives : fs'.get? place = some entry)

/-- Moving what is at the name for the linker to the output changes these two places only. -/
theorem changed_published (sound : fs.Sound) (placed : run.Placed setting fs) {staging : Bytes}
    (phase : run.phase = .publishing) (holds : run.staging? = some staging)
    (renames : fs.rename setting.cwd staging run.request.output = .ok fs') (place : Place) :
    Changed setting run run' fs fs' place := by
  obtain ⟨dir, name, ends, short, leaf⟩ := placed staging holds
  have owns : run.AtStaging setting fs (name :: dir) := ⟨staging, holds, placeOf_of_ending ends⟩
  cases found : fs.get? (name :: dir) with
  | none =>
    obtain ⟨_, _, _, _, _, _, ends', _, ⟨_, rfl⟩ | ⟨_, listed, _⟩⟩ := rename_cases renames
    · exact .kept rfl
    · rw [ends] at ends'
      cases ends'
      rw [found] at listed
      cases listed
  | some entry =>
    have plain := isDirectory_of_leaf found leaf
    obtain ⟨dir', name', ends', _, moved⟩ :=
      (rename_leaf_iff sound.closed ends short found plain).mp renames
    rcases moved with ⟨_, rfl⟩ | ⟨differs, _, _, leaf', rfl⟩
    · exact .kept rfl
    · have view := sound.get?_move (List.cons_ne_nil name dir) (List.cons_ne_nil name' dir') found plain
        leaf' place
      by_cases target : place = name' :: dir'
      · subst target
        rw [if_pos rfl] at view
        exact .moved phase (placeOf_of_ending ends') (name :: dir) owns entry found view
      · rw [if_neg target] at view
        by_cases source : place = name :: dir
        · exact .owned (.inr (source ▸ owns))
        · rw [if_neg source] at view
          exact .kept view

/-- **What a turn changes** is owned by the build before or after it, is a directory made for the output,
or is the output. -/
theorem Effect.frame (sound : fs.Sound) (placed : run.Placed setting fs)
    (effect : Effect setting run run' fs fs') (place : Place) :
    Changed setting run run' fs fs' place := by
  cases effect with
  | nothing files _ _ => exact .kept (files ▸ rfl)
  | @opened workspace holds _ _ makes =>
    have grows := makeDirectory_grows makes
    rcases grows place with same | ⟨free, new⟩
    · exact .kept same
    · obtain ⟨dir, name, slashed, ends, short, unlisted, _, shape⟩ := makeDirectory_eq_ok_iff.mp makes
      have proper := List.cons_ne_nil name dir
      have here : place = name :: dir := by
        by_contra differs
        rw [shape, get?_put _ _ _ proper, if_neg differs, free] at new
        cases new
      subst here
      have finds := find_directory (ending_grows grows ends) short new false
      exact .new (.inl ⟨workspace, false, _, _, holds, finds, isWithin_self _⟩) free
  | @worked workspace leaf holds absolute _ _ _ isLeaf touched =>
    rcases touched.frame place with same | ⟨denotes, _⟩
    · exact .kept same
    · obtain ⟨dir, name, rfl, ends⟩ := placeOf_eq_some_iff.mp denotes
      obtain ⟨entry, finds⟩ := find_of_join absolute isLeaf ends
      exact .owned (.inl ⟨workspace, true, dir, entry, holds, finds,
        isWithin_cons name (isWithin_self dir)⟩)
  | prepared _ _ _ made =>
    rcases made.grows place with same | ⟨free, new⟩
    · exact .kept same
    · obtain ⟨path, member, denotes⟩ := made.denoted free (by rw [new]; exact nofun)
      exact .made made.grows path member denotes free new
  | @reserved staging _ holds _ _ makes =>
    obtain ⟨dir, name, ends, _, free, _, shape⟩ := createNew_eq_ok_iff.mp makes
    have proper := List.cons_ne_nil name dir
    by_cases here : place = name :: dir
    · subst here
      have extension : fs'.Extends fs := shape ▸ extends_put _ proper free
      have absolute : Path.isAbsolute staging = true := by assumption
      have ends' := ending_extends sound.closed extension (start_present absolute) ends
      exact .new (.inr ⟨staging, holds, placeOf_of_ending ends'⟩) free
    · exact .kept (by rw [shape, get?_put _ _ _ proper, if_neg here])
  | @linked staging holds _ _ touched =>
    rcases touched.frame place with same | ⟨denotes, _⟩
    · exact .kept same
    · exact .owned (.inr ⟨staging, holds, denotes⟩)
  | published phase holds _ _ renames =>
    exact changed_published sound placed phase holds renames place
  | @removed workspace holds _ _ _ files =>
    subst files
    rcases removeAll_shrunk sound setting.cwd workspace.path with same | ⟨found, entry, finds, shrunk⟩
    · exact .kept (by rw [same])
    · rcases shrunk.frame place with same | ⟨within, _⟩
      · exact .kept same
      · exact .owned (.inl ⟨workspace, false, found, entry, holds, finds, within⟩)

/-- **What a path denotes it keeps denoting** in a turn, if nothing that is owned, and no output, is on the
way. -/
theorem Effect.ending_kept (sound : fs.Sound) (placed : run.Placed setting fs)
    (effect : Effect setting run run' fs fs') {path : Bytes} {dir : Place} {name : Bytes}
    {slashed : Bool} (ends : fs.ending setting.cwd path = .ok (.name dir name slashed))
    (unowned : ∀ place ∈ fs.lookedAt setting.cwd path,
      ¬ run.Owns setting fs place ∧ ¬ run'.Owns setting fs' place)
    (unaimed : ∀ place ∈ fs.lookedAt setting.cwd path,
      fs.placeOf setting.cwd run.request.output ≠ some place) :
    fs'.ending setting.cwd path = .ok (.name dir name slashed) := by
  by_cases grows : fs'.Grows fs
  · exact ending_grows grows ends
  · rw [ending_congr fun place member => ?_, ends]
    cases effect.frame sound placed place with
    | kept same => exact same
    | owned owns => exact absurd owns (unowned place member).1
    | new owns _ => exact absurd owns (unowned place member).2
    | moved _ denotes _ _ _ _ _ => exact absurd denotes (unaimed place member)
    | made grown _ _ _ _ _ => exact absurd grown grows

/-- The name that a build goes on to hold is placed after a turn, if the way to it is clear. -/
theorem Effect.placed (sound : fs.Sound) (placed : run.Placed setting fs)
    (effect : Effect setting run run' fs fs')
    (unowned : ∀ staging, run.staging? = some staging →
      ∀ place ∈ fs.lookedAt setting.cwd staging,
        ¬ run.Owns setting fs place ∧ ¬ run'.Owns setting fs' place)
    (unaimed : ∀ staging, run.staging? = some staging →
      ∀ place ∈ fs.lookedAt setting.cwd staging,
        fs.placeOf setting.cwd run.request.output ≠ some place) :
    run'.Placed setting fs' := by
  intro staging held
  by_cases before : run.staging? = some staging
  · obtain ⟨dir, name, ends, short, leaf⟩ := placed staging before
    exact ⟨dir, name, effect.ending_kept sound placed ends (unowned staging before)
      (unaimed staging before), short, (effect.atName sound before (.inr held)).leaf leaf⟩
  · cases effect with
    | reserved _ holds _ absolute makes =>
      obtain rfl : _ = staging := Option.some.inj (holds.symm.trans held)
      obtain ⟨dir, name, ends, short, free, _, rfl⟩ := createNew_eq_ok_iff.mp makes
      have proper := List.cons_ne_nil name dir
      refine ⟨dir, name, ending_extends sound.closed (extends_put _ proper free)
        (start_present absolute) ends, short, ?_⟩
      exact isDirectoryAt_leaf ((get?_put _ _ _ proper).trans (if_pos rfl)) rfl
    | nothing _ _ stagings | opened _ stagings _ _ | worked _ _ _ _ stagings _ _
    | prepared _ _ stagings _ | removed _ _ _ stagings _ => exact absurd (stagings ▸ held) before
    | linked _ stagings _ _ =>
      rcases stagings with same | none_left
      · exact absurd (same ▸ held) before
      · rw [none_left] at held
        cases held
    | published _ _ unstaged _ _ =>
      rw [unstaged] at held
      cases held

end BuildRun

end CalcBuild

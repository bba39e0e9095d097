/-
**Making missing directories.**

`makeDirectories` makes the directories on the way to a path that are missing, the outermost first,
and may come to an end before it is done. Either way all it does is to make one directory after the
other, each at a free place.

* `Grows`: free places have become directories, and nothing else has changed;
* `walk_grows`, `ending_grows`: what was found and denoted before still is;
* `MadeBy`, `makeDirectories_madeBy`: one directory after the other is made;
* `MadeBy.grows`, `MadeBy.sound`, `MadeBy.denoted`: what follows for what was there, and for what is
  new: one of the paths denotes it.
-/

import CalcBuild.Proofs.Files.Effect

namespace CalcBuild.Files.FileSystem

/-! ### Growth -/

/-- Some free places have become directories, and nothing else has changed. -/
def Grows (fs' fs : FileSystem) : Prop :=
  ∀ place, fs'.get? place = fs.get? place ∨
    fs.get? place = none ∧ fs'.get? place = some (.directory Mode.ofDirectory)

theorem Grows.refl (fs : FileSystem) : fs.Grows fs := fun _ => .inl rfl

theorem Grows.trans {fs fs' fs'' : FileSystem} (later : fs''.Grows fs') (earlier : fs'.Grows fs) :
    fs''.Grows fs := by
  intro place
  rcases later place with same | ⟨free, made⟩
  · rw [same]
    exact earlier place
  · rcases earlier place with same' | ⟨_, made'⟩
    · exact .inr ⟨same' ▸ free, made⟩
    · rw [made'] at free
      cases free

theorem Grows.extends {fs fs' : FileSystem} (grows : fs'.Grows fs) : fs'.Extends fs := by
  intro place listed
  rcases grows place with same | ⟨free, _⟩
  · exact same
  · rw [free] at listed
    cases listed

/-- A place is as it was, or was free and has become a directory. -/
def GrowsAt (fs' fs : FileSystem) (place : Place) : Prop :=
  fs'.get? place = fs.get? place ∨
    fs.get? place = none ∧ fs'.get? place = some (.directory Mode.ofDirectory)

/-- A hop that goes on, or ends at an entry, is the same after growth of what it looks at: also from a
place that was free, since only names that lead no deeper are taken from there. -/
theorem hop_grows {fs fs' : FileSystem} {follow : Bool} {links : Nat} {at_ : Place} {name : Bytes}
    {rest : List Bytes} (here : fs'.GrowsAt fs at_)
    (there : isOrdinary name = true → fs'.GrowsAt fs (name :: at_))
    (goes : (∃ links' at' names', fs.hop follow links at_ name rest = .go links' at' names') ∨
      ∃ found, fs.hop follow links at_ name rest = .stop (.ok (.present found))) :
    fs'.hop follow links at_ name rest = fs.hop follow links at_ name rest := by
  rcases here with here | ⟨free, made⟩
  · refine hop_congr here fun ordinary => ?_
    rcases there ordinary with there | ⟨free, _⟩
    · exact there
    · exfalso
      have proper := isOrdinary_iff.mp ordinary
      unfold hop at goes
      rw [free] at goes
      repeat' split at goes
      all_goals simp_all
  · have enters : Mode.ofDirectory.mayEnter = true := by decide
    unfold hop at goes ⊢
    rw [free] at goes
    rw [free, made]
    have special : name = [] ∨ name = Path.here ∨ name = Path.up := by
      by_contra ordinary
      rw [not_or, not_or] at ordinary
      simp [ordinary] at goes
    rcases special with rfl | rfl | rfl <;> simp [Path.here, Path.up, enters]

/-- **What was found is found again after growth.** -/
theorem walk_grows {fs fs' : FileSystem} (grows : fs'.Grows fs) {follow : Bool} {links : Nat}
    {at_ : Place} {names : List Bytes} {found : Place}
    (finds : fs.walk follow links at_ names = .ok (.present found)) :
    fs'.walk follow links at_ names = .ok (.present found) := by
  induction links, at_, names using hop_induction fs follow with
  | done links at_ => rwa [walk_nil] at finds ⊢
  | stop links at_ name rest result stops =>
    rw [walk_cons, stops] at finds
    subst finds
    rw [walk_cons, hop_grows (grows _) (fun _ => grows _) (.inr ⟨_, stops⟩), stops]
  | go links at_ name rest links' at' names' goes ih =>
    rw [walk_cons, goes] at finds
    rw [walk_cons, hop_grows (grows _) (fun _ => grows _) (.inl ⟨_, _, _, goes⟩), goes]
    exact ih finds

/-- A lookup looked at the same places before growth, and perhaps at fewer: growth of what it looks at
afterwards. -/
theorem trail_growsAt {fs fs' : FileSystem} {follow : Bool} {links : Nat} {at_ : Place}
    {names : List Bytes}
    (grows : ∀ place ∈ fs'.trail follow links at_ names, fs'.GrowsAt fs place) :
    fs.trail follow links at_ names ⊆ fs'.trail follow links at_ names := by
  induction links, at_, names using hop_induction fs follow with
  | done links at_ =>
    rw [trail_nil, trail_nil]
    exact List.Subset.refl _
  | stop links at_ name rest result stops =>
    exact fun place member => mem_trail_of_stop stops member
  | go links at_ name rest links' at' names' goes ih =>
    have here := grows at_ (mem_trail_cons.mpr (.inl rfl))
    have there (ordinary : isOrdinary name = true) : fs'.GrowsAt fs (name :: at_) :=
      grows _ (mem_trail_cons.mpr (.inr (.inl ⟨ordinary, rfl⟩)))
    have hops : fs'.hop follow links at_ name rest = .go links' at' names' :=
      (hop_grows here there (.inl ⟨_, _, _, goes⟩)).trans goes
    have later := ih fun place member =>
      grows place (mem_trail_cons.mpr (.inr (.inr ⟨_, _, _, hops, member⟩)))
    intro place member
    rcases mem_trail_cons.mp member with first | named | ⟨_, _, _, goes', inside⟩
    · exact mem_trail_cons.mpr (.inl first)
    · exact mem_trail_cons.mpr (.inr (.inl named))
    · rw [goes] at goes'
      cases goes'
      exact mem_trail_cons.mpr (.inr (.inr ⟨_, _, _, hops, later inside⟩))

/-- A lookup looks at the same places after growth, and perhaps at more. -/
theorem trail_grows {fs fs' : FileSystem} (grows : fs'.Grows fs) {follow : Bool} {links : Nat}
    {at_ : Place} {names : List Bytes} {place : Place}
    (member : place ∈ fs.trail follow links at_ names) :
    place ∈ fs'.trail follow links at_ names :=
  trail_growsAt (fun place _ => grows place) member

/-- **What a path denotes stays the same** after growth. -/
theorem ending_grows {fs fs' : FileSystem} (grows : fs'.Grows fs) {cwd : Place} {path : Bytes}
    {dir : Place} {name : Bytes} {slashed : Bool}
    (ends : fs.ending cwd path = .ok (.name dir name slashed)) :
    fs'.ending cwd path = .ok (.name dir name slashed) := by
  obtain ⟨bytes, last, finds, ⟨mode, directory, enters⟩, ordinary⟩ := ending_name ends
  refine ending_name_iff.mpr ⟨bytes, last, walk_grows grows finds, ⟨mode, ?_, enters⟩, ordinary⟩
  rw [grows.extends dir (by rw [directory]; rfl), directory]

theorem placeOf_grows {fs fs' : FileSystem} (grows : fs'.Grows fs) {cwd : Place} {path : Bytes}
    {place : Place} (denotes : fs.placeOf cwd path = some place) :
    fs'.placeOf cwd path = some place := by
  obtain ⟨dir, name, rfl, ends⟩ := placeOf_eq_some_iff.mp denotes
  exact placeOf_eq_some_iff.mpr ⟨dir, name, rfl, ending_grows grows ends⟩

/-! ### One directory after the other -/

/-- Made from `fs` by making the directories of some of the paths, one after the other. -/
inductive MadeBy (cwd : Place) (paths : List Bytes) (fs : FileSystem) : FileSystem → Prop where
  | nothing : MadeBy cwd paths fs fs
  | more {partly made : FileSystem} {path : Bytes} (before : MadeBy cwd paths fs partly)
      (member : path ∈ paths) (makes : partly.makeDirectory cwd path = .ok made) :
      MadeBy cwd paths fs made

theorem MadeBy.mono {cwd : Place} {paths paths' : List Bytes} {fs fs' : FileSystem}
    (made : MadeBy cwd paths fs fs') (subset : paths ⊆ paths') : MadeBy cwd paths' fs fs' := by
  induction made with
  | nothing => exact .nothing
  | more _ member makes ih => exact .more ih (subset member) makes

theorem makeChain_madeBy (fs : FileSystem) (cwd : Place) (paths : List Bytes) :
    MadeBy cwd paths fs (fs.makeChain cwd paths).1 := by
  induction paths with
  | nil => exact .nothing
  | cons path above ih =>
    have outer : MadeBy cwd (path :: above) fs (fs.makeChain cwd above).1 :=
      ih.mono (List.subset_cons_self _ _)
    unfold makeChain
    by_cases bare : path = []
    · rw [if_pos bare]
      exact .nothing
    · rw [if_neg bare]
      cases makes : fs.makeDirectory cwd path with
      | ok made => exact .more .nothing List.mem_cons_self makes
      | error fault =>
        by_cases missing : fault = .noEntry
        · subst missing
          cases chain : fs.makeChain cwd above with
          | mk partly result =>
            rw [chain] at outer
            cases result with
            | error cause => exact outer
            | ok done =>
              cases last : partly.makeDirectory cwd path with
              | ok made => simpa [last] using .more outer List.mem_cons_self last
              | error fault => simpa [last] using outer
        · cases fault <;> first | exact absurd rfl missing | exact .nothing

/-- **Making directories makes one directory after the other**, each that of an ancestor of the
path. -/
theorem makeDirectories_madeBy (fs : FileSystem) (cwd : Place) (path : Bytes) :
    MadeBy cwd (Path.ancestors path) fs (fs.makeDirectories cwd path).1 :=
  makeChain_madeBy fs cwd _

theorem makeDirectory_grows {fs fs' : FileSystem} {cwd : Place} {path : Bytes}
    (makes : fs.makeDirectory cwd path = .ok fs') : fs'.Grows fs := by
  obtain ⟨dir, name, _, _, _, free, _, rfl⟩ := makeDirectory_eq_ok_iff.mp makes
  intro place
  rw [get?_put _ _ _ (List.cons_ne_nil name dir)]
  by_cases same : place = name :: dir
  · rw [if_pos same, same]
    exact .inr ⟨free, rfl⟩
  · rw [if_neg same]
    exact .inl rfl

theorem makeDirectory_sound {fs fs' : FileSystem} {cwd : Place} {path : Bytes}
    (makes : fs.makeDirectory cwd path = .ok fs') (sound : fs.Sound) : fs'.Sound := by
  obtain ⟨dir, name, _, ends, _, _, _, rfl⟩ := makeDirectory_eq_ok_iff.mp makes
  exact sound.put (List.cons_ne_nil _ _) (ending_directory ends) fun _ => rfl

namespace MadeBy

variable {cwd : Place} {paths : List Bytes} {fs fs' : FileSystem}

theorem grows (made : MadeBy cwd paths fs fs') : fs'.Grows fs := by
  induction made with
  | nothing => exact .refl fs
  | more _ _ makes ih => exact (makeDirectory_grows makes).trans ih

theorem sound (made : MadeBy cwd paths fs fs') (sound : fs.Sound) : fs'.Sound := by
  induction made with
  | nothing => exact sound
  | more _ _ makes ih => exact makeDirectory_sound makes ih

/-- **What is new is a directory that one of the paths denotes.** -/
theorem denoted (made : MadeBy cwd paths fs fs') {place : Place} (free : fs.get? place = none)
    (listed : fs'.get? place ≠ none) : ∃ path ∈ paths, fs'.placeOf cwd path = some place := by
  induction made with
  | nothing => exact absurd free listed
  | @more partly made path before member makes ih =>
    have later : made.Grows partly := makeDirectory_grows makes
    by_cases old : partly.get? place = none
    · obtain ⟨dir, name, _, ends, _, _, _, same⟩ := makeDirectory_eq_ok_iff.mp makes
      have here : place = name :: dir := by
        by_contra differs
        rw [same, get?_put _ _ _ (List.cons_ne_nil _ _), if_neg differs] at listed
        exact listed old
      refine ⟨path, member, ?_⟩
      have denotes : partly.placeOf cwd path = some place := by
        unfold placeOf
        rw [ends, here]
      exact placeOf_grows later denotes
    · obtain ⟨path', member', denotes⟩ := ih old
      exact ⟨path', member', placeOf_grows later denotes⟩

end MadeBy

end CalcBuild.Files.FileSystem

/-
**The same operation on two file systems.**

Two file systems that agree on what an operation looks at answer it in the same way, and change in the
same way, however much they differ elsewhere.

* `seenOn`, `find_congr`: the places that decide what a path leads to;
* `Together`: a change of both that leaves them alike where it changes them;
* `Alike`: the outcomes of one operation on both;
* `makeDirectory_alike`, `createNew_alike`, `unlink_alike`, `rename_alike`, `removeAll_together`: the
  operations.
-/

import CalcBuild.Proofs.Files.Beside

namespace CalcBuild.Files.FileSystem

/-! ### What a path leads to -/

/-- The places looked at to find out what a path leads to. -/
def seenOn (fs : FileSystem) (cwd : Place) (path : Bytes) : List Place :=
  fs.trail true linkLimit (start cwd path) (Path.components path)

/-- Two file systems have the same entries at some places. -/
def AgreeOn (own fs : FileSystem) (places : List Place) : Prop :=
  ∀ place ∈ places, own.get? place = fs.get? place

section Leads

variable {own fs : FileSystem} {cwd : Place} {path : Bytes}

theorem locate_congr (agree : own.AgreeOn fs (fs.seenOn cwd path)) :
    own.locate cwd true path = fs.locate cwd true path := by
  unfold locate
  rw [(walk_congr agree).1]

theorem seenOn_congr (agree : own.AgreeOn fs (fs.seenOn cwd path)) :
    own.seenOn cwd path = fs.seenOn cwd path :=
  (walk_congr agree).2

/-- **The places seen decide what a path leads to.** -/
theorem find_congr (agree : own.AgreeOn fs (fs.seenOn cwd path)) :
    own.find cwd true path = fs.find cwd true path := by
  unfold find
  rw [locate_congr agree]
  cases leads : fs.locate cwd true path with
  | error fault => rfl
  | ok spot =>
    cases spot with
    | absent place => rfl
    | present place =>
      have finds : fs.walk true linkLimit (start cwd path) (Path.components path)
          = .ok (.present place) := by
        unfold locate at leads
        split at leads
        · cases leads
        · exact leads
      simp only [entryAt, agree place (mem_trail_end finds)]

theorem status?_congr (agree : own.AgreeOn fs (fs.seenOn cwd path)) :
    own.status? cwd path = fs.status? cwd path := by
  unfold status?
  rw [find_congr agree]

end Leads

/-! ### Changes of both -/

/-- Both file systems change in the same way: each place is left alone in both, or is an allowed one at
which they agree afterwards. -/
def Together (allowed : Place → Prop) (fs fs' own own' : FileSystem) : Prop :=
  ∀ place, fs'.get? place = fs.get? place ∧ own'.get? place = own.get? place ∨
    allowed place ∧ own'.get? place = fs'.get? place

/-- The outcomes of one operation on both. -/
inductive Alike (allowed : Place → Prop) (fs own : FileSystem) :
    Except Fault FileSystem → Except Fault FileSystem → Prop where
  | done {fs' own' : FileSystem} (together : Together allowed fs fs' own own') :
      Alike allowed fs own (.ok fs') (.ok own')
  | failed (fault : Fault) : Alike allowed fs own (.error fault) (.error fault)

section Changes

variable {allowed allowed' : Place → Prop} {fs fs' own own' : FileSystem}

theorem Together.refl (allowed : Place → Prop) (fs own : FileSystem) : Together allowed fs fs own own :=
  fun _ => .inl ⟨rfl, rfl⟩

theorem Together.mono (together : Together allowed fs fs' own own')
    (weaker : ∀ place, allowed place → allowed' place) : Together allowed' fs fs' own own' :=
  fun place => (together place).imp_right fun ⟨member, same⟩ => ⟨weaker place member, same⟩

theorem Alike.mono {result result' : Except Fault FileSystem}
    (alike : Alike allowed fs own result result') (weaker : ∀ place, allowed place → allowed' place) :
    Alike allowed' fs own result result' := by
  cases alike with
  | done together => exact .done (together.mono weaker)
  | failed fault => exact .failed fault

theorem Alike.both {result result' : Except Fault FileSystem}
    (alike : Alike allowed fs own result result') :
    (∃ fault, result = .error fault ∧ result' = .error fault) ∨
      ∃ fs' own', result = .ok fs' ∧ result' = .ok own' ∧ Together allowed fs fs' own own' := by
  cases alike with
  | done together => exact .inr ⟨_, _, rfl, rfl, together⟩
  | failed fault => exact .inl ⟨fault, rfl, rfl⟩

theorem together_put {place : Place} (proper : place ≠ []) (entry : Entry) :
    Together (· = place) fs (fs.put place entry) own (own.put place entry) := by
  intro other
  rw [get?_put _ _ _ proper, get?_put _ _ _ proper]
  by_cases same : other = place
  · exact .inr ⟨same, by rw [if_pos same, if_pos same]⟩
  · exact .inl ⟨if_neg same, if_neg same⟩

theorem together_drop {place : Place} (proper : place ≠ []) :
    Together (· = place) fs (fs.drop place) own (own.drop place) := by
  intro other
  rw [get?_drop _ _ proper, get?_drop _ _ proper]
  by_cases same : other = place
  · exact .inr ⟨same, by rw [if_pos same, if_pos same]⟩
  · exact .inl ⟨if_neg same, if_neg same⟩

theorem together_dropBelow {place : Place} (proper : place ≠ []) :
    Together (isWithin place · = true) fs (fs.dropBelow place) own (own.dropBelow place) := by
  intro other
  rw [get?_dropBelow _ _ proper, get?_dropBelow _ _ proper]
  by_cases within : isWithin place other = true
  · exact .inr ⟨within, by rw [if_pos within, if_pos within]⟩
  · exact .inl ⟨if_neg within, if_neg within⟩

/-- An entry that is no directory is moved in both. -/
theorem together_move (sound : fs.Sound) (soundOwn : own.Sound) {source target : Place}
    (proper : source ≠ []) (proper' : target ≠ []) {entry : Entry} (found : fs.get? source = some entry)
    (foundOwn : own.get? source = some entry) (plain : entry.isDirectory = false)
    (leaf : fs.isDirectoryAt target = false) (leafOwn : own.isDirectoryAt target = false) :
    Together (fun place => place = source ∨ place = target) fs (fs.move source target) own
      (own.move source target) := by
  intro place
  rw [sound.get?_move proper proper' found plain leaf, soundOwn.get?_move proper proper' foundOwn plain
    leafOwn]
  by_cases here : place = target
  · exact .inr ⟨.inr here, by rw [if_pos here, if_pos here]⟩
  · rw [if_neg here, if_neg here]
    by_cases there : place = source
    · exact .inr ⟨.inl there, by rw [if_pos there, if_pos there]⟩
    · exact .inl ⟨if_neg there, if_neg there⟩

end Changes

/-! ### The operations -/

section Operations

variable {fs own : FileSystem} {cwd : Place} {path : Bytes}

/-- The directory of what a path denotes allows the same in both. -/
theorem mayChange_alike (agree : own.AgreeOn fs (fs.lookedAt cwd path)) {dir : Place} {name : Bytes}
    {slashed : Bool} (ends : fs.ending cwd path = .ok (.name dir name slashed)) :
    own.mayChange dir = fs.mayChange dir := by
  obtain ⟨_, _, finds, _⟩ := ending_name ends
  exact mayChange_congr (agree dir (mem_trail_end finds))

/-- What a path denotes is taken or free in both, unless the name is too long anyway. -/
def Listed (own fs : FileSystem) (cwd : Place) (path : Bytes) : Prop :=
  ∀ dir name slashed, fs.ending cwd path = .ok (.name dir name slashed) → name.length ≤ longestName →
    (own.get? (name :: dir)).isSome = (fs.get? (name :: dir)).isSome

/-- Making an entry under a name. -/
theorem addName_alike {dir : Place} {name : Bytes} {entry : Entry}
    (allows : own.mayChange dir = fs.mayChange dir)
    (listed : name.length ≤ longestName →
      (own.get? (name :: dir)).isSome = (fs.get? (name :: dir)).isSome) :
    Alike (· = name :: dir) fs own
      ((fs.freeName dir name).bind fun place => fs.addAt place entry)
      ((own.freeName dir name).bind fun place => own.addAt place entry) := by
  unfold freeName
  by_cases long : longestName < name.length
  · simp only [long, if_true, Except.bind]
    exact .failed _
  · rw [if_neg long, if_neg long, listed (by omega)]
    split
    · exact .failed _
    · simp only [Except.bind, addAt]
      rw [List.tail_cons, allows]
      split
      · exact .done (together_put (List.cons_ne_nil name dir) entry)
      · exact .failed _

/-- **Making a directory does the same in both.** -/
theorem makeDirectory_alike (agree : own.AgreeOn fs (fs.lookedAt cwd path))
    (listed : own.Listed fs cwd path) :
    Alike (fun place => fs.placeOf cwd path = some place) fs own (fs.makeDirectory cwd path)
      (own.makeDirectory cwd path) := by
  have ends' := ending_congr agree
  unfold makeDirectory
  rw [ends']
  cases ends : fs.ending cwd path with
  | error fault => exact .failed fault
  | ok ending =>
    cases ending with
    | name dir name slashed =>
      refine (addName_alike (mayChange_alike agree ends) (listed dir name slashed ends)).mono ?_
      rintro place rfl
      exact placeOf_of_ending ends
    | _ => exact .failed _

/-- **Making an empty file does the same in both.** -/
theorem createNew_alike {mode : Mode} (agree : own.AgreeOn fs (fs.lookedAt cwd path))
    (listed : own.Listed fs cwd path) :
    Alike (fun place => fs.placeOf cwd path = some place) fs own (fs.createNew cwd mode path)
      (own.createNew cwd mode path) := by
  have ends' := ending_congr agree
  unfold createNew
  rw [ends']
  cases ends : fs.ending cwd path with
  | error fault => exact .failed fault
  | ok ending =>
    cases ending with
    | name dir name slashed =>
      cases slashed with
      | true => exact .failed _
      | false =>
        refine (addName_alike (mayChange_alike agree ends) (listed dir name false ends)).mono ?_
        rintro place rfl
        exact placeOf_of_ending ends
    | _ => exact .failed _

/-- **Unlinking does the same in both.** -/
theorem unlink_alike (agree : own.AgreeOn fs (fs.lookedAt cwd path))
    (there : ∀ place, fs.placeOf cwd path = some place → own.get? place = fs.get? place) :
    Alike (fun place => fs.placeOf cwd path = some place) fs own (fs.unlink cwd path)
      (own.unlink cwd path) := by
  have ends' := ending_congr agree
  unfold unlink
  rw [ends']
  cases ends : fs.ending cwd path with
  | error fault => exact .failed fault
  | ok ending =>
    cases ending with
    | name dir name slashed =>
      have denotes := placeOf_of_ending ends
      have allows := mayChange_alike agree ends
      have removes : Alike (fun place => fs.placeOf cwd path = some place) fs own
          (fs.removeAt (name :: dir)) (own.removeAt (name :: dir)) := by
        unfold removeAt
        rw [List.tail_cons, allows]
        split
        · refine .done ((together_drop (List.cons_ne_nil name dir)).mono ?_)
          rintro place rfl
          exact denotes
        · exact .failed _
      dsimp only
      rw [there _ denotes, allows]
      split
      · exact .failed _
      · cases fs.get? (name :: dir) with
        | none => exact .failed _
        | some entry =>
          cases entry with
          | directory mode => exact .failed _
          | _ =>
            cases slashed with
            | true => exact .failed _
            | false => exact removes
    | _ => exact .failed _

/-- What a rename finds wrong with an entry that is no directory is the same in both. -/
theorem renameFault?_alike {source target : Place} {entry : Entry} (plain : entry.isDirectory = false)
    (allows : own.mayChange source.tail = fs.mayChange source.tail)
    (allows' : own.mayChange target.tail = fs.mayChange target.tail)
    (there : own.get? target = fs.get? target) :
    own.renameFault? source target entry = fs.renameFault? source target entry := by
  have replaces : own.replaceFault? target entry = fs.replaceFault? target entry := by
    unfold replaceFault?
    rw [there]
    cases entry with
    | directory mode => cases plain
    | _ =>
      cases fs.get? target with
      | none => rfl
      | some other => cases other <;> rfl
  unfold renameFault?
  rw [allows, allows', replaces]

/-- **Moving an entry that is no directory does the same in both.** -/
theorem rename_alike {target : Bytes} (sound : fs.Sound) (soundOwn : own.Sound)
    (agree : own.AgreeOn fs (fs.lookedAt cwd path)) (agree' : own.AgreeOn fs (fs.lookedAt cwd target))
    {dir : Place} {name : Bytes} (ends : fs.ending cwd path = .ok (.name dir name false))
    (here : own.get? (name :: dir) = fs.get? (name :: dir))
    (leaf : fs.isDirectoryAt (name :: dir) = false)
    (there : ∀ place, fs.placeOf cwd target = some place → own.get? place = fs.get? place) :
    Alike (fun place => place = name :: dir ∨ fs.placeOf cwd target = some place) fs own
      (fs.rename cwd path target) (own.rename cwd path target) := by
  have allows := mayChange_alike agree ends
  unfold rename
  rw [ending_congr agree, ending_congr agree', ends]
  cases ends' : fs.ending cwd target with
  | error fault => exact .failed fault
  | ok ending =>
    cases ending with
    | name dir' name' slashed' =>
      have denotes := placeOf_of_ending ends'
      have there' := there _ denotes
      have allows' := mayChange_alike agree' ends'
      dsimp only
      rw [here]
      split
      · exact .failed _
      · cases found : fs.get? (name :: dir) with
        | none => exact .failed _
        | some entry =>
          have plain := isDirectory_of_leaf found leaf
          dsimp only
          split
          · exact .failed _
          · split
            · exact .failed _
            · split
              · exact .done (.refl _ _ _)
              · rw [renameFault?_alike plain allows allows' there']
                cases fault : fs.renameFault? (name :: dir) (name' :: dir') entry with
                | some fault => exact .failed _
                | none =>
                  obtain ⟨_, _, leaf'⟩ := (renameFault?_leaf sound.closed found plain
                    (List.cons_ne_nil _ _) (List.cons_ne_nil name' dir')
                    (ending_directory ends')).mp fault
                  have leafOwn : own.isDirectoryAt (name' :: dir') = false := by
                    unfold isDirectoryAt directoryMode? at leaf' ⊢
                    rwa [there']
                  refine .done ((together_move sound soundOwn (List.cons_ne_nil _ _)
                    (List.cons_ne_nil _ _) found (here.trans found) plain leaf' leafOwn).mono ?_)
                  rintro place (same | rfl)
                  · exact .inl same
                  · exact .inr denotes
    | _ => exact .failed _

/-- **A directory all of whose directories were made without asking for a mode is removed in both.** -/
theorem removeAll_together (sound : fs.Sound) (soundOwn : own.Sound)
    (agree : own.AgreeOn fs (fs.lookedAt cwd path)) {dir : Place} {name : Bytes} {slashed : Bool}
    (ends : fs.ending cwd path = .ok (.name dir name slashed)) (short : name.length ≤ longestName)
    (directory : fs.isDirectoryAt (name :: dir) = true)
    (modes : ∀ place mode, isWithin (name :: dir) place = true →
      fs.get? place = some (.directory mode) → mode = Mode.ofDirectory)
    (allowed : fs.mayChange dir = true)
    (inside : ∀ place, isWithin (name :: dir) place = true → own.get? place = fs.get? place) :
    fs.removeAll cwd path = (fs.dropBelow (name :: dir), .ok ()) ∧
      own.removeAll cwd path = (own.dropBelow (name :: dir), .ok ()) := by
  refine ⟨removeAll_eq sound ends short directory modes allowed,
    removeAll_eq soundOwn ((ending_congr agree).trans ends) short ?_ ?_
      ((mayChange_alike agree ends).trans allowed)⟩
  · unfold isDirectoryAt directoryMode? at directory ⊢
    rwa [inside _ (isWithin_self _)]
  · intro place mode within found
    exact modes place mode within ((inside place within).symm.trans found)

end Operations

end CalcBuild.Files.FileSystem

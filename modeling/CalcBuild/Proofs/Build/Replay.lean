/-
**Names drawn again.**

A build among others draws some of the names of the generator. On its own it draws the same names, one
after the other, from a generator that gives it these. What it reserves is then the same.

* `Replays`, `drawing`: a generator that gives the names that were drawn, and their numbers;
* `World.beside`: the world of a build on its own;
* `ReservesAlike`, `World.reserve_alike`, `World.reserve_beside`: a reservation in both worlds.
-/

import CalcBuild.Proofs.Build.Sight

namespace CalcBuild

open Files FileSystem

variable {State : Type}

/-- A generator that gives the names that were drawn, one after the other. -/
def Replays (names : Nat → Bytes) (drew : List Nat) (names' : Nat → Bytes) : Prop :=
  ∀ position number, drew[position]? = some number → names' position = names number

theorem Replays.of_append {names names' : Nat → Bytes} {drew more : List Nat}
    (replays : Replays names (drew ++ more) names') : Replays names drew names' := by
  intro position number drawn
  refine replays position number ?_
  rw [List.getElem?_append_left (List.getElem?_eq_some_iff.mp drawn).1]
  exact drawn

/-- The numbers of the names that are drawn until there are so many. -/
def drawnUntil (from_ until_ : Nat) : List Nat := List.range' from_ (until_ - from_)

theorem mem_drawnUntil {from_ until_ number : Nat} :
    number ∈ drawnUntil from_ until_ ↔ from_ ≤ number ∧ number < until_ := by
  unfold drawnUntil
  rw [List.mem_range'_1]
  omega

theorem Replays.drawnUntil {names names' : Nat → Bytes} {drew : List Nat} {from_ until_ : Nat}
    (replays : Replays names (drew ++ drawnUntil from_ until_) names') {number : Nat}
    (late : from_ ≤ number) (before : number < until_) :
    names' (drew.length + (number - from_)) = names number := by
  refine replays _ number ?_
  rw [List.getElem?_append_right (by omega)]
  unfold CalcBuild.drawnUntil
  rw [Nat.add_sub_cancel_left, List.getElem?_range' (by omega)]
  congr 1
  omega

/-- The setting with another generator of names. -/
def Setting.renamed (setting : Setting) (names : Nat → Bytes) : Setting :=
  { setting with names }

/-- The same moment with other files, and another number of names that have been drawn. -/
def World.beside (world : World) (files : FileSystem) (drawn : Nat) : World :=
  { world with files, drawn }

/-- The names that a build drew, with those that are drawn in a turn. -/
def drawing (drew : List Nat) (world world' : World) : List Nat :=
  drew ++ drawnUntil world.drawn world'.drawn

theorem length_drawing (drew : List Nat) (world world' : World) :
    (drawing drew world world').length = drew.length + (world'.drawn - world.drawn) := by
  unfold drawing drawnUntil
  rw [List.length_append, List.length_range']

namespace World

variable {setting : Setting} {make : FileSystem → Bytes → Except Fault FileSystem} {names : Nat → Bytes}

/-- What a reservation comes to on both sides. -/
structure ReservesAlike (setting : Setting) (make : FileSystem → Bytes → Except Fault FileSystem)
    (base stem : Bytes) (world : World) (own : FileSystem) (count : Nat)
    (made madeOwn : World × Except Cause Bytes) : Prop where
  result : madeOwn.2 = made.2
  moment : madeOwn.1 = made.1.beside madeOwn.1.files (count + (made.1.drawn - world.drawn))
  files : ((∃ cause, made.2 = .error cause) ∧ made.1.files = world.files ∧ madeOwn.1.files = own) ∨
    ∃ number, world.drawn ≤ number ∧ number < made.1.drawn ∧
      made.2 = .ok (Path.join base (stem ++ setting.names number)) ∧
      make world.files (Path.join base (stem ++ setting.names number)) = .ok made.1.files ∧
      make own (Path.join base (stem ++ setting.names number)) = .ok madeOwn.1.files

/-- **A reservation in a directory comes to the same on both sides** if making something does. -/
theorem reserveWithin_alike {base stem : Bytes} {attempts : Nat} {world : World} {own : FileSystem}
    {count : Nat} {allowed : Nat → Place → Prop}
    (replays : ∀ number, world.drawn ≤ number →
      number < (world.reserveWithin setting make base stem attempts).1.drawn →
      names (count + (number - world.drawn)) = setting.names number)
    (alike : ∀ number, world.drawn ≤ number →
      number < (world.reserveWithin setting make base stem attempts).1.drawn →
      Alike (allowed number) world.files own
        (make world.files (Path.join base (stem ++ setting.names number)))
        (make own (Path.join base (stem ++ setting.names number)))) :
    ReservesAlike setting make base stem world own count
      (world.reserveWithin setting make base stem attempts)
      ((world.beside own count).reserveWithin (setting.renamed names) make base stem attempts) := by
  induction attempts generalizing world count with
  | zero =>
    exact ⟨rfl, by simp [reserveWithin, beside], .inl ⟨⟨_, rfl⟩, rfl, rfl⟩⟩
  | succ attempts ih =>
    have more : world.drawn < (world.reserveWithin setting make base stem (attempts + 1)).1.drawn := by
      unfold reserveWithin
      dsimp only
      split
      · exact Nat.lt_succ_self _
      · exact Nat.lt_of_lt_of_le (Nat.lt_succ_self world.drawn)
          (reserveWithin_draws setting make base stem attempts
            { world with drawn := world.drawn + 1 }).drawn
      · exact Nat.lt_succ_self _
    have here := replays world.drawn (Nat.le_refl _) more
    rw [Nat.sub_self, Nat.add_zero] at here
    have first := alike world.drawn (Nat.le_refl _) more
    unfold reserveWithin at replays alike more ⊢
    simp only [beside, Setting.renamed, here] at replays alike first more ⊢
    generalize made : make world.files (Path.join base (stem ++ setting.names world.drawn)) = outcome
      at replays alike first more ⊢
    generalize madeOwn : make own (Path.join base (stem ++ setting.names world.drawn)) = outcome'
      at first ⊢
    cases first with
    | @done fs' own' together =>
      exact ⟨rfl, by simp [beside],
        .inr ⟨world.drawn, Nat.le_refl _, Nat.lt_succ_self _, rfl, made, madeOwn⟩⟩
    | failed fault =>
      by_cases taken : fault = .alreadyExists
      · subst taken
        dsimp only at replays alike more ⊢
        have next : ReservesAlike setting make base stem { world with drawn := world.drawn + 1 } own
            (count + 1) (reserveWithin setting make base stem attempts
              { world with drawn := world.drawn + 1 })
            (reserveWithin (setting.renamed names) make base stem attempts
              (beside { world with drawn := world.drawn + 1 } own (count + 1))) :=
          ih (fun number late before => by
              rw [← replays number (Nat.le_of_succ_le late) before]
              congr 1
              dsimp only at late ⊢
              omega)
            fun number late before => alike number (Nat.le_of_succ_le late) before
        obtain ⟨result, same, files⟩ := next
        refine ⟨result, same.trans ?_, ?_⟩
        · have := (reserveWithin_draws setting make base stem attempts
            { world with drawn := world.drawn + 1 }).drawn
          dsimp only at this ⊢
          congr 1
          omega
        · refine files.imp_right ?_
          rintro ⟨number, late, rest⟩
          exact ⟨number, Nat.le_of_succ_le late, rest⟩
      · cases fault <;> first
          | exact absurd rfl taken
          | exact ⟨rfl, by simp [beside], .inl ⟨⟨_, rfl⟩, rfl, rfl⟩⟩

/-- **A reservation comes to the same on both sides** if making something does. -/
theorem reserve_alike {dir stem : Bytes} {world : World} {own : FileSystem} {count : Nat}
    {allowed : Nat → Place → Prop}
    (here : own.isDirectoryAt setting.cwd = world.files.isDirectoryAt setting.cwd)
    (replays : ∀ number, world.drawn ≤ number →
      number < (world.reserve setting make dir stem).1.drawn →
      names (count + (number - world.drawn)) = setting.names number)
    (alike : ∀ number, world.drawn ≤ number → number < (world.reserve setting make dir stem).1.drawn →
      Alike (allowed number) world.files own
        (make world.files (Path.join (setting.anchor dir) (stem ++ setting.names number)))
        (make own (Path.join (setting.anchor dir) (stem ++ setting.names number)))) :
    ReservesAlike setting make (setting.anchor dir) stem world own count
      (world.reserve setting make dir stem)
      ((world.beside own count).reserve (setting.renamed names) make dir stem) := by
  have anchors : setting.anchor dir
      = if Path.isAbsolute dir then dir else Path.join setting.cwd.path dir := rfl
  have here' : (world.beside own count).files.isDirectoryAt (setting.renamed names).cwd
      = world.files.isDirectoryAt setting.cwd := here
  have cwd : (setting.renamed names).cwd = setting.cwd := rfl
  unfold reserve at replays alike ⊢
  rw [here', anchors, cwd]
  rw [anchors] at alike
  by_cases absolute : Path.isAbsolute dir = true
  · simp only [absolute, if_true] at replays alike ⊢
    exact reserveWithin_alike replays alike
  · by_cases exists_ : world.files.isDirectoryAt setting.cwd = true
    · simp only [absolute, exists_, if_true, if_false, Bool.false_eq_true] at replays alike ⊢
      exact reserveWithin_alike replays alike
    · simp only [absolute, exists_, if_false, Bool.false_eq_true]
      exact ⟨rfl, by simp [beside], .inl ⟨⟨_, rfl⟩, rfl, rfl⟩⟩

/-- **A reservation comes to the same on both sides**, where the names are drawn again. -/
theorem reserve_beside {dir stem : Bytes} {world world' : World} {own : FileSystem} {drew : List Nat}
    {result : Except Cause Bytes} {allowed : Nat → Place → Prop}
    (reserves : world.reserve setting make dir stem = (world', result))
    (here : own.isDirectoryAt setting.cwd = world.files.isDirectoryAt setting.cwd)
    (replays : Replays setting.names (drawing drew world world') names)
    (alike : ∀ number, world.drawn ≤ number → number < world'.drawn →
      Alike (allowed number) world.files own
        (make world.files (Path.join (setting.anchor dir) (stem ++ setting.names number)))
        (make own (Path.join (setting.anchor dir) (stem ++ setting.names number)))) :
    ∃ own', (world.beside own drew.length).reserve (setting.renamed names) make dir stem
        = (world'.beside own' (drawing drew world world').length, result) ∧
      ((∃ cause, result = .error cause) ∧ world'.files = world.files ∧ own' = own ∨
        ∃ number, world.drawn ≤ number ∧ number < world'.drawn ∧
          result = .ok (Path.join (setting.anchor dir) (stem ++ setting.names number)) ∧
          make world.files (Path.join (setting.anchor dir) (stem ++ setting.names number))
            = .ok world'.files ∧
          make own (Path.join (setting.anchor dir) (stem ++ setting.names number)) = .ok own') := by
  have both : ReservesAlike setting make (setting.anchor dir) stem world own drew.length
      (world.reserve setting make dir stem)
      ((world.beside own drew.length).reserve (setting.renamed names) make dir stem) := reserve_alike here
    (fun number late before => replays.drawnUntil late (by rwa [reserves] at before))
    (fun number late before => alike number late (by rwa [reserves] at before))
  rw [reserves] at both
  obtain ⟨same, moment, files⟩ := both
  refine ⟨_, Prod.ext ?_ same, files⟩
  rw [length_drawing]
  exact moment

end World

/-- Making a workspace in a setting with another generator of names. -/
theorem Workspace.create_renamed (setting : Setting) (names : Nat → Bytes) (root? : Option Bytes)
    (world : World) : Workspace.create (setting.renamed names) root? world
      = ((world.reserve (setting.renamed names) (fun files path => files.makeDirectory setting.cwd path)
          (root?.getD setting.temporaryRoot) stem).1,
        match (world.reserve (setting.renamed names)
          (fun files path => files.makeDirectory setting.cwd path)
          (root?.getD setting.temporaryRoot) stem).2 with
        | .ok path => .ok ⟨path⟩
        | .error cause => .error (.workspaceCreate cause)) :=
  rfl

theorem Staging.reserve_renamed (setting : Setting) (names : Nat → Bytes) (output : Bytes)
    (world : World) : Staging.reserve (setting.renamed names) output world
      = ((world.reserve (setting.renamed names)
          (fun files path => files.createNew setting.cwd Staging.mode path) (Staging.directory output)
          stem).1,
        (world.reserve (setting.renamed names)
          (fun files path => files.createNew setting.cwd Staging.mode path) (Staging.directory output)
          stem).2.mapError (.output output)) :=
  rfl

end CalcBuild

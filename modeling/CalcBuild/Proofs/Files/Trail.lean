/-
**What a lookup looks at.**

A lookup goes from place to place. One hop takes one name off the path: it looks at the place where
the lookup stands and at the place of the name, and then the lookup stands somewhere else or is
done. The list of the places looked at is the trail of the lookup. Two file systems that agree on a
trail give the same answer, so a change of files that keeps off the trail cannot be seen.

* `hop`, `walk_cons`: one hop of a lookup, and a lookup as a sequence of hops;
* `trail`, `walk_congr`: the places looked at, which alone decide what a lookup finds;
* `walk_extends`: what was found is found again when entries have been added only;
* `walk_append`: a lookup of a longer path goes on from where the shorter one ended.
-/

import CalcBuild.Proofs.Files.View

namespace CalcBuild.Files.FileSystem

/-! ### One hop -/

/-- What one hop of a lookup leads to: its end, or other names from another place, with so many
links left to follow. -/
inductive Hop where
  | stop (result : Except Fault Spot)
  | go (links : Nat) (at_ : Place) (names : List Bytes)

/-- The hop of a lookup that stands at a place and has a name to look up. -/
def hop (fs : FileSystem) (follow : Bool) (links : Nat) (at_ : Place) (name : Bytes)
    (rest : List Bytes) : Hop :=
  match fs.get? at_ with
  | none =>
    if name = [] || name = Path.here then .go links at_ rest
    else if name = Path.up then .go links at_.tail rest
    else .stop (.error .noEntry)
  | some (.directory mode) =>
    if name = [] then .go links at_ rest
    else if !mode.mayEnter then .stop (.error .permissionDenied)
    else if name = Path.here then .go links at_ rest
    else if name = Path.up then .go links at_.tail rest
    else if longestName < name.length then .stop (.error .nameTooLong)
    else
      match fs.get? (name :: at_) with
      | none => .stop (if rest = [] then .ok (.absent (name :: at_)) else .error .noEntry)
      | some (.link target) =>
        if rest = [] && !follow then .stop (.ok (.present (name :: at_)))
        else
          match links with
          | 0 => .stop (.error .tooManyLinks)
          | left + 1 =>
            if target = [] then .stop (.error .noEntry)
            else .go left (if Path.isAbsolute target then [] else at_) (Path.components target ++ rest)
      | some _ => .go links (name :: at_) rest
  | some _ => .stop (.error .notDirectory)

/-- A hop takes a name away or follows a link. -/
theorem hop_decreases {fs : FileSystem} {follow : Bool} {links : Nat} {at_ : Place} {name : Bytes}
    {rest : List Bytes} {links' : Nat} {at' : Place} {names' : List Bytes}
    (goes : fs.hop follow links at_ name rest = .go links' at' names') :
    links' < links ∨ links' = links ∧ names' = rest := by
  unfold hop at goes
  repeat' split at goes
  all_goals
    cases goes
    try simp

/-- **A lookup is a sequence of hops.** -/
theorem walk_cons (fs : FileSystem) (follow : Bool) (links : Nat) (at_ : Place) (name : Bytes)
    (rest : List Bytes) :
    fs.walk follow links at_ (name :: rest) = match fs.hop follow links at_ name rest with
      | .stop result => result
      | .go links at_ names => fs.walk follow links at_ names := by
  rw [walk]
  unfold hop
  repeat' split
  all_goals simp_all

@[simp]
theorem walk_nil (fs : FileSystem) (follow : Bool) (links : Nat) (at_ : Place) :
    fs.walk follow links at_ [] = .ok (.present at_) := by
  rw [walk]

/-- Induction along the hops of a lookup. -/
theorem hop_induction (fs : FileSystem) (follow : Bool)
    {motive : Nat → Place → List Bytes → Prop}
    (done : ∀ links at_, motive links at_ [])
    (stop : ∀ links at_ name rest result, fs.hop follow links at_ name rest = .stop result →
      motive links at_ (name :: rest))
    (go : ∀ links at_ name rest links' at' names',
      fs.hop follow links at_ name rest = .go links' at' names' → motive links' at' names' →
      motive links at_ (name :: rest)) :
    ∀ links at_ names, motive links at_ names
  | links, at_, [] => done links at_
  | links, at_, name :: rest => by
    cases goes : fs.hop follow links at_ name rest with
    | stop result => exact stop links at_ name rest result goes
    | go links' at' names' =>
      have smaller := hop_decreases goes
      exact go links at_ name rest links' at' names' goes
        (hop_induction fs follow done stop go links' at' names')
termination_by links _ names => (links, names.length)
decreasing_by
  rcases smaller with fewer | ⟨rfl, rfl⟩
  · exact Prod.Lex.left _ _ fewer
  · exact Prod.Lex.right _ (by simp)

/-- A name that denotes an entry of a directory, and neither the directory nor the one above it. -/
def isOrdinary (name : Bytes) : Bool :=
  name != [] && name != Path.here && name != Path.up

theorem isOrdinary_iff {name : Bytes} :
    isOrdinary name = true ↔ name ≠ [] ∧ name ≠ Path.here ∧ name ≠ Path.up := by
  simp [isOrdinary, and_assoc]

theorem bne_here {name : Bytes} (ordinary : isOrdinary name = true) : (name != Path.here) = true :=
  bne_iff_ne.mpr (isOrdinary_iff.mp ordinary).2.1

/-- A hop looks at the place where the lookup stands, and at that of the name if it is ordinary. -/
theorem hop_congr {fs fs' : FileSystem} {follow : Bool} {links : Nat} {at_ : Place} {name : Bytes}
    {rest : List Bytes} (here : fs'.get? at_ = fs.get? at_)
    (there : isOrdinary name = true → fs'.get? (name :: at_) = fs.get? (name :: at_)) :
    fs'.hop follow links at_ name rest = fs.hop follow links at_ name rest := by
  unfold hop
  rw [here]
  by_cases ordinary : isOrdinary name = true
  · rw [there ordinary]
  · have special : name = [] ∨ name = Path.here ∨ name = Path.up := by
      simpa [isOrdinary, Classical.or_iff_not_imp_left] using ordinary
    rcases special with rfl | rfl | rfl <;> simp [Path.here, Path.up]

/-- A hop from an entry leads to an entry, and an ordinary name that it takes denotes one. -/
theorem hop_present {fs : FileSystem} (closed : fs.Closed) {follow : Bool} {links : Nat}
    {at_ : Place} {name : Bytes} {rest : List Bytes} {links' : Nat} {at' : Place}
    {names' : List Bytes} (here : (fs.get? at_).isSome)
    (goes : fs.hop follow links at_ name rest = .go links' at' names') :
    (fs.get? at').isSome ∧ (isOrdinary name = true → (fs.get? (name :: at_)).isSome) := by
  have above : (fs.get? at_.tail).isSome := by
    cases at_ with
    | nil => exact here
    | cons head dir =>
      obtain ⟨mode, found⟩ := isDirectoryAt_iff.mp (closed head dir here)
      rw [List.tail_cons, found]
      rfl
  unfold hop at goes
  repeat' split at goes
  all_goals
    cases goes
    try simp_all [isOrdinary]

/-- A hop that ends a lookup well has come to its last name: nothing has it, or a link that is not
followed does. -/
theorem hop_stop_ok {fs : FileSystem} {follow : Bool} {links : Nat} {at_ : Place} {name : Bytes}
    {rest : List Bytes} {spot : Spot} (stops : fs.hop follow links at_ name rest = .stop (.ok spot)) :
    rest = [] ∧ isOrdinary name = true ∧
      (spot = .absent (name :: at_) ∧ fs.get? (name :: at_) = none ∨
        spot = .present (name :: at_) ∧ follow = false ∧ (fs.get? (name :: at_)).isSome) := by
  unfold hop at stops
  repeat' split at stops
  all_goals simp_all [isOrdinary]

/-- Where links are followed to the end, it has found nothing. -/
theorem hop_stop_absent {fs : FileSystem} {links : Nat} {at_ : Place} {name : Bytes}
    {rest : List Bytes} {spot : Spot} (stops : fs.hop true links at_ name rest = .stop (.ok spot)) :
    spot = .absent (name :: at_) := by
  obtain ⟨_, _, ⟨same, _⟩ | ⟨_, unfollowed, _⟩⟩ := hop_stop_ok stops
  · exact same
  · cases unfollowed

/-! ### The trail of a lookup -/

/-- The places that a lookup looks at; the place where it ends is the last one. -/
def trail (fs : FileSystem) (follow : Bool) (links : Nat) (at_ : Place) (names : List Bytes) :
    List Place :=
  match names with
  | [] => [at_]
  | name :: rest =>
    at_ :: (if isOrdinary name then [name :: at_] else []) ++
      match _goes : fs.hop follow links at_ name rest with
      | .stop _ => []
      | .go links' at' names' => fs.trail follow links' at' names'
termination_by (links, names.length)
decreasing_by
  rcases hop_decreases _goes with fewer | ⟨rfl, rfl⟩
  · exact Prod.Lex.left _ _ fewer
  · exact Prod.Lex.right _ (by simp)

theorem trail_nil (fs : FileSystem) (follow : Bool) (links : Nat) (at_ : Place) :
    fs.trail follow links at_ [] = [at_] := by
  rw [trail]

theorem trail_cons (fs : FileSystem) (follow : Bool) (links : Nat) (at_ : Place) (name : Bytes)
    (rest : List Bytes) :
    fs.trail follow links at_ (name :: rest)
      = at_ :: (if isOrdinary name then [name :: at_] else []) ++
        match fs.hop follow links at_ name rest with
        | .stop _ => []
        | .go links at_ names => fs.trail follow links at_ names := by
  rw [trail]
  congr 1
  split <;> rename_i goes <;> rw [goes]

theorem mem_trail_cons {fs : FileSystem} {follow : Bool} {links : Nat} {at_ : Place} {name : Bytes}
    {rest : List Bytes} {place : Place} :
    place ∈ fs.trail follow links at_ (name :: rest) ↔
      place = at_ ∨ (isOrdinary name = true ∧ place = name :: at_) ∨
        ∃ links' at' names', fs.hop follow links at_ name rest = .go links' at' names' ∧
          place ∈ fs.trail follow links' at' names' := by
  rw [trail_cons]
  cases fs.hop follow links at_ name rest <;> simp

/-- A hop that ends a lookup has looked at its place and its name, as every hop from there does. -/
theorem mem_trail_of_stop {fs fs' : FileSystem} {follow follow' : Bool} {links links' : Nat}
    {at_ place : Place} {name : Bytes} {rest rest' : List Bytes} {result : Except Fault Spot}
    (stops : fs.hop follow links at_ name rest = .stop result)
    (member : place ∈ fs.trail follow links at_ (name :: rest)) :
    place ∈ fs'.trail follow' links' at_ (name :: rest') := by
  rcases mem_trail_cons.mp member with first | named | ⟨_, _, _, goes, _⟩
  · exact mem_trail_cons.mpr (.inl first)
  · exact mem_trail_cons.mpr (.inr (.inl named))
  · rw [stops] at goes
    cases goes

/-- **Only the entries on its trail decide what a lookup finds.** -/
theorem walk_congr {fs fs' : FileSystem} {follow : Bool} {links : Nat} {at_ : Place}
    {names : List Bytes}
    (same : ∀ place ∈ fs.trail follow links at_ names, fs'.get? place = fs.get? place) :
    fs'.walk follow links at_ names = fs.walk follow links at_ names ∧
      fs'.trail follow links at_ names = fs.trail follow links at_ names := by
  induction links, at_, names using hop_induction fs follow with
  | done links at_ => simp [trail_nil]
  | stop links at_ name rest result stops =>
    have hops : fs'.hop follow links at_ name rest = fs.hop follow links at_ name rest :=
      hop_congr (same at_ (mem_trail_cons.mpr (.inl rfl))) fun ordinary =>
        same (name :: at_) (mem_trail_cons.mpr (.inr (.inl ⟨ordinary, rfl⟩)))
    simp only [walk_cons, trail_cons, hops, stops, and_self]
  | go links at_ name rest links' at' names' goes ih =>
    have hops : fs'.hop follow links at_ name rest = fs.hop follow links at_ name rest :=
      hop_congr (same at_ (mem_trail_cons.mpr (.inl rfl))) fun ordinary =>
        same (name :: at_) (mem_trail_cons.mpr (.inr (.inl ⟨ordinary, rfl⟩)))
    obtain ⟨walks, trails⟩ := ih fun place member =>
      same place (mem_trail_cons.mpr (.inr (.inr ⟨_, _, _, goes, member⟩)))
    simp only [walk_cons, trail_cons, hops, goes, walks, trails, and_self]

/-- A lookup that starts at an entry and ends well has looked at entries only, apart from the free
place at which it may have ended. -/
theorem trail_present {fs : FileSystem} (closed : fs.Closed) {follow : Bool} {links : Nat}
    {at_ : Place} {names : List Bytes} {spot : Spot} (here : (fs.get? at_).isSome)
    (finds : fs.walk follow links at_ names = .ok spot) :
    ∀ place ∈ fs.trail follow links at_ names, (fs.get? place).isSome ∨ spot = .absent place := by
  induction links, at_, names using hop_induction fs follow with
  | done links at_ =>
    intro place member
    rw [trail_nil, List.mem_singleton] at member
    exact .inl (member ▸ here)
  | stop links at_ name rest result stops =>
    rw [walk_cons, stops] at finds
    subst finds
    obtain ⟨rfl, _, ends⟩ := hop_stop_ok stops
    intro place member
    rcases mem_trail_cons.mp member with first | ⟨_, rfl⟩ | ⟨_, _, _, goes, _⟩
    · exact .inl (first ▸ here)
    · rcases ends with ⟨rfl, _⟩ | ⟨_, _, listed⟩
      · exact .inr rfl
      · exact .inl listed
    · rw [stops] at goes
      cases goes
  | go links at_ name rest links' at' names' goes ih =>
    rw [walk_cons, goes] at finds
    have next := hop_present closed here goes
    intro place member
    rcases mem_trail_cons.mp member with first | ⟨ordinary, rfl⟩ | ⟨_, _, _, goes', later⟩
    · exact .inl (first ▸ here)
    · exact .inl (next.2 ordinary)
    · rw [goes] at goes'
      cases goes'
      exact ih next.1 finds place later

/-- The place where a lookup ends is on its trail. -/
theorem mem_trail_end {fs : FileSystem} {follow : Bool} {links : Nat} {at_ : Place}
    {names : List Bytes} {found : Place}
    (finds : fs.walk follow links at_ names = .ok (.present found)) :
    found ∈ fs.trail follow links at_ names := by
  induction links, at_, names using hop_induction fs follow with
  | done links at_ =>
    rw [walk_nil] at finds
    cases finds
    rw [trail_nil]
    exact List.mem_singleton_self found
  | stop links at_ name rest result stops =>
    rw [walk_cons, stops] at finds
    subst finds
    obtain ⟨_, ordinary, ⟨other, _⟩ | ⟨same, _⟩⟩ := hop_stop_ok stops
    · cases other
    · cases same
      exact mem_trail_cons.mpr (.inr (.inl ⟨ordinary, rfl⟩))
  | go links at_ name rest links' at' names' goes ih =>
    rw [walk_cons, goes] at finds
    exact mem_trail_cons.mpr (.inr (.inr ⟨_, _, _, goes, ih finds⟩))

/-- The entries of `fs'` are those of `fs` and perhaps others. -/
def Extends (fs' fs : FileSystem) : Prop :=
  ∀ place, (fs.get? place).isSome → fs'.get? place = fs.get? place

theorem Extends.trans {fs fs' fs'' : FileSystem} (later : fs''.Extends fs')
    (earlier : fs'.Extends fs) : fs''.Extends fs := by
  intro place listed
  have same := earlier place listed
  rw [later place (same ▸ listed), same]

theorem extends_put {fs : FileSystem} {place : Place} (entry : Entry) (proper : place ≠ [])
    (free : fs.get? place = none) : (fs.put place entry).Extends fs := by
  intro other listed
  rw [get?_put _ _ _ proper, if_neg]
  rintro rfl
  rw [free] at listed
  cases listed

/-- **What was found is found again** when entries have been added only. -/
theorem walk_extends {fs fs' : FileSystem} (closed : fs.Closed) (extension : fs'.Extends fs)
    {follow : Bool} {links : Nat} {at_ : Place} {names : List Bytes} {found : Place}
    (here : (fs.get? at_).isSome) (finds : fs.walk follow links at_ names = .ok (.present found)) :
    fs'.walk follow links at_ names = .ok (.present found) := by
  rw [(walk_congr fun place member => ?_).1, finds]
  rcases trail_present closed here finds place member with listed | free
  · exact extension place listed
  · cases free

/-- What a lookup finds from an entry is an entry. -/
theorem walk_present {fs : FileSystem} (closed : fs.Closed) {follow : Bool} {links : Nat}
    {at_ : Place} {names : List Bytes} {found : Place} (here : (fs.get? at_).isSome)
    (finds : fs.walk follow links at_ names = .ok (.present found)) : (fs.get? found).isSome := by
  rcases trail_present closed here finds found (mem_trail_end finds) with listed | free
  · exact listed
  · cases free

/-! ### Longer paths -/

/-- A hop that goes on does so with any further names. -/
theorem hop_append {fs : FileSystem} {links : Nat} {at_ : Place} {name : Bytes} {rest : List Bytes}
    {links' : Nat} {at' : Place} {names' : List Bytes}
    (goes : fs.hop true links at_ name rest = .go links' at' names') (follow : Bool)
    (further : List Bytes) (some_more : further ≠ []) :
    fs.hop follow links at_ name (rest ++ further) = .go links' at' (names' ++ further) := by
  have more : ¬ (rest ++ further = []) := by simp [some_more]
  unfold hop at goes ⊢
  repeat' split at goes
  all_goals
    cases goes
    try simp_all

/-- **A lookup of a longer path** goes on from where the shorter one ended. -/
theorem walk_append {fs : FileSystem} {links : Nat} {at_ : Place} {names : List Bytes}
    {found : Place} (finds : fs.walk true links at_ names = .ok (.present found)) :
    ∃ left, ∀ follow further, further ≠ [] →
      fs.walk follow links at_ (names ++ further) = fs.walk follow left found further := by
  induction links, at_, names using hop_induction fs true with
  | done links at_ =>
    rw [walk_nil] at finds
    cases finds
    exact ⟨links, fun _ _ _ => rfl⟩
  | stop links at_ name rest result stops =>
    rw [walk_cons, stops] at finds
    subst finds
    cases hop_stop_absent stops
  | go links at_ name rest links' at' names' goes ih =>
    rw [walk_cons, goes] at finds
    obtain ⟨left, continues⟩ := ih finds
    refine ⟨left, fun follow further some_more => ?_⟩
    rw [List.cons_append, walk_cons, hop_append goes follow further some_more]
    exact continues follow further some_more

/-- The trail of a longer path goes on from that of the shorter one. -/
theorem trail_append {fs : FileSystem} {follow : Bool} {links : Nat} {at_ : Place}
    {names : List Bytes} {place : Place} (member : place ∈ fs.trail true links at_ names)
    (further : List Bytes) (longer : further = [] → follow = true) :
    place ∈ fs.trail follow links at_ (names ++ further) := by
  by_cases some_more : further = []
  · rw [some_more, List.append_nil, longer some_more]
    exact member
  induction links, at_, names using hop_induction fs true with
  | done links at_ =>
    rw [trail_nil, List.mem_singleton] at member
    obtain ⟨name, rest, rfl⟩ := List.exists_cons_of_ne_nil some_more
    exact mem_trail_cons.mpr (.inl member)
  | stop links at_ name rest result stops => exact mem_trail_of_stop stops member
  | go links at_ name rest links' at' names' goes ih =>
    rcases mem_trail_cons.mp member with first | named | ⟨_, _, _, goes', later⟩
    · exact mem_trail_cons.mpr (.inl first)
    · exact mem_trail_cons.mpr (.inr (.inl named))
    · rw [goes] at goes'
      cases goes'
      exact mem_trail_cons.mpr (.inr (.inr ⟨_, _, _, hop_append goes follow further some_more,
        ih later⟩))

end CalcBuild.Files.FileSystem

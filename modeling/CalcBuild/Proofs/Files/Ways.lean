/-
**Ways, and directories made on two sides.**

* `wayTo`: the places looked at on the way to all that the components of a path lead to;
* `mem_wayTo_join`: with a name joined to the path, one place more is looked at;
* `Partly`, `descend_together`: directories of which some are missing below a directory, and making them
  in two file systems that each have some of them.
-/

import CalcBuild.Proofs.Files.Descent

namespace CalcBuild.Files.FileSystem

/-! ### Ways -/

/-- The places looked at on the way to what all components of a path lead to. -/
def wayTo (fs : FileSystem) (cwd : Place) (path : Bytes) : List Place :=
  fs.trail true linkLimit (start cwd path) (Path.names path)

section Ways

variable {fs own : FileSystem} {cwd : Place} {path leaf : Bytes}

theorem wayTo_congr (agree : own.AgreeOn fs (fs.wayTo cwd path)) :
    own.walk true linkLimit (start cwd path) (Path.names path)
        = fs.walk true linkLimit (start cwd path) (Path.names path) ∧
      own.wayTo cwd path = fs.wayTo cwd path :=
  walk_congr agree

theorem wayTo_subset_seenOn (fs : FileSystem) (cwd : Place) (path : Bytes) :
    fs.wayTo cwd path ⊆ fs.seenOn cwd path := by
  intro place member
  unfold seenOn Path.components
  split
  · exact trail_append member [[]] fun _ => rfl
  · exact member

theorem lookedAt_subset_wayTo (fs : FileSystem) (cwd : Place) (path : Bytes) :
    fs.lookedAt cwd path ⊆ fs.wayTo cwd path := by
  intro place member
  unfold wayTo
  cases last : (Path.names path).getLast? with
  | none =>
    unfold lookedAt at member
    rw [List.getLast?_eq_none_iff.mp last] at member ⊢
    exact member
  | some name =>
    obtain ⟨before, parts⟩ := List.getLast?_eq_some_iff.mp last
    unfold lookedAt at member
    rw [parts, List.dropLast_concat] at member
    rw [parts]
    exact trail_append member [name] fun _ => rfl

/-- What is looked at after an entry on a longer path is looked at on it. -/
theorem mem_trail_after {links : Nat} {at_ : Place} {names : List Bytes} {found : Place}
    (finds : fs.walk true links at_ names = .ok (.present found)) :
    ∃ left, ∀ follow further, further ≠ [] → ∀ place ∈ fs.trail follow left found further,
      place ∈ fs.trail follow links at_ (names ++ further) := by
  induction links, at_, names using hop_induction fs true with
  | done links at_ =>
    rw [walk_nil] at finds
    cases finds
    exact ⟨links, fun _ _ _ _ member => member⟩
  | stop links at_ name rest result stops =>
    rw [walk_cons, stops] at finds
    subst finds
    cases hop_stop_absent stops
  | go links at_ name rest links' at' names' goes ih =>
    rw [walk_cons, goes] at finds
    obtain ⟨left, continues⟩ := ih finds
    refine ⟨left, fun follow further more place member => ?_⟩
    rw [List.cons_append]
    exact mem_trail_cons.mpr (.inr (.inr ⟨_, _, _, hop_append goes follow further more,
      continues follow further more place member⟩))

/-- What a path denotes is looked at on the way to what it leads to. -/
theorem mem_wayTo_of_ending {dir : Place} {name : Bytes} {slashed : Bool}
    (ends : fs.ending cwd path = .ok (.name dir name slashed)) : name :: dir ∈ fs.wayTo cwd path := by
  obtain ⟨_, last, finds, _⟩ := ending_name ends
  obtain ⟨before, parts⟩ := List.getLast?_eq_some_iff.mp last
  have ordinary := ending_ordinary ends
  rw [parts, List.dropLast_concat] at finds
  unfold wayTo
  rw [parts]
  obtain ⟨left, continues⟩ := mem_trail_after finds
  exact continues true [name] (List.cons_ne_nil _ _) _ (mem_trail_cons.mpr (.inr (.inl ⟨ordinary, rfl⟩)))

/-- A path leads to a directory also where the way to it is the same. -/
theorem Rests.congr {base : Place} (rests : fs.Rests cwd path base)
    (agree : own.AgreeOn fs (fs.wayTo cwd path)) : own.Rests cwd path base := by
  obtain ⟨mode, directory, enters⟩ := rests.enters
  refine ⟨rests.sane, (wayTo_congr agree).1.trans rests.leads, mode, ?_, enters⟩
  rw [agree base (mem_trail_end rests.leads), directory]

theorem start_join (isLeaf : Path.IsLeaf leaf) (path : Bytes) :
    start cwd (Path.join path leaf) = start cwd path := by
  unfold start Path.join
  rw [isLeaf.isAbsolute, if_neg Bool.false_ne_true]
  cases path with
  | nil =>
    have relative := isLeaf.isAbsolute
    simp only [decide_true, Bool.true_or, if_true, List.nil_append, relative]
    rfl
  | cons byte rest => split <;> rfl

/-- What a path with a name joined to it denotes is decided on the way to the path. -/
theorem lookedAt_join (isLeaf : Path.IsLeaf leaf) (fs : FileSystem) (cwd : Place) (path : Bytes) :
    fs.lookedAt cwd (Path.join path leaf) = fs.wayTo cwd path := by
  unfold lookedAt wayTo
  rw [start_join isLeaf, Path.names_join path isLeaf, List.dropLast_concat]

theorem seenOn_join (isLeaf : Path.IsLeaf leaf) (fs : FileSystem) (cwd : Place) (path : Bytes) :
    fs.seenOn cwd (Path.join path leaf) = fs.wayTo cwd (Path.join path leaf) := by
  unfold seenOn wayTo Path.components
  rw [Path.endsWithSlash_join path isLeaf, if_neg Bool.false_ne_true]

/-- The trail of a longer path is that of the shorter one, and goes on where that came to an entry. -/
theorem mem_trail_append {follow : Bool} {links : Nat} {at_ : Place} {names further : List Bytes}
    {place : Place} (member : place ∈ fs.trail follow links at_ (names ++ further))
    (more : further ≠ []) :
    place ∈ fs.trail true links at_ names ∨
      ∃ found left, fs.walk true links at_ names = .ok (.present found) ∧
        place ∈ fs.trail follow left found further := by
  induction links, at_, names using hop_induction fs true with
  | done links at_ => exact .inr ⟨at_, links, walk_nil .., member⟩
  | stop links at_ name rest result stops =>
    rw [List.cons_append] at member
    rcases mem_trail_cons.mp member with first | named | ⟨_, _, _, goes, _⟩
    · exact .inl (mem_trail_cons.mpr (.inl first))
    · exact .inl (mem_trail_cons.mpr (.inr (.inl named)))
    · rw [hop_append_stop stops follow more] at goes
      cases goes
  | go links at_ name rest links' at' names' goes ih =>
    rw [List.cons_append] at member
    rcases mem_trail_cons.mp member with first | named | ⟨_, _, _, goes', later⟩
    · exact .inl (mem_trail_cons.mpr (.inl first))
    · exact .inl (mem_trail_cons.mpr (.inr (.inl named)))
    · rw [hop_append goes follow further more] at goes'
      cases goes'
      rcases ih later with earlier | ⟨found, left, walks, beyond⟩
      · exact .inl (mem_trail_cons.mpr (.inr (.inr ⟨_, _, _, goes, earlier⟩)))
      · refine .inr ⟨found, left, ?_, beyond⟩
        rw [walk_cons, goes]
        exact walks

/-- The last hop of a lookup, if its name is that of no link. -/
theorem mem_trail_last {links : Nat} {dir : Place} {place : Place} (ordinary : isOrdinary leaf = true)
    (plain : ∀ target, fs.get? (leaf :: dir) ≠ some (.link target))
    (member : place ∈ fs.trail true links dir [leaf]) : place = dir ∨ place = leaf :: dir := by
  have proper := isOrdinary_iff.mp ordinary
  rcases mem_trail_cons.mp member with first | ⟨_, named⟩ | ⟨links', at', names', goes, later⟩
  · exact .inl first
  · exact .inr named
  · unfold hop at goes
    repeat' split at goes
    all_goals
      first
        | contradiction
        | (cases goes
           rw [trail_nil, List.mem_singleton] at later
           exact .inr later)
        | simp_all

/-- **With a name joined to a path, one place more is looked at**, unless there is a link. -/
theorem mem_wayTo_join (isLeaf : Path.IsLeaf leaf)
    (plain : ∀ dir, fs.walk true linkLimit (start cwd path) (Path.names path) = .ok (.present dir) →
      ∀ target, fs.get? (leaf :: dir) ≠ some (.link target))
    {place : Place} (member : place ∈ fs.wayTo cwd (Path.join path leaf)) :
    place ∈ fs.wayTo cwd path ∨ ∃ dir,
      fs.walk true linkLimit (start cwd path) (Path.names path) = .ok (.present dir) ∧
        place = leaf :: dir := by
  unfold wayTo at member
  rw [start_join isLeaf, Path.names_join path isLeaf] at member
  rcases mem_trail_append member (List.cons_ne_nil _ _) with earlier | ⟨dir, left, walks, last⟩
  · exact .inl earlier
  · rcases mem_trail_last isLeaf.ordinary (plain dir walks) last with rfl | named
    · exact .inl (mem_trail_end walks)
    · exact .inr ⟨dir, walks, named⟩

end Ways

/-! ### Directories that are missing -/

section Below

variable {fs own : FileSystem} {base : Place} {mode : Mode} {names : List Bytes} {place : Place}

theorem Full.get? (full : fs.Full base names) (below : Below base names place) :
    fs.get? place = some (.directory Mode.ofDirectory) := by
  induction names with
  | nil => exact absurd below not_below_nil
  | cons name above ih =>
    rcases below_cons.mp below with rfl | below
    · exact full.2.2
    · exact ih full.1 below

/-- Of the directories below a directory some exist, and only if the directory allows it. -/
structure Partly (fs : FileSystem) (base : Place) (names : List Bytes) : Prop where
  ordinary : ∀ name ∈ names, isOrdinary name = true
  listed : ∀ place, Below base names place → fs.get? place = none ∨
    fs.get? place = some (.directory Mode.ofDirectory) ∧ fs.mayChange base = true

theorem Partly.tail {name : Bytes} (part : fs.Partly base (name :: names)) : fs.Partly base names where
  ordinary := fun other member => part.ordinary other (List.mem_cons_of_mem _ member)
  listed := fun place below => part.listed place (below_cons.mpr (.inr below))

theorem Partly.bare (part : fs.Partly base names) : fs.Bare base names := by
  induction names with
  | nil => exact True.intro
  | cons name above ih =>
    exact ⟨ih part.tail, part.ordinary name List.mem_cons_self,
      (part.listed _ (below_cons.mpr (.inl rfl))).imp_right And.left⟩

/-- What is known of missing directories holds while they stay as they are. -/
theorem Partly.congr {fs' : FileSystem} (part : fs.Partly base names)
    (here : fs'.get? base = fs.get? base)
    (same : ∀ place, Below base names place → fs'.get? place = fs.get? place) :
    fs'.Partly base names where
  ordinary := part.ordinary
  listed := fun place below => by
    rw [same place below, mayChange_congr here]
    exact part.listed place below

theorem Full.congr {fs' : FileSystem} (full : fs.Full base names)
    (same : ∀ place, Below base names place → fs'.get? place = fs.get? place) :
    fs'.Full base names := by
  induction names with
  | nil => exact True.intro
  | cons name above ih =>
    refine ⟨ih full.1 fun place below => same place (below_cons.mpr (.inr below)), full.2.1, ?_⟩
    rw [same _ (below_cons.mpr (.inl rfl))]
    exact full.2.2

/-- What making a directory comes to where one is found only if it could be made. -/
theorem makeAt_view {dir : Place} {name : Bytes} (listed : fs.get? (name :: dir) = none ∨
      fs.get? (name :: dir) = some (.directory Mode.ofDirectory) ∧ fs.mayChange dir = true) :
    (fs.makeAt dir name).2 = (if longestName < name.length then .error Fault.nameTooLong.cause
        else if fs.mayChange dir then .ok () else .error Fault.permissionDenied.cause) ∧
      ∀ place, (fs.makeAt dir name).1.get? place
        = if place = name :: dir ∧ ¬ longestName < name.length ∧ fs.mayChange dir = true
          then some (.directory Mode.ofDirectory) else fs.get? place := by
  unfold makeAt
  by_cases long : longestName < name.length
  · simp [long]
  · rcases listed with free | ⟨found, allowed⟩
    · by_cases allowed : fs.mayChange dir = true
      · simp [long, free, allowed, get?_put]
      · simp [long, free, allowed]
    · refine ⟨by simp [long, found, allowed], fun place => ?_⟩
      by_cases same : place = name :: dir
      · simp [long, allowed, same, found]
      · simp [long, same, found]

theorem mayChange_ofDirectory (found : fs.get? place = some (.directory Mode.ofDirectory)) :
    fs.mayChange place = true :=
  mayChange_iff.mpr ⟨_, found, by decide, by decide⟩

/-- The innermost directory that was made may be changed; if none was, it is the one that was there. -/
theorem mayChange_made (bare : fs.Bare base names) {made : FileSystem}
    (makes : fs.descend base names = (made, .ok ())) {before : FileSystem}
    (same : made.get? base = before.get? base) :
    made.mayChange (names ++ base) = (names != [] || before.mayChange base) := by
  cases names with
  | nil => exact mayChange_congr same
  | cons name above =>
    exact mayChange_ofDirectory (descend_full bare makes).2.2

/-- **Making directories that are missing does the same in both**, whichever of them each has. -/
theorem descend_together (directory : fs.get? base = some (.directory mode))
    (same : own.get? base = fs.get? base) (part : fs.Partly base names)
    (partOwn : own.Partly base names) :
    (own.descend base names).2 = (fs.descend base names).2 ∧ ∀ place,
      (fs.descend base names).1.get? place = fs.get? place ∧
        (own.descend base names).1.get? place = own.get? place ∨
      Below base names place ∧ fs.mayChange base = true ∧
        (fs.descend base names).1.get? place = some (.directory Mode.ofDirectory) ∧
        (own.descend base names).1.get? place = some (.directory Mode.ofDirectory) := by
  induction names with
  | nil => exact ⟨rfl, fun place => .inl ⟨rfl, rfl⟩⟩
  | cons name above ih =>
    obtain ⟨results, places⟩ := ih part.tail partOwn.tail
    have bare := part.tail.bare
    have bareOwn := partOwn.tail.bare
    have kept := descend_other fs (not_below_deeper name above base)
    have keptOwn := descend_other own (not_below_deeper name above base)
    have standing := descend_extends fs base above base (by rw [directory]; rfl)
    have standingOwn := descend_extends own base above base (by rw [same, directory]; rfl)
    rw [descend, descend]
    cases descends : fs.descend base above with
    | mk partly result =>
      cases descends' : own.descend base above with
      | mk partly' result' =>
        rw [descends] at results places kept standing
        rw [descends'] at results places keptOwn standingOwn
        dsimp only at results places kept keptOwn standing standingOwn
        subst results
        cases result' with
        | error cause => exact ⟨rfl, fun place => (places place).imp_right fun made =>
            ⟨below_cons.mpr (.inr made.1), made.2⟩⟩
        | ok done =>
          have allows := mayChange_made bare descends standing
          have allowsOwn := mayChange_made bareOwn descends' (standingOwn.trans same)
          have last := part.listed _ (below_cons.mpr (.inl rfl))
          have lastOwn := partOwn.listed _ (below_cons.mpr (.inl rfl))
          rw [mayChange_congr same] at lastOwn
          have next : partly.get? (name :: (above ++ base)) = none ∨
              partly.get? (name :: (above ++ base)) = some (.directory Mode.ofDirectory) ∧
                partly.mayChange (above ++ base) = true := by
            rw [kept, allows]
            exact last.imp_right fun listed => ⟨listed.1, by simp [listed.2]⟩
          have nextOwn : partly'.get? (name :: (above ++ base)) = none ∨
              partly'.get? (name :: (above ++ base)) = some (.directory Mode.ofDirectory) ∧
                partly'.mayChange (above ++ base) = true := by
            rw [keptOwn, allowsOwn]
            exact lastOwn.imp_right fun listed => ⟨listed.1, by simp [listed.2]⟩
          obtain ⟨ends, view⟩ := makeAt_view next
          obtain ⟨endsOwn, viewOwn⟩ := makeAt_view nextOwn
          dsimp only
          refine ⟨by rw [ends, endsOwn, allows, allowsOwn], fun place => ?_⟩
          rw [view, viewOwn, allows, allowsOwn]
          by_cases here : place = name :: (above ++ base)
          · by_cases makes : ¬ longestName < name.length ∧ (above != [] || fs.mayChange base) = true
            · refine .inr ⟨below_cons.mpr (.inl here), ?_, if_pos ⟨here, makes⟩, if_pos ⟨here, makes⟩⟩
              by_cases outermost : above = []
              · simpa [outermost] using makes.2
              · -- The directory above is there now: it was made, or could have been.
                have inner : Below base above (above ++ base) :=
                  ⟨isWithin_self _, by simpa using List.length_pos_iff.mpr outermost⟩
                rcases places (above ++ base) with ⟨unchanged, _⟩ | ⟨_, allowed, _⟩
                · have found := (descend_full bare descends).get? inner
                  rw [unchanged] at found
                  rcases part.tail.listed _ inner with free | ⟨_, allowed⟩
                  · rw [free] at found
                    cases found
                  · exact allowed
                · exact allowed
            · exact .inl ⟨(if_neg fun both => makes both.2).trans (here ▸ kept),
                (if_neg fun both => makes both.2).trans (here ▸ keptOwn)⟩
          · rw [if_neg fun both => here both.1, if_neg fun both => here both.1]
            exact (places place).imp_right fun made => ⟨below_cons.mpr (.inr made.1), made.2⟩

end Below

end CalcBuild.Files.FileSystem

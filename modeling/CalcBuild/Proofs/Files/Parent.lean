/-
**The directory above a path.**

The parent of a path is told by its text alone: the last component is taken off, with the components `.`
before and after it. A lookup goes through links and `..`, but a `.` leads it nowhere else, so it finds at
the parent the directory in which it looks up the last component.

* `Path.parent_shape`: what is taken off;
* `Path.mem_ancestors`: the ancestors of a path are where the path begins;
* `walk_idle`, `walk_from_root`: lookups with components that lead nowhere else, and from the root;
* `LeadsInto`: a path leads to a directory that may be entered;
* `ending_iff_leadsInto`: the directory in which the last component of a path is looked up.
-/

import CalcBuild.Proofs.Files.Absolute
import CalcBuild.Proofs.Files.Ways

namespace CalcBuild.Files

namespace Path

/-! ### Components at the end of a reversed path -/

/-- The component that is taken off a reversed path has no slash, and one comes after it if anything
does. -/
theorem popComponent_spec (reversed : Bytes) :
    slash ∉ (popComponent reversed).1 ∧
      (reversed = (popComponent reversed).1 ∧ (popComponent reversed).2 = [] ∨
        reversed = (popComponent reversed).1 ++ slash :: (popComponent reversed).2) := by
  induction reversed with
  | nil => exact ⟨List.not_mem_nil, .inl ⟨rfl, rfl⟩⟩
  | cons byte rest ih =>
    unfold popComponent at ih ⊢
    by_cases mark : byte = slash
    · simp [mark]
    · simp only [List.takeWhile_cons, List.dropWhile_cons, bne_iff_ne, ne_eq, mark, not_false_eq_true,
        if_true, List.mem_cons, not_or, List.cons_append, List.cons.injEq, true_and]
      exact ⟨⟨Ne.symm mark, ih.1⟩, ih.2⟩

theorem suffix_popComponent (reversed : Bytes) : (popComponent reversed).2 <:+ reversed :=
  (List.drop_suffix _ _).trans (List.dropWhile_suffix _)

theorem names_popComponent (reversed : Bytes) : names reversed.reverse
    = names (popComponent reversed).2.reverse ++ names (popComponent reversed).1.reverse := by
  obtain ⟨_, ⟨whole, nothing⟩ | split⟩ := popComponent_spec reversed
  · rw [nothing, ← whole]
    rfl
  · conv_lhs => rw [split]
    rw [List.reverse_append, List.reverse_cons, List.append_assoc, List.singleton_append, names_append]

/-- **Only `.` is taken off the end** of a reversed path, and it ends in another component after that. -/
theorem trimEnd_spec {steps : Nat} {reversed : Bytes} (enough : reversed.length ≤ steps) :
    trimEnd steps reversed <:+ reversed ∧
      (∃ dots, (∀ dot ∈ dots, dot = here) ∧
        names reversed.reverse = names (trimEnd steps reversed).reverse ++ dots) ∧
      (trimEnd steps reversed ≠ [] →
        (popComponent (trimEnd steps reversed)).1 ≠ [] ∧
          (popComponent (trimEnd steps reversed)).1 ≠ here) := by
  induction steps generalizing reversed with
  | zero =>
    obtain rfl := List.length_eq_zero_iff.mp (Nat.le_zero.mp enough)
    exact ⟨List.suffix_refl _, ⟨[], nofun, rfl⟩, fun proper => absurd rfl proper⟩
  | succ steps ih =>
    unfold trimEnd
    by_cases empty : reversed = []
    · rw [if_pos empty]
      exact ⟨List.nil_suffix, ⟨[], nofun, by rw [empty]; rfl⟩, fun proper => absurd rfl proper⟩
    rw [if_neg empty]
    dsimp only
    by_cases idle : (popComponent reversed).1 = [] ∨ (popComponent reversed).1 = here
    · rw [if_pos (by simpa using idle)]
      have shorter : (popComponent reversed).2.length ≤ steps := by
        have positive := List.length_pos_iff.mpr empty
        obtain ⟨_, ⟨_, nothing⟩ | split⟩ := popComponent_spec reversed
        · rw [nothing]
          exact Nat.zero_le _
        · have lengths := congrArg List.length split
          rw [List.length_append, List.length_cons] at lengths
          omega
      obtain ⟨suffix, ⟨dots, all_dots, parts⟩, proper⟩ := ih shorter
      refine ⟨suffix.trans (suffix_popComponent reversed), ?_, proper⟩
      rw [names_popComponent reversed, parts, List.append_assoc]
      refine ⟨_, fun dot member => ?_, rfl⟩
      rcases List.mem_append.mp member with listed | listed
      · exact all_dots dot listed
      · rcases idle with nothing | isHere
        · rw [nothing] at listed
          cases listed
        · rw [isHere] at listed
          exact List.mem_singleton.mp listed
    · rw [if_neg (by simpa using idle)]
      exact ⟨List.suffix_refl _, ⟨[], nofun, (List.append_nil _).symm⟩, fun _ => not_or.mp idle⟩

/-! ### The parent -/

/-- What a path begins with on its own: nothing, the root, or a `.` with nothing or a slash after it. -/
theorem leading_cases (path : Bytes) :
    path.take (leading path) = [] ∧ isAbsolute path = false ∨ path.take (leading path) = [slash] ∨
      path.take (leading path) = here ∧
        (path.drop (leading path) = [] ∨ ∃ rest, path.drop (leading path) = slash :: rest) := by
  match path with
  | [] => exact .inl ⟨rfl, rfl⟩
  | [byte] =>
    unfold leading isAbsolute
    by_cases root : byte = slash
    · simp [root]
    · by_cases dot : byte = 0x2E <;> simp [root, dot, here]
  | byte :: next :: rest =>
    have apart : (0x2E : UInt8) ≠ slash := by decide
    unfold leading isAbsolute
    by_cases root : byte = slash
    · simp [root]
    · by_cases dot : byte = 0x2E <;> by_cases next_root : next = slash <;>
        simp [root, dot, next_root, here, apart]

theorem isAbsolute_prefix {path begins : Bytes} (prefixed : begins <+: path) (proper : begins ≠ []) :
    isAbsolute begins = isAbsolute path := by
  obtain ⟨byte, rest, rfl⟩ := List.exists_cons_of_ne_nil proper
  obtain ⟨after, rfl⟩ := prefixed
  rfl

/-- With less after it, the beginning of a path is a component of its own, too. -/
theorem names_leading {path body : Bytes} (begins : body <+: path.drop (leading path)) :
    names (path.take (leading path) ++ body) = names (path.take (leading path)) ++ names body ∧
      isAbsolute (path.take (leading path) ++ body) = isAbsolute path := by
  have whole : path.take (leading path) ++ body <+: path := by
    conv_rhs => rw [← List.take_append_drop (leading path) path]
    exact (List.prefix_append_right_inj _).mpr begins
  rcases leading_cases path with ⟨nothing, relative⟩ | root | ⟨dot, further⟩
  · rw [nothing, List.nil_append] at whole ⊢
    refine ⟨rfl, ?_⟩
    by_cases empty : body = []
    · rw [empty, relative]
      rfl
    · exact isAbsolute_prefix whole empty
  · rw [root] at whole ⊢
    exact ⟨names_slash body, isAbsolute_prefix whole (List.cons_ne_nil _ _)⟩
  · rw [dot] at whole ⊢
    refine ⟨?_, isAbsolute_prefix whole (List.cons_ne_nil _ _)⟩
    cases body with
    | nil => rfl
    | cons byte body =>
      rcases further with nothing | ⟨rest, further⟩
      · rw [nothing] at begins
        exact absurd (List.prefix_nil.mp begins) (List.cons_ne_nil _ _)
      · rw [further] at begins
        obtain rfl := (List.cons_prefix_cons.mp begins).1
        rw [names_append, names_slash]

/-- **What is taken off a path** is its last component other than `.`, with the components `.` around it.
Where there is none there is no parent, or an empty one. -/
theorem parent_shape (path : Bytes) :
    (∀ name ∈ names path, name = here) ∧
        (parent path = none ∨ parent path = some [] ∧ isAbsolute path = false) ∨
      ∃ above dots last dots', parent path = some above ∧ above <+: path ∧
        isAbsolute above = isAbsolute path ∧ names path = names above ++ dots ++ last :: dots' ∧
        (∀ dot ∈ dots, dot = here) ∧ last ≠ here ∧ ∀ dot ∈ dots', dot = here := by
  have enough : (path.drop (leading path)).reverse.length ≤ path.length := by
    rw [List.length_reverse, List.length_drop]
    exact Nat.sub_le _ _
  have trimmed := trimEnd_spec enough
  have parts := (names_leading (List.prefix_refl (path.drop (leading path)))).1
  rw [List.take_append_drop] at parts
  rw [List.reverse_reverse] at trimmed
  unfold parent
  dsimp only
  generalize trimEnd path.length (path.drop (leading path)).reverse = body at trimmed
  obtain ⟨bodySuffix, ⟨dots', all_dots', bodyParts⟩, bodyProper⟩ := trimmed
  rw [parts, bodyParts]
  by_cases empty : body = []
  · left
    rw [if_pos empty, empty]
    have relative : path.take (leading path) = here → isAbsolute path = false := by
      intro dot
      rw [← (names_leading (List.nil_prefix (l := path.drop (leading path)))).2, dot]
      rfl
    have before : ∀ name ∈ names (path.take (leading path)), name = here := by
      rcases leading_cases path with ⟨nothing, _⟩ | root | ⟨dot, _⟩
      · rw [nothing]
        exact nofun
      · rw [root]
        exact nofun
      · rw [dot]
        exact fun name member => List.mem_singleton.mp member
    refine ⟨fun name member => ?_, ?_⟩
    · rcases List.mem_append.mp member with leads | listed
      · exact before name leads
      · exact all_dots' name listed
    · split
      · rename_i dot
        exact .inr ⟨rfl, relative dot⟩
      · exact .inl rfl
  · right
    obtain ⟨proper, other⟩ := bodyProper empty
    have shorter : (popComponent body).2.length ≤ path.length :=
      ((suffix_popComponent body).trans bodySuffix).length_le.trans enough
    obtain ⟨suffix, ⟨dots, all_dots, restParts⟩, _⟩ := trimEnd_spec shorter
    have component : IsComponent (popComponent body).1.reverse :=
      ⟨fun nothing => proper (List.reverse_eq_nil_iff.mp nothing),
        fun member => (popComponent_spec body).1 (List.mem_reverse.mp member)⟩
    have begins : (trimEnd path.length (popComponent body).2).reverse <+: path.drop (leading path) := by
      have suffixes := (suffix.trans (suffix_popComponent body)).trans bodySuffix
      rwa [← List.reverse_prefix, List.reverse_reverse] at suffixes
    obtain ⟨aboveParts, rooted⟩ := names_leading begins
    rw [if_neg empty]
    refine ⟨_, dots, (popComponent body).1.reverse, dots', rfl, ?_, rooted, ?_, all_dots, ?_, all_dots'⟩
    · conv_rhs => rw [← List.take_append_drop (leading path) path]
      exact (List.prefix_append_right_inj _).mpr begins
    · rw [aboveParts, names_popComponent body, names_component component, restParts]
      simp only [List.append_assoc, List.singleton_append]
    · intro isHere
      exact other (List.reverse_eq_iff.mp isHere)

/-- **The parent of a path is where it begins**, and its components are the first ones. -/
theorem parent_prefix {path above : Bytes} (has : parent path = some above) :
    above <+: path ∧ isAbsolute above = isAbsolute path ∧ names above <+: names path := by
  rcases parent_shape path with
    ⟨_, nothing | ⟨empty, relative⟩⟩ | ⟨above', dots, last, dots', has', begins, rooted, parts, _⟩
  · rw [nothing] at has
    cases has
  · rw [empty] at has
    cases has
    exact ⟨List.nil_prefix, relative.symm, List.nil_prefix⟩
  · rw [has'] at has
    cases has
    refine ⟨begins, rooted, ?_⟩
    rw [parts, List.append_assoc]
    exact List.prefix_append _ _

/-- **A path that ends in a component other than `.` has a parent**: the path without that component, and
without components `.` before it. -/
theorem parent_of_last {path : Bytes} {before : List Bytes} {last : Bytes}
    (parts : names path = before ++ [last]) (other : last ≠ here) :
    ∃ above dots, parent path = some above ∧ before = names above ++ dots ∧ ∀ dot ∈ dots, dot = here := by
  rcases parent_shape path with
    ⟨all_here, _⟩ | ⟨above, dots, last', dots', has, _, _, parts', all_dots, _, all_dots'⟩
  · exact absurd (all_here last (by simp [parts])) other
  · rw [parts] at parts'
    rcases List.eq_nil_or_concat dots' with rfl | ⟨front, dot, rfl⟩
    · obtain ⟨same, _⟩ := List.append_inj' parts' rfl
      exact ⟨above, dots, has, same, all_dots⟩
    · rw [List.concat_eq_append, ← List.cons_append, ← List.append_assoc] at parts'
      obtain ⟨_, same⟩ := List.append_inj' parts' rfl
      cases same
      exact absurd (all_dots' last (by simp)) other

/-- **The ancestors of a path are where it begins.** -/
theorem mem_ancestors {path above : Bytes} (member : above ∈ ancestors path) :
    isAbsolute above = isAbsolute path ∧ names above <+: names path := by
  unfold ancestors at member
  generalize path.length + 1 = steps at member
  induction steps generalizing path with
  | zero => cases member
  | succ steps ih =>
    unfold ancestorsWithin at member
    cases has : parent path with
    | none =>
      rw [has] at member
      obtain rfl := List.mem_singleton.mp member
      exact ⟨rfl, List.prefix_refl _⟩
    | some next =>
      rw [has] at member
      rcases List.mem_cons.mp member with rfl | later
      · exact ⟨rfl, List.prefix_refl _⟩
      · obtain ⟨_, rooted, begins⟩ := parent_prefix has
        obtain ⟨rooted', begins'⟩ := ih later
        exact ⟨rooted'.trans rooted, begins'.trans begins⟩

end Path

namespace FileSystem

variable {fs : FileSystem} {cwd place : Place} {path : Bytes} {links : Nat} {at_ : Place}
  {names : List Bytes}

/-! ### Lookups -/

/-- **Components that lead nowhere else** may be put at the end of a lookup that finds a directory, or left
out there. -/
theorem walk_idle {idle : List Bytes} (all_idle : ∀ name ∈ idle, IsIdle name)
    (enters : ∃ mode, fs.get? place = some (.directory mode) ∧ mode.mayEnter = true) :
    fs.walk true links at_ (names ++ idle) = .ok (.present place) ↔
      fs.walk true links at_ names = .ok (.present place) := by
  induction idle using List.reverseRecOn with
  | nil => rw [List.append_nil]
  | append_singleton idle name ih =>
    obtain ⟨earlier, last⟩ := List.forall_mem_append.mp all_idle
    have idleName := List.forall_mem_singleton.mp last
    rw [← ih earlier, ← List.append_assoc]
    by_cases finds : ∃ found, fs.walk true links at_ (names ++ idle) = .ok (.present found)
    · obtain ⟨found, finds⟩ := finds
      obtain ⟨left, continues⟩ := walk_append finds
      rw [continues true [name] (List.cons_ne_nil _ _), finds]
      constructor
      · intro stays
        rw [walk_stay idleName stays]
      · intro same
        cases same
        exact walk_stay_directory idleName enters
    · rw [not_exists] at finds
      rw [walk_append_stop finds (List.cons_ne_nil _ _) true]
      refine iff_of_false (fun stays => ?_) (finds place)
      unfold pastEnd at stays
      split at stays <;> cases stays

/-- **A lookup from the root through the names of a directory** goes on from that directory. -/
theorem walk_from_root (closed : fs.Closed) (ordinary : ∀ name ∈ place, isOrdinary name = true)
    (directory : fs.isDirectoryAt place = true) {rest : List Bytes} {spot : Spot}
    (finds : fs.walk true links [] (place.reverse ++ rest) = .ok spot) :
    fs.walk true links place rest = .ok spot := by
  induction place generalizing rest with
  | nil => exact finds
  | cons name dir ih =>
    obtain ⟨mode, found⟩ := isDirectoryAt_iff.mp directory
    have above : fs.isDirectoryAt dir = true := closed name dir (by rw [found]; rfl)
    obtain ⟨mode', found'⟩ := isDirectoryAt_iff.mp above
    obtain ⟨first, others⟩ := List.forall_mem_cons.mp ordinary
    rw [List.reverse_cons, List.append_assoc, List.singleton_append] at finds
    have goes := ih others above finds
    have proper := isOrdinary_iff.mp first
    rw [walk_cons] at goes
    unfold hop at goes
    by_cases enters : mode'.mayEnter = true
    · by_cases long : longestName < name.length
      · simp [found', proper, enters, long] at goes
      · simpa [found', proper, enters, long, found] using goes
    · simp [found', proper, enters] at goes

/-! ### Directories that paths lead to -/

/-- A path leads to a directory that exists and may be entered. -/
def LeadsInto (fs : FileSystem) (cwd : Place) (path : Bytes) (place : Place) : Prop :=
  ∃ mode, fs.find cwd true path = .ok (place, .directory mode) ∧
    fs.get? place = some (.directory mode) ∧ mode.mayEnter = true

theorem leadsInto_iff : fs.LeadsInto cwd path place ↔ pathFault? path = none ∧
    fs.walk true linkLimit (start cwd path) (Path.names path) = .ok (.present place) ∧
    ∃ mode, fs.get? place = some (.directory mode) ∧ mode.mayEnter = true := by
  have slashed (enters : ∃ mode, fs.get? place = some (.directory mode) ∧ mode.mayEnter = true) :
      fs.walk true linkLimit (start cwd path) (Path.components path) = .ok (.present place) ↔
        fs.walk true linkLimit (start cwd path) (Path.names path) = .ok (.present place) := by
    unfold Path.components
    split
    · exact walk_idle (List.forall_mem_singleton.mpr (.inl rfl)) enters
    · rfl
  unfold LeadsInto find locate
  constructor
  · rintro ⟨mode, finds, directory, enters⟩
    cases sane : pathFault? path with
    | some fault => simp [sane] at finds
    | none =>
      refine ⟨rfl, (slashed ⟨mode, directory, enters⟩).mp ?_, mode, directory, enters⟩
      simp only [sane] at finds
      split at finds
      · cases finds
      · cases finds
      · rename_i walks
        have same := congrArg Prod.fst (Except.ok.inj finds)
        dsimp only at same
        rw [walks, same]
  · rintro ⟨sane, leads, mode, directory, enters⟩
    rw [← slashed ⟨mode, directory, enters⟩] at leads
    refine ⟨mode, ?_, directory, enters⟩
    simp [sane, leads, entryAt, directory]

/-- A path leads to one directory. -/
theorem LeadsInto.unique {place' : Place} (leads : fs.LeadsInto cwd path place)
    (leads' : fs.LeadsInto cwd path place') : place = place' := by
  obtain ⟨_, finds, _⟩ := leads
  obtain ⟨_, finds', _⟩ := leads'
  rw [finds] at finds'
  cases finds'
  rfl

/-- **A path leads to the directory in which the last component of another one is looked up**, if they
differ by that component and by components `.` before it. -/
theorem ending_iff_leadsInto {above last : Bytes} {common dots dots' : List Bytes}
    (parts : Path.names path = common ++ dots ++ [last]) (ordinary : isOrdinary last = true)
    (unslashed : Path.endsWithSlash path = false) (aboveParts : Path.names above = common ++ dots')
    (all_dots : ∀ dot ∈ dots, dot = Path.here) (all_dots' : ∀ dot ∈ dots', dot = Path.here)
    (rooted : Path.isAbsolute above = Path.isAbsolute path)
    (sane : pathFault? path = none → pathFault? above = none) :
    fs.ending cwd path = .ok (.name place last false) ↔
      pathFault? path = none ∧ fs.LeadsInto cwd above place := by
  have proper := isOrdinary_iff.mp ordinary
  have starts : start cwd above = start cwd path := by
    unfold start
    rw [rooted]
  have same (enters : ∃ mode, fs.get? place = some (.directory mode) ∧ mode.mayEnter = true) :
      fs.walk true linkLimit (start cwd path) (common ++ dots) = .ok (.present place) ↔
        fs.walk true linkLimit (start cwd path) (common ++ dots') = .ok (.present place) := by
    rw [walk_idle (fun dot member => .inr (all_dots dot member)) enters,
      walk_idle (fun dot member => .inr (all_dots' dot member)) enters]
  rw [ending_name_iff, leadsInto_iff, parts, List.getLast?_concat, List.dropLast_concat, aboveParts,
    starts, unslashed]
  constructor
  · rintro ⟨bytes, _, leads, enters, _⟩
    exact ⟨bytes, sane bytes, (same enters).mp leads, enters⟩
  · rintro ⟨bytes, _, leads, enters⟩
    exact ⟨bytes, rfl, (same enters).mpr leads, enters, proper.2.1, proper.2.2, rfl⟩

/-- What is missing on the way to an ancestor of a path is on the way to the path. -/
theorem mem_wayTo_of_ancestor {above : Bytes} (member : above ∈ Path.ancestors path)
    (denotes : fs.placeOf cwd above = some place) : place ∈ fs.wayTo cwd path := by
  obtain ⟨rooted, further, parts⟩ := Path.mem_ancestors member
  obtain ⟨dir, name, rfl, ends⟩ := placeOf_eq_some_iff.mp denotes
  have seen := mem_wayTo_of_ending ends
  unfold wayTo start at seen ⊢
  rw [rooted] at seen
  rw [← parts]
  exact trail_append seen further fun _ => rfl

end FileSystem

end CalcBuild.Files

/-
**Making missing directories under ordinary names.**

Where the directories that are missing on the way to a path are missing under ordinary names, making them
goes down from the last one that exists, name by name. What comes of it depends on the entries on that
way only, and directories that something else has made there meanwhile are as good as new ones.

* `walk_append_stop`, `walk_stay`: lookups that end early, and components that lead nowhere else;
* `makeAt`, `descend`: making directories name by name;
* `Rests.finds`, `Rests.misses`: what a path comes to that goes down through them;
* `Under`, `makeChain_eq_descend`: that this is what making missing directories comes to.
-/

import CalcBuild.Proofs.Files.Alike
import Mathlib.Data.List.Induction

namespace CalcBuild.Files.FileSystem

/-! ### Lookups that end early -/

/-- What a lookup finds that goes on where it found nothing. -/
def pastEnd : Except Fault Spot → Except Fault Spot
  | .error fault => .error fault
  | .ok _ => .error .noEntry

/-- A hop that ends a lookup, and not at an entry, ends it with further names too. -/
theorem hop_append_stop {fs : FileSystem} {links : Nat} {at_ : Place} {name : Bytes}
    {rest : List Bytes} {result : Except Fault Spot}
    (stops : fs.hop true links at_ name rest = .stop result) (follow : Bool) {further : List Bytes}
    (more : further ≠ []) :
    fs.hop follow links at_ name (rest ++ further) = .stop (pastEnd result) := by
  have longer : ¬ (rest ++ further = []) := by simp [more]
  unfold hop at stops ⊢
  repeat' split at stops
  all_goals
    cases stops
    try simp_all [pastEnd]

/-- **A lookup that does not come to an entry** does not do so with further names. -/
theorem walk_append_stop {fs : FileSystem} {links : Nat} {at_ : Place} {names : List Bytes}
    (misses : ∀ found, fs.walk true links at_ names ≠ .ok (.present found)) {further : List Bytes}
    (more : further ≠ []) (follow : Bool) :
    fs.walk follow links at_ (names ++ further) = pastEnd (fs.walk true links at_ names) := by
  induction links, at_, names using hop_induction fs true with
  | done links at_ => exact absurd (walk_nil fs true links at_) (misses at_)
  | stop links at_ name rest result stops =>
    rw [List.cons_append, walk_cons, walk_cons, stops, hop_append_stop stops follow more]
  | go links at_ name rest links' at' names' goes ih =>
    rw [walk_cons, goes] at misses
    have later := ih misses
    rw [List.cons_append, walk_cons, walk_cons, goes, hop_append goes follow further more]
    exact later

/-! ### Components that lead nowhere else -/

/-- A component with which a lookup stays where it is. -/
def IsIdle (name : Bytes) : Prop := name = [] ∨ name = Path.here

/-- A lookup of such a component ends nowhere else. -/
theorem walk_stay {fs : FileSystem} {links : Nat} {place : Place} {name : Bytes} (idle : IsIdle name) {found : Place}
    (finds : fs.walk true links place [name] = .ok (.present found)) : found = place := by
  have hops : fs.hop true links place name [] = .go links place [] ∨
      ∃ fault, fs.hop true links place name [] = .stop (.error fault) := by
    unfold hop
    rcases idle with rfl | rfl
    all_goals
      cases fs.get? place with
      | none => exact .inl (by simp)
      | some entry =>
        cases entry with
        | directory mode => cases enters : mode.mayEnter <;> simp [enters, Path.here]
        | _ => exact .inr ⟨_, rfl⟩
  rw [walk_cons] at finds
  rcases hops with goes | ⟨fault, stops⟩
  · simp only [goes, walk_nil] at finds
    cases finds
    rfl
  · simp only [stops] at finds
    cases finds

/-- It succeeds in a directory that may be entered. -/
theorem walk_stay_directory {fs : FileSystem} {links : Nat} {place : Place} {name : Bytes} (idle : IsIdle name)
    (enters : ∃ mode, fs.get? place = some (.directory mode) ∧ mode.mayEnter = true) :
    fs.walk true links place [name] = .ok (.present place) := by
  obtain ⟨mode, directory, enters⟩ := enters
  rw [walk_cons]
  rcases idle with rfl | rfl <;> simp [hop, directory, enters, Path.here]

/-! ### Name by name -/

/-- Makes a directory in a directory; one that exists is as good as a new one. -/
def makeAt (fs : FileSystem) (dir : Place) (name : Bytes) : FileSystem × Except Cause Unit :=
  if longestName < name.length then (fs, .error Fault.nameTooLong.cause)
  else if (fs.get? (name :: dir)).isSome then (fs, .ok ())
  else if fs.mayChange dir then (fs.put (name :: dir) (.directory Mode.ofDirectory), .ok ())
  else (fs, .error Fault.permissionDenied.cause)

/-- Makes directories below a directory, one in the other; their names are given innermost first. -/
def descend (fs : FileSystem) (base : Place) : List Bytes → FileSystem × Except Cause Unit
  | [] => (fs, .ok ())
  | name :: above =>
    match fs.descend base above with
    | (partly, .error cause) => (partly, .error cause)
    | (partly, .ok ()) => partly.makeAt (above ++ base) name

/-- The directories below a directory all exist. -/
def Full (fs : FileSystem) (base : Place) : List Bytes → Prop
  | [] => True
  | name :: above => fs.Full base above ∧ name.length ≤ longestName ∧
      fs.get? (name :: (above ++ base)) = some (.directory Mode.ofDirectory)

/-- The directories below a directory exist as far as anything does. -/
def Bare (fs : FileSystem) (base : Place) : List Bytes → Prop
  | [] => True
  | name :: above => fs.Bare base above ∧ isOrdinary name = true ∧
      (fs.get? (name :: (above ++ base)) = none ∨
        fs.get? (name :: (above ++ base)) = some (.directory Mode.ofDirectory))

section Descents

variable {fs : FileSystem} {base : Place} {mode : Mode} {names : List Bytes} {name : Bytes}

/-- The innermost directory may be entered, be it the first one or made without asking for a mode. -/
theorem Full.enters (full : fs.Full base names) (directory : fs.get? base = some (.directory mode))
    (enters : mode.mayEnter) : ∃ mode, fs.get? (names ++ base) = some (.directory mode) ∧ mode.mayEnter := by
  cases names with
  | nil => exact ⟨mode, directory, enters⟩
  | cons name above => exact ⟨_, full.2.2, by decide⟩

/-- Directories that all exist are made by doing nothing. -/
theorem Full.descend (full : fs.Full base names) : fs.descend base names = (fs, .ok ()) := by
  induction names with
  | nil => rfl
  | cons name above ih =>
    obtain ⟨full, short, found⟩ := full
    have fits : ¬ longestName < name.length := by omega
    rw [FileSystem.descend, ih full]
    simp only [makeAt, fits, if_false, found]
    rfl

theorem makeAt_extends (fs : FileSystem) (dir : Place) (name : Bytes) :
    (fs.makeAt dir name).1.Extends fs := by
  unfold makeAt
  split
  · exact fun _ _ => rfl
  · split
    · exact fun _ _ => rfl
    · rename_i free
      split
      · exact extends_put _ (List.cons_ne_nil _ _) (by simpa using free)
      · exact fun _ _ => rfl

theorem descend_extends (fs : FileSystem) (base : Place) (names : List Bytes) :
    (fs.descend base names).1.Extends fs := by
  induction names with
  | nil => exact fun _ _ => rfl
  | cons name above ih =>
    rw [descend]
    split
    · rename_i shape
      rw [shape] at ih
      exact ih
    · rename_i shape
      rw [shape] at ih
      exact (makeAt_extends _ _ _).trans ih

theorem Full.mono {fs' : FileSystem} (full : fs.Full base names) (extension : fs'.Extends fs) :
    fs'.Full base names := by
  induction names with
  | nil => exact True.intro
  | cons name above ih =>
    exact ⟨ih full.1, full.2.1, (extension _ (by rw [full.2.2]; rfl)).trans full.2.2⟩

theorem Full.bare {fs' : FileSystem} (full : fs'.Full base names) (bare : fs.Bare base names) :
    fs'.Bare base names := by
  induction names with
  | nil => exact True.intro
  | cons name above ih => exact ⟨ih full.1 bare.1, bare.2.1, .inr full.2.2⟩

/-- One of the directories below a directory, with those above it. -/
def Below (base : Place) (names : List Bytes) (place : Place) : Prop :=
  isWithin place (names ++ base) = true ∧ base.length < place.length

theorem below_cons {base : Place} {name : Bytes} {names : List Bytes} {place : Place} :
    Below base (name :: names) place ↔ place = name :: (names ++ base) ∨ Below base names place := by
  unfold Below
  rw [List.cons_append]
  constructor
  · rintro ⟨within, longer⟩
    rcases isWithin_cases within with same | within
    · exact .inl same
    · exact .inr ⟨within, longer⟩
  · rintro (rfl | ⟨within, longer⟩)
    · refine ⟨isWithin_self _, ?_⟩
      simp only [List.length_cons, List.length_append]
      omega
    · exact ⟨isWithin_cons name within, longer⟩

theorem not_below_nil {base place : Place} : ¬ Below base [] place := by
  rintro ⟨within, longer⟩
  have shorter := (isWithin_iff.mp within).length_le
  simp only [List.nil_append] at shorter
  omega

theorem Below.mono {base : Place} {above names : List Bytes} (suffix : above <:+ names) {place : Place}
    (below : Below base above place) : Below base names place := by
  obtain ⟨before, rfl⟩ := suffix
  refine ⟨isWithin_iff.mpr ((isWithin_iff.mp below.1).trans ?_), below.2⟩
  rw [List.append_assoc]
  exact List.suffix_append _ _

theorem not_below_deeper (name : Bytes) (above : List Bytes) (base : Place) :
    ¬ Below base above (name :: (above ++ base)) := by
  rintro ⟨within, _⟩
  have shorter := (isWithin_iff.mp within).length_le
  rw [List.length_cons] at shorter
  omega

/-- A place that is none of the directories below a directory is left alone. -/
theorem descend_other (fs : FileSystem) {base : Place} {names : List Bytes} {place : Place}
    (other : ¬ Below base names place) : (fs.descend base names).1.get? place = fs.get? place := by
  induction names with
  | nil => rfl
  | cons name above ih =>
    obtain ⟨differs, other⟩ := not_or.mp (below_cons.not.mp other)
    have kept := ih other
    rw [descend]
    split
    · rename_i shape
      rw [shape] at kept
      exact kept
    · rename_i partly shape
      rw [shape] at kept
      rw [← kept]
      unfold makeAt
      split
      · rfl
      · split
        · rfl
        · split
          · rw [get?_put _ _ _ (List.cons_ne_nil _ _), if_neg differs]
          · rfl

/-- **When directories were made, they all exist.** -/
theorem descend_full (bare : fs.Bare base names) {made : FileSystem}
    (makes : fs.descend base names = (made, .ok ())) : made.Full base names := by
  induction names generalizing made with
  | nil => exact True.intro
  | cons name above ih =>
    obtain ⟨bare, _, free⟩ := bare
    rw [descend] at makes
    split at makes
    · cases makes
    · rename_i partly shape
      have full := ih bare shape
      have kept := descend_other fs (not_below_deeper name above base)
      rw [shape] at kept
      unfold makeAt at makes
      split at makes
      · cases makes
      · rename_i short
        split at makes
        · rename_i listed
          cases makes
          refine ⟨full, by omega, ?_⟩
          rw [kept] at listed ⊢
          rcases free with free | found
          · rw [free] at listed
            cases listed
          · exact found
        · rename_i unlisted
          split at makes
          · cases makes
            have grown : (partly.put (name :: (above ++ base)) (.directory Mode.ofDirectory)).Extends
                partly := extends_put _ (List.cons_ne_nil _ _) (by simpa using unlisted)
            refine ⟨full.mono grown, by omega, ?_⟩
            exact (get?_put _ _ _ (List.cons_ne_nil _ _)).trans (if_pos rfl)
          · cases makes

/-- The last of the parts of a path is `.`, or the innermost name. -/
theorem filter_concat_eq {parts : List Bytes} {last : Bytes}
    (steps : (parts ++ [last]).filter (· != Path.here) = names.reverse) :
    last = Path.here ∧ parts.filter (· != Path.here) = names.reverse ∨
      ∃ above, names = last :: above ∧ parts.filter (· != Path.here) = above.reverse := by
  rw [List.filter_append] at steps
  by_cases stays : last = Path.here
  · exact .inl ⟨stays, by simpa [stays] using steps⟩
  · right
    rw [List.filter_cons_of_pos (by simpa using stays), List.filter_nil] at steps
    cases names with
    | nil => simp at steps
    | cons name above =>
      rw [List.reverse_cons] at steps
      obtain ⟨before, same⟩ := List.append_inj' steps rfl
      cases same
      exact ⟨above, rfl, before⟩

/-- **A lookup goes down through directories that all exist**; between their names there may be `.`. -/
theorem walk_full (directory : fs.get? base = some (.directory mode)) (enters : mode.mayEnter)
    (bare : fs.Bare base names) (full : fs.Full base names) {parts : List Bytes}
    (steps : parts.filter (· != Path.here) = names.reverse) (links : Nat) :
    fs.walk true links base parts = .ok (.present (names ++ base)) := by
  induction parts using List.reverseRecOn generalizing names with
  | nil =>
    obtain rfl : names = [] := by simpa using steps.symm
    exact walk_nil ..
  | append_singleton parts last ih =>
    rcases filter_concat_eq steps with ⟨rfl, before⟩ | ⟨above, rfl, before⟩
    · obtain ⟨mode', inner, enters'⟩ := full.enters directory enters
      obtain ⟨left, continues⟩ := walk_append (ih bare full before)
      rw [continues true _ (List.cons_ne_nil _ _), walk_stay_directory (.inr rfl) ⟨mode', inner, enters'⟩]
    · obtain ⟨bare, ordinary, _⟩ := bare
      obtain ⟨mode', inner, enters'⟩ := full.1.enters directory enters
      obtain ⟨left, continues⟩ := walk_append (ih bare full.1 before)
      rw [continues true _ (List.cons_ne_nil _ _), walk_entry inner enters' ordinary full.2.1
        full.2.2 (.inr fun _ => nofun), walk_nil]
      rfl

/-- A lookup that goes down comes to nothing where a directory is missing, or to a name that is too
long; then none can be made. -/
theorem walk_partial (directory : fs.get? base = some (.directory mode)) (enters : mode.mayEnter)
    (bare : fs.Bare base names) (partial_ : ¬ fs.Full base names) {parts : List Bytes}
    (steps : parts.filter (· != Path.here) = names.reverse) (links : Nat) :
    (∀ found, fs.walk true links base parts ≠ .ok (.present found)) ∧
      (pastEnd (fs.walk true links base parts) = .error .noEntry ∨
        pastEnd (fs.walk true links base parts) = .error .nameTooLong ∧
          fs.descend base names = (fs, .error Fault.nameTooLong.cause)) := by
  induction parts using List.reverseRecOn generalizing names with
  | nil =>
    obtain rfl : names = [] := by simpa using steps.symm
    exact absurd True.intro partial_
  | append_singleton parts last ih =>
    -- A lookup that has missed does so whatever comes next.
    have missed {names' : List Bytes} (bare : fs.Bare base names') (partial_ : ¬ fs.Full base names')
        (steps : parts.filter (· != Path.here) = names'.reverse)
        (unmade : fs.descend base names' = (fs, .error Fault.nameTooLong.cause) →
          fs.descend base names = (fs, .error Fault.nameTooLong.cause)) :
        (∀ found, fs.walk true links base (parts ++ [last]) ≠ .ok (.present found)) ∧
          (pastEnd (fs.walk true links base (parts ++ [last])) = .error .noEntry ∨
            pastEnd (fs.walk true links base (parts ++ [last])) = .error .nameTooLong ∧
              fs.descend base names = (fs, .error Fault.nameTooLong.cause)) := by
      obtain ⟨misses, ends⟩ := ih bare partial_ steps
      rw [walk_append_stop misses (List.cons_ne_nil last []) true]
      rcases ends with missing | ⟨long, descends⟩
      · rw [missing]
        exact ⟨by simp, .inl rfl⟩
      · rw [long]
        exact ⟨by simp, .inr ⟨rfl, unmade descends⟩⟩
    rcases filter_concat_eq steps with ⟨_, before⟩ | ⟨above, rfl, before⟩
    · exact missed bare partial_ before id
    · obtain ⟨bare, ordinary, free⟩ := bare
      by_cases full : fs.Full base above
      · obtain ⟨mode', inner, enters'⟩ := full.enters directory enters
        obtain ⟨left, continues⟩ := walk_append (walk_full directory enters bare full before links)
        rw [continues true _ (List.cons_ne_nil _ _)]
        by_cases long : longestName < last.length
        · have proper := isOrdinary_iff.mp ordinary
          have stops : fs.walk true left (above ++ base) [last] = .error .nameTooLong := by
            rw [walk_cons]
            simp [hop, inner, enters', proper, long]
          rw [stops]
          refine ⟨by simp, .inr ⟨rfl, ?_⟩⟩
          rw [descend, full.descend]
          simp only [makeAt, long, if_true]
        · have missing : fs.get? (last :: (above ++ base)) = none :=
            free.resolve_right fun found => partial_ ⟨full, by omega, found⟩
          rw [walk_free inner enters' ordinary (by omega) missing, if_pos rfl]
          exact ⟨by simp, .inl rfl⟩
      · exact missed bare full before fun unmade => by rw [descend, unmade]

end Descents

/-! ### Paths that go down -/

/-- Each path of a list goes one ordinary name down from the next one, up to the paths of another list;
with the names, the last one first. Before a name there may be `.`. -/
inductive Under (top : List Bytes) : List Bytes → List Bytes → Prop where
  | top : Under top top []
  | down {path parent name : Bytes} {above names dots : List Bytes}
      (before : Under top (parent :: above) names) (ordinary : isOrdinary name = true)
      (parts : Path.names path = Path.names parent ++ dots ++ [name])
      (idle : dots.filter (· != Path.here) = [])
      (rooted : Path.isAbsolute path = Path.isAbsolute parent) (begins : parent <+: path) :
      Under top (path :: parent :: above) (name :: names)

/-- A path leads to a directory that may be entered. -/
structure Rests (fs : FileSystem) (cwd : Place) (path : Bytes) (base : Place) : Prop where
  sane : path = [] ∨ pathFault? path = none
  leads : fs.walk true linkLimit (start cwd path) (Path.names path) = .ok (.present base)
  enters : ∃ mode, fs.get? base = some (.directory mode) ∧ mode.mayEnter

theorem Under.ordinary {top paths names : List Bytes} (under : Under top paths names) :
    ∀ name ∈ names, isOrdinary name = true := by
  induction under with
  | top => exact nofun
  | down _ ordinary _ _ _ _ ih => exact List.forall_mem_cons.mpr ⟨ordinary, ih⟩

/-- What a path goes down from the first one. -/
theorem Under.parts {top paths names : List Bytes} {first path : Bytes} {rest above : List Bytes}
    (under : Under top paths names) (shape : top = first :: rest) (shape' : paths = path :: above) :
    ∃ parts, Path.names path = Path.names first ++ parts ∧
      parts.filter (· != Path.here) = names.reverse ∧
      Path.isAbsolute path = Path.isAbsolute first := by
  induction under generalizing path above with
  | top =>
    rw [shape] at shape'
    cases shape'
    exact ⟨[], by simp, rfl, rfl⟩
  | @down _ _ name _ _ dots before ordinary parts idle rooted begins ih =>
    cases shape'
    obtain ⟨earlier, before, steps, rooted'⟩ := ih rfl
    refine ⟨earlier ++ (dots ++ [name]), by rw [parts, before]; simp, ?_, rooted.trans rooted'⟩
    have last : [name].filter (· != Path.here) = [name] := List.filter_cons_of_pos (bne_here ordinary)
    rw [List.filter_append, List.filter_append, idle, steps, last, List.reverse_cons]
    rfl

/-! ### What making missing directories comes to -/

section Chains

variable {fs : FileSystem} {cwd : Place} {path : Bytes} {dir : Place} {name : Bytes} {slashed : Bool}

theorem isDirectory_of_find_error {fault : Fault} (misses : fs.find cwd true path = .error fault) :
    fs.isDirectory cwd path = false := by
  unfold isDirectory status?
  rw [misses]

/-- A path that denotes a name that is too long leads nowhere. -/
theorem find_long (ends : fs.ending cwd path = .ok (.name dir name slashed))
    (long : longestName < name.length) (follow : Bool) :
    fs.find cwd follow path = .error .nameTooLong := by
  obtain ⟨_, _, _, ⟨mode, directory, enters⟩, _⟩ := ending_name ends
  have proper := isOrdinary_iff.mp (ending_ordinary ends)
  obtain ⟨left, locates⟩ := locate_of_ending ends
  unfold find
  rw [locates, walk_cons]
  simp [hop, directory, enters, proper, long]

/-- Making or finding what a path denotes is making it in its directory. -/
theorem makeOrFind_at (ends : fs.ending cwd path = .ok (.name dir name slashed))
    (free : fs.get? (name :: dir) = none ∨
      fs.get? (name :: dir) = some (.directory Mode.ofDirectory)) :
    fs.makeOrFind cwd path = fs.makeAt dir name := by
  unfold makeOrFind makeDirectory makeAt freeName addAt
  rw [ends]
  dsimp only
  by_cases long : longestName < name.length
  · rw [if_pos long, if_pos long]
    simp only [Except.bind, isDirectory_of_find_error (find_long ends long true), Bool.false_eq_true,
      if_false]
  · rw [if_neg long, if_neg long]
    have short : name.length ≤ longestName := by omega
    rcases free with free | found
    · by_cases allowed : fs.mayChange dir = true
      · simp only [free, Option.isSome_none, Bool.false_eq_true, if_false, Except.bind, List.tail_cons,
          allowed, if_true]
      · simp only [free, Option.isSome_none, Bool.false_eq_true, if_false, Except.bind, List.tail_cons,
          allowed, isDirectory_of_find_error (find_free ends short free true)]
    · have directory : fs.isDirectory cwd path = true := by
        unfold isDirectory status?
        rw [find_directory ends short found true]
      simp only [found, Option.isSome_some, if_true, Except.bind, directory]

/-- What a path denotes when the lookup of all its components but the last one ends at a directory. -/
theorem ending_of_walk (sane : pathFault? path = none) {before : List Bytes}
    (parts : Path.names path = before ++ [name]) (ordinary : isOrdinary name = true)
    (walks : fs.walk true linkLimit (start cwd path) before = .ok (.present dir)) {mode : Mode}
    (directory : fs.get? dir = some (.directory mode)) (enters : mode.mayEnter) :
    fs.ending cwd path = .ok (.name dir name (Path.endsWithSlash path)) := by
  have proper := isOrdinary_iff.mp ordinary
  refine ending_name_iff.mpr ⟨sane, by rw [parts, List.getLast?_concat], ?_, ⟨mode, directory, enters⟩,
    proper.2.1, proper.2.2, rfl⟩
  rw [parts, List.dropLast_concat]
  exact walks

/-- What becomes of a path when the lookup of all its components but the last one does not come to an
entry. -/
theorem ending_of_miss (sane : pathFault? path = none) {before : List Bytes}
    (parts : Path.names path = before ++ [name])
    (misses : ∀ found, fs.walk true linkLimit (start cwd path) before ≠ .ok (.present found))
    {fault : Fault} (ends : pastEnd (fs.walk true linkLimit (start cwd path) before) = .error fault) :
    fs.ending cwd path = .error fault ∧ fs.find cwd true path = .error fault := by
  have last : (Path.names path).getLast? = some name := by rw [parts, List.getLast?_concat]
  constructor
  · unfold ending
    rw [sane]
    simp only [last]
    rw [parts, List.dropLast_concat]
    cases walks : fs.walk true linkLimit (start cwd path) before with
    | error fault' =>
      rw [walks] at ends
      cases ends
      rfl
    | ok spot =>
      rw [walks] at ends
      cases ends
      cases spot with
      | present found => exact absurd walks (misses found)
      | absent place => rfl
  · have goes : fs.walk true linkLimit (start cwd path) (Path.components path) = .error fault := by
      unfold Path.components
      rw [parts]
      split
      · rw [List.append_assoc, walk_append_stop misses (by simp) true, ends]
      · rw [walk_append_stop misses (by simp) true, ends]
    unfold find locate
    rw [sane, goes]

/-- A path that leads to an entry denotes something, or does not for another reason than that something
is missing. -/
theorem ending_ne_noEntry (sane : pathFault? path = none) {found : Place}
    (leads : fs.walk true linkLimit (start cwd path) (Path.names path) = .ok (.present found)) :
    fs.ending cwd path ≠ .error .noEntry := by
  intro ends
  unfold ending at ends
  rw [sane] at ends
  dsimp only at ends
  split at ends
  · cases ends
  · rename_i last final
    obtain ⟨before, parts⟩ := List.getLast?_eq_some_iff.mp final
    rw [parts] at leads
    rw [parts, List.dropLast_concat] at ends
    have goes (misses : ∀ found, fs.walk true linkLimit (start cwd path) before ≠ .ok (.present found)) :
        False := by
      rw [walk_append_stop misses (List.cons_ne_nil last [])] at leads
      unfold pastEnd at leads
      split at leads <;> cases leads
    split at ends
    · rename_i walks
      exact goes fun _ => by rw [walks]; exact nofun
    · rename_i walks
      exact goes fun _ => by rw [walks]; exact nofun
    · rename_i dir walks
      obtain ⟨left, continues⟩ := walk_append walks
      rw [continues true [last] (List.cons_ne_nil _ _), walk_cons] at leads
      have proper : last ≠ [] := by
        have member : last ∈ Path.names path := by
          rw [parts]
          simp
        unfold Path.names at member
        simpa using (List.mem_filter.mp member).2
      have enters : Mode.ofDirectory.mayEnter = true := by decide
      unfold hop at leads
      unfold entryAt isDirectoryAt directoryMode? at ends
      cases entry : fs.get? dir with
      | none => by_cases stays : last = Path.here <;> by_cases rises : last = Path.up <;> simp_all
      | some found =>
        rw [entry] at ends
        cases found with
        | directory mode =>
          by_cases allowed : mode.mayEnter = true
          · simp_all
            split at ends
            · cases ends
            · split at ends <;> cases ends
          · simp_all
        | _ => cases ends

/-- Where a path denotes nothing, no directory is made, for the same reason. -/
theorem makeDirectory_of_ending {fault : Fault} (ends : fs.ending cwd path = .error fault) :
    fs.makeDirectory cwd path = .error fault := by
  unfold makeDirectory
  rw [ends]

/-- Where a path denotes a name in a directory, nothing is missing on the way. -/
theorem makeDirectory_ne_noEntry (ends : fs.ending cwd path = .ok (.name dir name slashed)) :
    fs.makeDirectory cwd path ≠ .error .noEntry := by
  intro missing
  unfold makeDirectory freeName addAt at missing
  rw [ends] at missing
  dsimp only at missing
  repeat' split at missing
  all_goals
    simp only [Except.bind] at missing
    try split at missing
  all_goals cases missing

/-- No directory is made under a path that leads to one. -/
theorem makeDirectory_listed (sane : pathFault? path = none) {found : Place}
    (leads : fs.walk true linkLimit (start cwd path) (Path.names path) = .ok (.present found)) :
    ∃ fault, fs.makeDirectory cwd path = .error fault ∧ fault ≠ .noEntry := by
  have ends' := ending_ne_noEntry sane leads
  cases ends : fs.ending cwd path with
  | error fault => exact ⟨fault, makeDirectory_of_ending ends, fun same => ends' (same ▸ ends)⟩
  | ok ending =>
    unfold makeDirectory
    rw [ends]
    cases ending with
    | name dir name slashed =>
      unfold freeName
      by_cases long : longestName < name.length
      · exact ⟨.nameTooLong, by simp [long, Except.bind], nofun⟩
      · cases listed : fs.get? (name :: dir) with
        | some entry => exact ⟨.alreadyExists, by simp [long, listed, Except.bind], nofun⟩
        | none =>
          exfalso
          obtain ⟨_, last, finds, ⟨mode, directory, enters⟩, _⟩ := ending_name ends
          obtain ⟨before, parts⟩ := List.getLast?_eq_some_iff.mp last
          rw [parts, List.dropLast_concat] at finds
          obtain ⟨left, continues⟩ := walk_append finds
          rw [parts, continues true [name] (List.cons_ne_nil _ _),
            walk_free directory enters (ending_ordinary ends) (by omega) listed, if_pos rfl] at leads
          cases leads
    | _ => exact ⟨.alreadyExists, rfl, nofun⟩

/-- Making or finding what leads to a directory changes nothing. -/
theorem Rests.chain {base : Place} (rests : fs.Rests cwd path base) (above : List Bytes) :
    fs.makeChain cwd (path :: above) = (fs, .ok ()) := by
  by_cases bare : path = []
  · rw [makeChain, if_pos bare]
  · have sane := rests.sane.resolve_left bare
    obtain ⟨mode, directory, _⟩ := rests.enters
    obtain ⟨fault, fails, other⟩ := makeDirectory_listed sane rests.leads
    have leads : fs.isDirectory cwd path = true := by
      have ends : fs.walk true linkLimit (start cwd path) (Path.components path)
          = .ok (.present base) := by
        unfold Path.components
        split
        · obtain ⟨left, continues⟩ := walk_append rests.leads
          rw [continues true [[]] (List.cons_ne_nil _ _), walk_cons]
          simp [hop, directory]
        · exact rests.leads
      simp [isDirectory, status?, find, locate, sane, ends, entryAt, directory]
    rw [makeChain_other above bare (by rw [fails]; simpa using other), makeOrFind, fails, leads]
    rfl

/-- Through directories that all exist, a path that goes down from one that leads to the first comes to
the innermost. -/
theorem Rests.finds {first : Bytes} {base : Place} (rests : fs.Rests cwd first base)
    {names : List Bytes} (bare : fs.Bare base names) (full : fs.Full base names)
    {parts : List Bytes} (steps : parts.filter (· != Path.here) = names.reverse) :
    fs.walk true linkLimit (start cwd first) (Path.names first ++ parts)
      = .ok (.present (names ++ base)) := by
  obtain ⟨_, leads, mode, directory, enters⟩ := rests
  by_cases none_ : parts = []
  · have nothing : names = [] := by simpa [none_] using steps.symm
    rw [none_, nothing]
    simpa using leads
  · obtain ⟨left, continues⟩ := walk_append leads
    rw [continues true _ none_]
    exact walk_full directory enters bare full steps left

/-- Where a directory is missing it comes to nothing there, or to a name that is too long. -/
theorem Rests.misses {first : Bytes} {base : Place} (rests : fs.Rests cwd first base)
    {names : List Bytes} (bare : fs.Bare base names) (partial_ : ¬ fs.Full base names)
    {parts : List Bytes} (steps : parts.filter (· != Path.here) = names.reverse) :
    let walked := fs.walk true linkLimit (start cwd first) (Path.names first ++ parts)
    (∀ found, walked ≠ .ok (.present found)) ∧
      (pastEnd walked = .error .noEntry ∨
        pastEnd walked = .error .nameTooLong ∧
          fs.descend base names = (fs, .error Fault.nameTooLong.cause)) := by
  have some_parts : parts ≠ [] := by
    intro none_
    have nothing : names = [] := by simpa [none_] using steps.symm
    exact partial_ (nothing ▸ True.intro)
  obtain ⟨_, leads, mode, directory, enters⟩ := rests
  obtain ⟨left, continues⟩ := walk_append leads
  rw [continues true _ some_parts]
  exact walk_partial directory enters bare partial_ steps left

/-- **Making missing directories goes down name by name**, if the path of the first one leads there
whichever of them have been made. -/
theorem makeChain_eq_descend {first : Bytes} {rest : List Bytes} {base : Place}
    {paths names : List Bytes} (under : Under (first :: rest) paths names) (bare : fs.Bare base names)
    (rests : ∀ above, above <:+ names → (fs.descend base above).1.Rests cwd first base)
    (sane : ∀ path above, paths = path :: above → path ≠ [] → pathFault? path = none) :
    fs.makeChain cwd paths = fs.descend base names := by
  have now : fs.Rests cwd first base := rests [] List.nil_suffix
  induction under with
  | top => exact now.chain rest
  | @down path parent name above names dots before ordinary parts idle rooted begins ih =>
    have proper : path ≠ [] := by
      rintro rfl
      simp [Path.names, Text.splitAt] at parts
    have sane := sane path _ rfl proper
    have earlier := ih bare.1 (fun above suffix => rests above (suffix.trans (List.suffix_cons _ _)))
      fun path' above' shape nonempty => by
        cases shape
        exact pathFault?_prefix sane nonempty begins
    obtain ⟨earlierParts, parentParts, steps, parentRooted⟩ := before.parts rfl rfl
    have starts : start cwd path = start cwd first := by
      unfold start
      rw [rooted, parentRooted]
    rw [parentParts, List.append_assoc (Path.names first)] at parts
    have steps : (earlierParts ++ dots).filter (· != Path.here) = names.reverse := by
      rw [List.filter_append, idle, List.append_nil, steps]
    -- If the directories above it all exist, in any later file system, the last one is made there.
    have makes {later : FileSystem} (rests : later.Rests cwd first base) (full : later.Full base names)
        (bare : later.Bare base (name :: names)) :
        later.makeOrFind cwd path = later.makeAt (names ++ base) name ∧
          later.ending cwd path = .ok (.name (names ++ base) name (Path.endsWithSlash path)) := by
      obtain ⟨mode, directory, enters⟩ := rests.enters
      obtain ⟨_, inner, enters'⟩ := full.enters directory enters
      have ends := ending_of_walk sane parts ordinary (starts ▸ rests.finds bare.1 full steps) inner
        enters'
      exact ⟨makeOrFind_at ends bare.2.2, ends⟩
    rw [descend]
    by_cases full : fs.Full base names
    · obtain ⟨made, ends⟩ := makes now full bare
      rw [full.descend, makeChain_other _ proper (makeDirectory_ne_noEntry ends), made]
    · obtain ⟨misses, ends⟩ := now.misses bare.1 full steps
      rw [← starts] at misses ends
      rcases ends with missing | ⟨long, unmade⟩
      · obtain ⟨ends, _⟩ := ending_of_miss sane parts misses missing
        rw [makeChain_missing _ proper (makeDirectory_of_ending ends), earlier]
        cases descends : fs.descend base names with
        | mk partly result =>
          cases result with
          | error cause => rfl
          | ok done =>
            have rests := rests names (List.suffix_cons _ _)
            have kept := descend_other fs (not_below_deeper name names base)
            rw [descends] at rests kept
            have later := descend_full bare.1 descends
            have bare' : partly.Bare base (name :: names) :=
              ⟨later.bare bare.1, ordinary, by rw [kept]; exact bare.2.2⟩
            exact (makes rests later bare').1
      · obtain ⟨ends, finds⟩ := ending_of_miss sane parts misses long
        have unmade' := makeDirectory_of_ending ends
        rw [makeChain_other _ proper (by simp [unmade']), unmade]
        unfold makeOrFind
        simp only [unmade', isDirectory_of_find_error finds, Bool.false_eq_true, if_false]

end Chains

end CalcBuild.Files.FileSystem

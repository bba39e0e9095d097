/-
**Names for the linkers of several builds.**

The name that a linker writes to is found by making an empty file, and making it is exclusive. But the
file is removed again before the linker makes its own, and what the build goes on to hold is the name
only. So another build can come to hold the same name: if it draws it in the gap, while nothing is
there.

* `Crowd.Holds`: one of the builds holds a name;
* `Comes.numbered`: the names held come from different draws;
* `Comes.overlaps`: two builds hold one name only because one drew it in the gap of the other;
* `Crowd.Excludes`, `names_excluded`: what is true of names at every moment;
* `twins`, `names_shared`: two builds that hold the same name, one of which publishes what the other
  linked.
-/

import CalcBuild.Proofs.Build.Footprint
import Mathlib

namespace CalcBuild

open Files FileSystem

variable {State : Type}

/-! ### Names that are drawn -/

/-- A name for the linker is a name of its own if the random part is one. -/
theorem Staging.isLeaf {part : Bytes} (plain : Path.slash ∉ part) :
    Path.IsLeaf (Staging.stem ++ part) := by
  have stem : Staging.stem = [0x2E, 0x63, 0x61, 0x6C, 0x63, 0x2D, 0x6F, 0x75, 0x74, 0x2D] := by decide
  refine ⟨by simp [stem, isOrdinary, Path.here, Path.up], fun member => ?_⟩
  rcases List.mem_append.mp member with inStem | inPart
  · exact absurd inStem (by decide)
  · exact plain inPart

/-- The path of the name for the linker of an output that is drawn at a number. -/
def stagingPath (setting : Setting) (output : Bytes) (drawn : Nat) : Bytes :=
  Path.join (setting.anchor (Staging.directory output)) (Staging.stem ++ setting.names drawn)

/-- **Different names in one directory** denote different places. -/
theorem stagingPath_apart {setting : Setting} (plain : ∀ drawn, Path.slash ∉ setting.names drawn)
    {fs : FileSystem} {output output' : Bytes}
    (beside : Staging.directory output = Staging.directory output') {drawn drawn' : Nat}
    (differ : stagingPath setting output drawn ≠ stagingPath setting output' drawn') {place : Place}
    (denotes : fs.placeOf setting.cwd (stagingPath setting output drawn) = some place) :
    fs.placeOf setting.cwd (stagingPath setting output' drawn') ≠ some place := by
  intro denotes'
  obtain ⟨dir, name, rfl, ends⟩ := placeOf_eq_some_iff.mp denotes
  obtain ⟨dir', name', same, ends'⟩ := placeOf_eq_some_iff.mp denotes'
  obtain ⟨_, leaf, _⟩ := (ending_join_iff (Staging.isLeaf (plain drawn))).mp ends
  obtain ⟨_, leaf', _⟩ := (ending_join_iff (Staging.isLeaf (plain drawn'))).mp ends'
  obtain ⟨rfl, rfl⟩ := List.cons.inj same
  exact differ (by unfold stagingPath; rw [beside, ← leaf, ← leaf'])

namespace BuildRun

variable {programs : Programs State} {setting : Setting} {builder : Builder}
  {before after : World} {run run' : BuildRun State} {events : List Event}

/-- A name that a build holds after a turn it held before, or drew, where nothing was. -/
theorem Turn.holds (turn : Turn programs setting builder before run after run' events)
    {staging : Bytes} (held : run'.staging? = some staging) :
    run.staging? = some staging ∨ ∃ drawn, before.drawn ≤ drawn ∧ drawn < after.drawn ∧
      staging = stagingPath setting run.request.output drawn ∧
      before.files.createNew setting.cwd Staging.mode staging = .ok after.files := by
  cases turn with
  | process _ _ _ _ _ _ => exact .inl held
  | own steps =>
    cases steps with
    | reserved phase reserves =>
      cases held
      obtain ⟨drawn, _, makes, from_, below, path⟩ := reserve_ok reserves
      exact .inr ⟨drawn, from_, below, path, makes⟩
    | _ => first | exact .inl held | cases held

/-- Names that are drawn stay drawn. -/
theorem Turn.drawn (turn : Turn programs setting builder before run after run' events) :
    before.drawn ≤ after.drawn := by
  cases turn with
  | process _ _ _ drawn _ _ => exact Nat.le_of_eq drawn.symm
  | own steps => exact steps.drawn

end BuildRun

namespace Crowd

/-! ### Names that are held -/

/-- One of some builds holds a name for the linker. -/
def Holds (runs : List (BuildRun State)) (index : Nat) (staging : Bytes) : Prop :=
  ∃ run, runs[index]? = some run ∧ run.staging? = some staging

/-- What the builds hold after a turn of one of them. -/
theorem holds_set {runs : List (BuildRun State)} {index other : Nat} {run' : BuildRun State}
    {staging : Bytes} (holds : Holds (runs.set index run') other staging) :
    other = index ∧ run'.staging? = some staging ∨ other ≠ index ∧ Holds runs other staging := by
  obtain ⟨run, listed, held⟩ := holds
  by_cases same : other = index
  · subst same
    rw [List.getElem?_set_self'] at listed
    cases before : runs[other]? with
    | none => simp [before] at listed
    | some went =>
      rw [before] at listed
      cases listed
      exact .inl ⟨rfl, held⟩
  · rw [List.getElem?_set_ne (Ne.symm same)] at listed
    exact .inr ⟨same, run, listed, held⟩

variable {crowd : Crowd State}

/-- Each name that is held was drawn at a number of its own. -/
def Numbered (crowd : Crowd State) (world : World) (runs : List (BuildRun State)) : Prop :=
  ∃ number : Nat → Nat, ∀ index staging, Holds runs index staging →
    number index < world.drawn ∧
    (∃ request, crowd.requests[index]? = some request ∧
      staging = stagingPath crowd.setting request.output (number index)) ∧
    ∀ other staging', Holds runs other staging' → other ≠ index → number other ≠ number index

/-- **The names held come from different draws.** -/
theorem Comes.numbered {choices : List Choice} {world : World} {runs : List (BuildRun State)}
    (comes : crowd.Comes choices world runs) : crowd.Numbered world runs := by
  refine comes.induction (motive := fun _ world runs => crowd.Numbered world runs) ?_ ?_ ?_
  · refine ⟨fun _ => 0, fun index staging ⟨run, listed, held⟩ => ?_⟩
    rw [List.getElem?_map, Option.map_eq_some_iff] at listed
    obtain ⟨_, _, rfl⟩ := listed
    cases held
  · intro choices choice before after runs _ _ _ drawn ⟨number, ih⟩
    exact ⟨number, fun index staging holds => drawn ▸ ih index staging holds⟩
  · intro choices choice before after runs index run run' events earlier _ listed turn ⟨number, ih⟩
    obtain ⟨request, asked, wired⟩ := earlier.wired listed
    -- Whatever the other builds hold was drawn before.
    have others {other : Nat} {staging : Bytes} (holds : Holds runs other staging) :
        number other < after.drawn := Nat.lt_of_lt_of_le (ih other staging holds).1 turn.drawn
    have keeps {staging : Bytes} (held : run.staging? = some staging) : Holds runs index staging :=
      ⟨run, listed, held⟩
    by_cases new : ∃ staging, run'.staging? = some staging ∧ run.staging? ≠ some staging
    · obtain ⟨staging, held, fresh⟩ := new
      obtain ⟨drawn, from_, below, path, _⟩ := (turn.holds held).resolve_left fresh
      rw [wired.1] at path
      have unlike {other : Nat} {staging' : Bytes} (holds : Holds runs other staging') :
          number other ≠ drawn := Nat.ne_of_lt (Nat.lt_of_lt_of_le (ih other staging' holds).1 from_)
      refine ⟨Function.update number index drawn, fun other staging' holds => ?_⟩
      rcases holds_set holds with ⟨rfl, held'⟩ | ⟨differs, holds'⟩
      · rw [held] at held'
        cases held'
        rw [Function.update_self]
        refine ⟨below, ⟨request, asked, path⟩, fun third staging'' holds'' differs => ?_⟩
        rw [Function.update_of_ne differs]
        rcases holds_set holds'' with ⟨same, _⟩ | ⟨_, holds''⟩
        · exact absurd same differs
        · exact unlike holds''
      · rw [Function.update_of_ne differs]
        obtain ⟨_, path', distinct⟩ := ih other staging' holds'
        refine ⟨others holds', path', fun third staging'' holds'' differs' => ?_⟩
        rcases holds_set holds'' with ⟨rfl, _⟩ | ⟨differs'', holds''⟩
        · rw [Function.update_self]
          exact (unlike holds').symm
        · rw [Function.update_of_ne differs'']
          exact distinct third staging'' holds'' differs'
    · have held {other : Nat} {staging : Bytes} (holds : Holds (runs.set index run') other staging) :
          Holds runs other staging := by
        rcases holds_set holds with ⟨rfl, held'⟩ | ⟨_, holds'⟩
        · refine keeps ?_
          by_contra fresh
          exact new ⟨staging, held', fresh⟩
        · exact holds'
      refine ⟨number, fun other staging holds => ?_⟩
      obtain ⟨_, path, distinct⟩ := ih other staging (held holds)
      exact ⟨others (held holds), path, fun third staging' holds' =>
        distinct third staging' (held holds')⟩

/-- At an earlier moment one of two builds drew a name in the gap of the other: the other held the name,
and nothing was there. -/
def Overlaps (crowd : Crowd State) (choices : List Choice) (first second : Nat) (staging : Bytes) :
    Prop :=
  ∃ earlier choice past went later come, earlier ++ [choice] <+: choices ∧
    crowd.Comes earlier past went ∧ crowd.Comes (earlier ++ [choice]) later come ∧
    (Holds went first staging ∧ ¬ Holds went second staging ∨
      Holds went second staging ∧ ¬ Holds went first staging) ∧
    Holds come first staging ∧ Holds come second staging ∧
    ∃ place, past.files.placeOf crowd.setting.cwd staging = some place ∧
      past.files.get? place = none ∧ later.files.get? place = some (.file Staging.mode [])

theorem Overlaps.mono {choices choices' : List Choice} {first second : Nat} {staging : Bytes}
    (overlaps : crowd.Overlaps choices first second staging) (longer : choices <+: choices') :
    crowd.Overlaps choices' first second staging := by
  obtain ⟨earlier, choice, past, went, later, come, shorter, rest⟩ := overlaps
  exact ⟨earlier, choice, past, went, later, come, shorter.trans longer, rest⟩

/-- A name that can be made denotes a free place, and an empty file afterwards. -/
theorem createNew_place {fs fs' : FileSystem} {cwd : Place} {mode : Mode} {path : Bytes}
    (makes : fs.createNew cwd mode path = .ok fs') :
    ∃ place, fs.placeOf cwd path = some place ∧ fs.get? place = none ∧
      fs'.get? place = some (.file mode []) := by
  obtain ⟨dir, name, ends, _, free, _, rfl⟩ := createNew_eq_ok_iff.mp makes
  refine ⟨name :: dir, by unfold placeOf; rw [ends], free, ?_⟩
  rw [get?_put _ _ _ (List.cons_ne_nil _ _), if_pos rfl]

/-- **Two builds hold one name only if one drew it in the gap of the other.** -/
theorem Comes.overlaps {choices : List Choice} {world : World} {runs : List (BuildRun State)}
    (comes : crowd.Comes choices world runs) {first second : Nat} (differ : first ≠ second)
    {staging : Bytes} (holds : Holds runs first staging) (holds' : Holds runs second staging) :
    crowd.Overlaps choices first second staging := by
  revert holds holds'
  refine comes.induction (motive := fun choices _ runs => Holds runs first staging →
    Holds runs second staging → crowd.Overlaps choices first second staging) ?_ ?_ ?_
  · rintro ⟨run, listed, held⟩
    rw [List.getElem?_map, Option.map_eq_some_iff] at listed
    obtain ⟨_, _, rfl⟩ := listed
    cases held
  · intro choices choice _ _ runs _ _ _ _ ih holds holds'
    exact (ih holds holds').mono (List.prefix_append ..)
  · intro choices choice before after runs index run run' events earlier now listed turn ih holds holds'
    have past {other : Nat} (held : Holds (runs.set index run') other staging) :
        Holds runs other staging ∨ other = index ∧ run'.staging? = some staging := by
      rcases holds_set held with here | ⟨_, kept⟩
      · exact .inr here
      · exact .inl kept
    by_cases both : Holds runs first staging ∧ Holds runs second staging
    · exact (ih both.1 both.2).mono (List.prefix_append ..)
    · -- One of the two builds has drawn the name in this turn.
      have drew (held : run'.staging? = some staging) (fresh : ¬ Holds runs index staging) :
          ∃ place, before.files.placeOf crowd.setting.cwd staging = some place ∧
            before.files.get? place = none ∧
            after.files.get? place = some (.file Staging.mode []) := by
        rcases turn.holds held with kept | ⟨_, _, _, _, makes⟩
        · exact absurd ⟨run, listed, kept⟩ fresh
        · exact createNew_place makes
      rcases past holds, past holds' with ⟨kept | ⟨rfl, held⟩, kept' | ⟨rfl, held'⟩⟩
      · exact absurd ⟨kept, kept'⟩ both
      · have fresh : ¬ Holds runs second staging := fun held => both ⟨kept, held⟩
        exact ⟨choices, choice, before, runs, after, _, List.prefix_refl _, earlier, now,
          .inl ⟨kept, fresh⟩, holds, holds', drew held' fresh⟩
      · have fresh : ¬ Holds runs first staging := fun held => both ⟨held, kept'⟩
        exact ⟨choices, choice, before, runs, after, _, List.prefix_refl _, earlier, now,
          .inr ⟨kept', fresh⟩, holds, holds', drew held fresh⟩
      · exact absurd rfl differ

/-! ### What exclusion comes to -/

/-- What is true of the names for the linkers at a moment. -/
structure Excludes (crowd : Crowd State) (choices : List Choice) (world : World)
    (runs : List (BuildRun State)) : Prop where
  /-- A build draws a name only where nothing is, and makes an empty file there. -/
  drawn : ∀ {index : Nat} {run run' : BuildRun State} {after : World} {events : List Event}
    {staging : Bytes}, runs[index]? = some run → crowd.Turn world run after run' events →
    run.staging? ≠ some staging → run'.staging? = some staging →
    ∃ place, world.files.placeOf crowd.setting.cwd staging = some place ∧
      world.files.get? place = none ∧ after.files.get? place = some (.file Staging.mode [])
  /-- Two builds hold the same name only if it was drawn twice, the second time in the gap between the
  removal of the empty file and the first write of the linker, or after a removal of that. -/
  shared : ∀ {first second : Nat} {staging : Bytes}, first ≠ second → Holds runs first staging →
    Holds runs second staging → crowd.Overlaps choices first second staging ∧
      ∃ drawn drawn', drawn ≠ drawn' ∧ crowd.setting.names drawn = crowd.setting.names drawn'
  /-- Until a build moves what it linked to the output path, its processes and its cleanup leave
  alone what is at the name that another build holds in the same directory, unless the names are the
  same. -/
  apart : ∀ {first second : Nat} {request request' : BuildRequest} {run run' : BuildRun State}
    {after : World} {events : List Event} {staging staging' : Bytes},
    crowd.requests[first]? = some request → crowd.requests[second]? = some request' →
    Staging.directory request.output = Staging.directory request'.output →
    Holds runs first staging → runs[second]? = some run → run.staging? = some staging' →
    staging ≠ staging' → run.phase ≠ .publishing → crowd.Turn world run after run' events →
    ∀ place, world.files.placeOf crowd.setting.cwd staging = some place →
      after.files.get? place = world.files.get? place

/-- **Making the empty file is exclusive, holding the name is not**: two builds that hold different names
in one directory leave each other's files alone, and they hold the same name only if the generator
drew it again in the gap. -/
theorem names_excluded (crowd : Crowd State) (confined : crowd.programs.Confined)
    (sound : crowd.world.files.Sound) (plain : ∀ drawn, Path.slash ∉ crowd.setting.names drawn)
    {choices : List Choice} {world : World} {runs : List (BuildRun State)}
    (comes : crowd.Comes choices world runs) : crowd.Excludes choices world runs where
  drawn := by
    intro index run run' after events staging listed turn fresh held
    obtain ⟨_, _, _, _, makes⟩ := (turn.holds held).resolve_left fresh
    exact createNew_place makes
  shared := by
    intro first second staging differ holds holds'
    refine ⟨comes.overlaps differ holds holds', ?_⟩
    obtain ⟨number, numbered⟩ := comes.numbered
    obtain ⟨_, ⟨_, _, path⟩, distinct⟩ := numbered first staging holds
    obtain ⟨_, ⟨_, _, path'⟩, _⟩ := numbered second staging holds'
    refine ⟨number second, number first, distinct second staging holds' differ.symm, ?_⟩
    have same := Path.leaf_of_join (Staging.isLeaf (plain _)) (Staging.isLeaf (plain _))
      (path'.symm.trans path)
    exact List.append_cancel_left same
  apart := by
    intro first second request request' run run' after events staging staging' asked asked' beside holds
      listed held differ unpublished turn place denotes
    obtain ⟨number, numbered⟩ := comes.numbered
    obtain ⟨_, ⟨_, asks, path⟩, _⟩ := numbered first staging holds
    obtain ⟨_, ⟨_, asks', path'⟩, _⟩ := numbered second staging' ⟨run, listed, held⟩
    rw [asked] at asks
    rw [asked'] at asks'
    cases asks
    cases asks'
    have touched := (comes.effect confined sound listed turn).atName (comes.sound confined sound) held
      (.inl unpublished)
    rw [path] at differ denotes
    rw [path'] at differ touched
    have elsewhere := stagingPath_apart plain beside differ denotes
    exact (touched.frame place).resolve_right fun changed => elsewhere changed.1

/-! ### Two builds that hold the same name -/

/-- Two builds with outputs in one directory. The generator draws `a` and `b` for the workspaces, and `c`
for both names of the linkers. -/
def twins : Crowd Launch :=
  small (fun drawn => if drawn = 0 then [0x61] else if drawn = 2 then [0x62] else [0x63])
    [Bytes.ofText "/t/x", Bytes.ofText "/t/y"]

/-- The first build comes to its linker; then the second one draws the name. -/
def gap : List Choice := throughDraw 0 ++ [.job 0] ++ throughDraw 1

/-- After that the linker of the first build starts and writes its file. -/
def linked : List Choice := gap ++ [.job 0, .job 0, .job 0, .child 0]

theorem holds_iff {runs : List (BuildRun State)} {index : Nat} {staging : Bytes} :
    Holds runs index staging ↔
      ((runs.map Job.build).map held?)[index]? = some (some staging) := by
  unfold Holds
  rw [List.map_map, List.getElem?_map, Option.map_eq_some_iff]
  rfl

/-- The place of the name that both builds draw. -/
def sharedPlace : Place := [Bytes.ofText ".calc-out-c", [0x74]]

/-- What is held, and what is at the name before and after the next step of the second build. -/
def watched (system : System Launch) : List (Option Bytes) × Option Entry × Option Entry :=
  (system.jobs.map held?, system.world.files.get? sharedPlace,
    (system.act twins.programs twins.setting twins.builder (.job 1)).world.files.get? sharedPlace)

set_option maxRecDepth 4000 in
theorem watched_twins : watched (twins.after linked)
    = ([some (Bytes.ofText "/t/.calc-out-c"), some (Bytes.ofText "/t/.calc-out-c")],
      some (.file Mode.ofFile
        (Bytes.ofText "/t/calcca/expr.o/t/calcca/runtime.o-lc-lm-o/t/.calc-out-c")), none) := by
  cbv

/-- **Two builds hold the same name**, and one of them removes what the linker of the other one wrote. -/
theorem names_shared : ∃ world runs after runs',
    twins.Comes linked world runs ∧ twins.Comes (linked ++ [.job 1]) after runs' ∧
    Holds runs 0 (Bytes.ofText "/t/.calc-out-c") ∧ Holds runs 1 (Bytes.ofText "/t/.calc-out-c") ∧
    world.files.get? sharedPlace = some (.file Mode.ofFile
      (Bytes.ofText "/t/calcca/expr.o/t/calcca/runtime.o-lc-lm-o/t/.calc-out-c")) ∧
    after.files.get? sharedPlace = none := by
  obtain ⟨world, runs, comes⟩ := twins.exists_comes linked
  obtain ⟨after, runs', comes'⟩ := twins.exists_comes (linked ++ [.job 1])
  have seen := watched_twins
  rw [watched, ← after_concat, comes'.world_eq, comes.world_eq, comes.jobs_eq, Prod.mk.injEq,
    Prod.mk.injEq] at seen
  obtain ⟨held, written, removed⟩ := seen
  exact ⟨world, runs, after, runs', comes, comes', holds_iff.mpr (by rw [held]; rfl),
    holds_iff.mpr (by rw [held]; rfl), written, removed⟩

/-- The two builds exclude each other as far as the names of the generator do: they come to hold the
same name, which one of them drew in the gap of the other. -/
theorem names_excluded_twins : ∃ world runs, twins.Comes linked world runs ∧
    twins.Excludes linked world runs ∧
    twins.Overlaps linked 0 1 (Bytes.ofText "/t/.calc-out-c") := by
  obtain ⟨world, runs, comes⟩ := twins.exists_comes linked
  have seen := watched_twins
  rw [watched, comes.jobs_eq, Prod.mk.injEq] at seen
  have held := seen.1
  have plain : ∀ drawn, Path.slash ∉ twins.setting.names drawn := by
    intro drawn
    unfold twins small
    dsimp only
    split
    · decide
    · split <;> decide
  have excludes := names_excluded twins (stamp_confined _ _) (Solo.small_sound stampers []) plain comes
  exact ⟨world, runs, comes, excludes, (excludes.shared Nat.zero_ne_one
    (holds_iff.mpr (by rw [held]; rfl)) (holds_iff.mpr (by rw [held]; rfl))).1⟩

end Crowd

end CalcBuild

/-
**Where the name for the linker lies.**

The directory of an output is told by the text of its path, and the name for the linker is drawn in that
directory. The last component of the output is looked up through links and `..`, and still it is the same
directory. So publishing what was linked moves it from one name to another in a single directory.

* `Staging.directory_parts`: the components of the directory of an output;
* `Staging.ending_iff`: it is the directory in which the last component of the output is looked up;
* `Staging.leadsInto_of_ends`: a name that is drawn lies in it;
* `Staging.Placed`, `staging_placed`: what reserving a name comes to, and what publishing under it does.
-/

import CalcBuild.Proofs.Build.Exclusion
import CalcBuild.Proofs.Files.Parent

namespace CalcBuild

open Files FileSystem

/-- A path whose last component is an ordinary name, with no slash after it. -/
structure Files.Path.EndsIn (path name : Bytes) : Prop where
  last : (Path.names path).getLast? = some name
  ordinary : isOrdinary name = true
  unslashed : Path.endsWithSlash path = false

namespace Staging

variable {setting : Setting} {output last : Bytes} {fs : FileSystem} {place : Place}

/-! ### The directory of an output -/

theorem directory_ne_nil (output : Bytes) : directory output ≠ [] := by
  unfold directory
  split
  · split
    · decide
    · assumption
  · decide

/-- **The components of the directory of an output** are those of the output without the last one, apart
from components `.` at the end. -/
theorem directory_parts (named : Path.EndsIn output last) :
    ∃ common dots dots', Path.names output = common ++ dots ++ [last] ∧
      Path.names (directory output) = common ++ dots' ∧ (∀ dot ∈ dots, dot = Path.here) ∧
      (∀ dot ∈ dots', dot = Path.here) ∧
      Path.isAbsolute (directory output) = Path.isAbsolute output ∧
      (directory output = Path.here ∨ directory output <+: output) := by
  have proper := isOrdinary_iff.mp named.ordinary
  obtain ⟨before, parts⟩ := List.getLast?_eq_some_iff.mp named.last
  obtain ⟨above, dots, has, split, all_dots⟩ := Path.parent_of_last parts proper.2.1
  obtain ⟨begins, rooted, _⟩ := Path.parent_prefix has
  rw [parts, split]
  unfold directory
  rw [has]
  dsimp only
  by_cases bare : above = []
  · subst bare
    rw [if_pos rfl]
    exact ⟨[], dots, [Path.here], rfl, rfl, all_dots, fun dot member => List.mem_singleton.mp member,
      rooted, .inl rfl⟩
  · rw [if_neg bare]
    exact ⟨Path.names above, dots, [], rfl, (List.append_nil _).symm, all_dots, List.forall_mem_nil _,
      rooted, .inr begins⟩

/-- **The directory of an output is the one in which its last component is looked up.** -/
theorem ending_iff (named : Path.EndsIn output last) {cwd : Place} :
    fs.ending cwd output = .ok (.name place last false) ↔
      pathFault? output = none ∧ fs.LeadsInto cwd (directory output) place := by
  obtain ⟨common, dots, dots', parts, aboveParts, all_dots, all_dots', rooted, begins⟩ :=
    directory_parts named
  refine ending_iff_leadsInto parts named.ordinary named.unslashed aboveParts all_dots all_dots' rooted
    fun sane => ?_
  rcases begins with here | begins
  · rw [here]
    decide
  · exact pathFault?_prefix sane (directory_ne_nil output) begins

/-! ### A name in that directory -/

/-- **A name under the anchor of a directory lies in that directory**, if the current one exists or does
not matter. -/
theorem leadsInto_of_ends (closed : fs.Closed) (ordinary : ∀ name ∈ setting.cwd, Path.IsLeaf name)
    {dir : Bytes} (here : Path.isAbsolute dir = true ∨ fs.isDirectoryAt setting.cwd = true)
    (proper : dir ≠ []) {leaf name : Bytes} {slashed : Bool} (isLeaf : Path.IsLeaf leaf)
    (ends : fs.ending setting.cwd (Path.join (setting.anchor dir) leaf)
      = .ok (.name place name slashed)) :
    name = leaf ∧ slashed = false ∧ fs.LeadsInto setting.cwd dir place := by
  obtain ⟨sane, same, unslashed, leads, enters⟩ := (ending_join_iff isLeaf).mp ends
  have rooted := setting.isAbsolute_anchor dir
  have saneAnchor := pathFault?_of_join rooted isLeaf sane
  rw [start_join isLeaf, start_absolute rooted] at leads
  refine ⟨same, unslashed, leadsInto_iff.mpr ?_⟩
  by_cases absolute : Path.isAbsolute dir = true
  · have anchor : setting.anchor dir = dir := if_pos absolute
    rw [anchor] at saneAnchor leads
    rw [start_absolute absolute]
    exact ⟨saneAnchor, leads, enters⟩
  · have anchor : setting.anchor dir = Path.join setting.cwd.path dir := if_neg absolute
    have relative : start setting.cwd dir = setting.cwd := if_neg absolute
    have parts := Path.names_join_relative setting.cwd.path (Bool.eq_false_iff.mpr absolute)
    have suffix := Path.suffix_join setting.cwd.path (Bool.eq_false_iff.mpr absolute)
    rw [anchor] at saneAnchor leads
    obtain ⟨clean, _, short⟩ := pathFault?_eq_none_iff.mp saneAnchor
    rw [parts, Path.names_path fun name member => (ordinary name member).component] at leads
    rw [relative]
    exact ⟨pathFault?_eq_none_iff.mpr ⟨fun member => clean (suffix.subset member), proper,
      Nat.lt_of_le_of_lt suffix.length_le short⟩,
      walk_from_root closed (fun name member => (ordinary name member).ordinary)
        (here.resolve_left absolute) leads, enters⟩

/-! ### Reserving the name, and publishing under it -/

/-- The current directory exists when a name has been reserved from there. -/
theorem here_of_reserve {world world' : World} {staging : Bytes}
    (reserves : reserve setting output world = (world', .ok staging)) :
    Path.isAbsolute (directory output) = true ∨ world.files.isDirectoryAt setting.cwd = true := by
  unfold reserve World.reserve at reserves
  dsimp only at reserves
  by_cases absolute : Path.isAbsolute (directory output) = true
  · exact .inl absolute
  · by_cases here : world.files.isDirectoryAt setting.cwd = true
    · exact .inr here
    · simp [absolute, here, Except.mapError] at reserves

/-- What freeing a name does that has just been reserved: the files are as they were before, apart from
the name's own place. -/
theorem freed {mode : Mode} {before made after : FileSystem} {cwd : Place} {staging : Bytes}
    (sound : before.Sound) (rooted : Path.isAbsolute staging = true)
    (makes : before.createNew cwd mode staging = .ok made) (removes : made.unlink cwd staging = .ok after) :
    after.Sound ∧ ∃ dir name, before.ending cwd staging = .ok (.name dir name false) ∧
      after.get? (name :: dir) = none ∧ ∀ place, after.get? place = before.get? place := by
  have soundMade := (createNew_touched sound makes).sound
  refine ⟨(unlink_touched soundMade removes).sound, ?_⟩
  obtain ⟨dir, name, ends, _, free, _, rfl⟩ := createNew_eq_ok_iff.mp makes
  have proper := List.cons_ne_nil name dir
  obtain ⟨dir', name', _, ends', _, _, _, _, rfl⟩ := unlink_eq_ok_iff.mp removes
  rw [ending_extends sound.closed (extends_put _ proper free) (start_present rooted) ends] at ends'
  cases ends'
  refine ⟨dir, name, ends, by rw [get?_drop _ _ proper, if_pos rfl], fun place => ?_⟩
  rw [get?_drop _ _ proper, get?_put _ _ _ proper]
  by_cases same : place = name :: dir
  · rw [if_pos same, same, free]
  · rw [if_neg same, if_neg same]

/-- **A name has been reserved beside an output.** It is free in the directory that the output lies in,
and what has been made are directories on the way there. Whenever what has been linked is published, it is
moved from one name to the other in a single directory. -/
structure Placed (setting : Setting) (output last staging : Bytes) (before after : FileSystem)
    (home : Place) (leaf : Bytes) : Prop where
  leads : after.LeadsInto setting.cwd (directory output) home
  denotes : after.ending setting.cwd staging = .ok (.name home leaf false)
  free : after.get? (leaf :: home) = none
  made : ∀ place, after.get? place = before.get? place ∨ before.get? place = none ∧
    after.get? place = some (.directory Mode.ofDirectory) ∧
    place ∈ after.wayTo setting.cwd (directory output)
  stays : ∀ {fs fs' : FileSystem}, fs.Closed →
    (Path.isAbsolute output = true ∨ fs.isDirectoryAt setting.cwd = true) →
    publish setting output staging fs = (fs', .ok ()) →
    ∃ dir, fs.ending setting.cwd staging = .ok (.name dir leaf false) ∧
      fs.ending setting.cwd output = .ok (.name dir last false) ∧
      (leaf = last ∧ fs' = fs ∨ fs' = fs.move (leaf :: dir) (last :: dir))

end Staging

open Staging

/-- **The name for the linker lies where the output does.** For every output that ends in an ordinary name,
the text of its directory is not empty and leads, in every file system, to the directory in which the last
component of the output is looked up. A name that is reserved is free there, nothing else has been made
but directories on the way to it, and publishing under it moves nothing between directories. -/
theorem staging_placed {setting : Setting} {output last : Bytes} (named : Path.EndsIn output last)
    (plain : ∀ drawn, Path.slash ∉ setting.names drawn)
    (ordinary : ∀ name ∈ setting.cwd, Path.IsLeaf name) :
    directory output ≠ [] ∧
    (∀ (fs : FileSystem) (place : Place),
      fs.ending setting.cwd output = .ok (.name place last false) ↔
        pathFault? output = none ∧ fs.LeadsInto setting.cwd (directory output) place) ∧
    ∀ {world prepared reserved : World} {staging : Bytes} {files : FileSystem}, world.files.Sound →
      prepare setting output world = (prepared, .ok ()) →
      reserve setting output prepared = (reserved, .ok staging) →
      vacate setting output staging reserved.files = (files, .ok ()) →
      ∃ home leaf, Placed setting output last staging world.files files home leaf := by
  refine ⟨directory_ne_nil output, fun fs place => ending_iff named,
    fun {world prepared reserved staging files} sound prepares reserves vacates => ?_⟩
  have made := prepare_madeBy prepares
  have here := here_of_reserve reserves
  obtain ⟨_, _, _, _, _, _, _, rooted, _⟩ := directory_parts named
  obtain ⟨drawn, absolute, makes, _, _, path⟩ := reserve_ok reserves
  obtain ⟨soundAfter, dir, name, ends, free, same⟩ :=
    freed (made.sound sound) absolute makes (vacate_ok vacates)
  have unchanged : files.Grows prepared.files := fun place => .inl (same place)
  have isLeaf := Staging.isLeaf (plain drawn)
  have endsAfter := ending_grows unchanged ends
  have hereAfter : Path.isAbsolute (directory output) = true ∨
      files.isDirectoryAt setting.cwd = true := by
    unfold isDirectoryAt directoryMode? at here ⊢
    rwa [same]
  obtain ⟨rfl, _, leads⟩ := leadsInto_of_ends soundAfter.closed ordinary hereAfter
    (directory_ne_nil output) isLeaf (path ▸ endsAfter)
  refine ⟨dir, _, leads, endsAfter, free, fun place => ?_, fun {fs fs'} closed present publishes => ?_⟩
  · rw [same]
    refine (made.grows place).imp_right fun ⟨missing, new⟩ => ⟨missing, new, ?_⟩
    obtain ⟨above, member, denotes⟩ := made.denoted missing (by rw [new]; exact nofun)
    exact mem_wayTo_of_ancestor member (placeOf_grows unchanged denotes)
  · obtain ⟨dir', name', slashed, dir'', name'', slashed', ends', ends'', moved⟩ :=
      rename_cases (publish_ok publishes)
    obtain ⟨rfl, rfl, leads'⟩ := leadsInto_of_ends closed ordinary (rooted ▸ present)
      (directory_ne_nil output) isLeaf (path ▸ ends')
    obtain ⟨_, listed, _, _, _, _, open_⟩ := ending_name ends''
    rw [named.last] at listed
    rw [named.unslashed] at open_
    cases listed
    subst open_
    obtain rfl := leads'.unique ((ending_iff named).mp ends'').2
    refine ⟨dir', ends', ends'', moved.imp (fun ⟨one, unmoved⟩ => ⟨?_, unmoved⟩)
      fun ⟨_, _, _, moves⟩ => moves⟩
    exact (List.cons.inj one).1

/-! ### An output at the end of a winding way -/

/-- The directory `/t`, with a link `l` in it that leads back to it. -/
def loop : World :=
  ⟨(FileSystem.empty.put [[0x74]] (.directory Mode.ofDirectory)).put [[0x6C], [0x74]]
    (.link Path.here), .lowered, 0, 0⟩

/-- It is the current directory. -/
def atLoop : Setting := ⟨[[0x74]], ⟨[]⟩, fun _ => [0x61], fun _ => .ignored⟩

/-- An output in a directory `m` that is missing; the way there leads into a missing directory `n`, out of
it again, and through the link. -/
def windingOutput : Bytes := Bytes.ofText "n/.//..//l/m/.//b"

/-- The two directories have been made. -/
def windingFiles : FileSystem :=
  (loop.files.put [[0x6E], [0x74]] (.directory Mode.ofDirectory)).put [[0x6D], [0x74]]
    (.directory Mode.ofDirectory)

theorem prepares_winding :
    prepare atLoop windingOutput loop = ({ loop with files := windingFiles }, .ok ()) := by
  cbv

theorem reserves_winding : reserve atLoop windingOutput { loop with files := windingFiles }
    = ({ loop with
          files := windingFiles.put [Bytes.ofText ".calc-out-a", [0x6D], [0x74]] (.file Staging.mode [])
          drawn := 1 },
        .ok (Bytes.ofText "/t/n/.//..//l/m/.calc-out-a")) := by
  cbv

theorem vacates_winding : vacate atLoop windingOutput (Bytes.ofText "/t/n/.//..//l/m/.calc-out-a")
    (windingFiles.put [Bytes.ofText ".calc-out-a", [0x6D], [0x74]] (.file Staging.mode []))
      = (windingFiles, .ok ()) := by
  cbv

/-- The name is placed there. -/
theorem staging_placed_winding : Path.EndsIn windingOutput [0x62] ∧ loop.files.Sound ∧
    ∃ home leaf, Placed atLoop windingOutput [0x62] (Bytes.ofText "/t/n/.//..//l/m/.calc-out-a")
      loop.files windingFiles home leaf := by
  have named : Path.EndsIn windingOutput [0x62] := ⟨by cbv, by decide, by cbv⟩
  have sound : loop.files.Sound :=
    (FileSystem.sound_empty.put (by decide) (by decide) (by decide)).put (by decide) (by decide)
      (by decide)
  have plain : ∀ drawn, Path.slash ∉ atLoop.names drawn := fun _ => show Path.slash ∉ [0x61] by decide
  have ordinary : ∀ name ∈ atLoop.cwd, Path.IsLeaf name :=
    List.forall_mem_singleton.mpr ⟨by decide, by decide⟩
  exact ⟨named, sound, (staging_placed named plain ordinary).2.2 sound prepares_winding
    reserves_winding vacates_winding⟩

end CalcBuild

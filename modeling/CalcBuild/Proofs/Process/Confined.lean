/-
**Programs that touch nothing but what they are asked to make.**

A launch names the file to make after the last `-o` of its arguments. A process is confined to that
file if no step of it changes any other entry, and if what it changes is no directory. What it leaves
at that place, whether it gets to leave anything, and how it ends, is up to the process.

* `outputArgument?`: the file that a launch asks for;
* `Programs.Reaches`: what a process started by a launch may come to;
* `Programs.Confined`: the machines all of whose processes are confined;
* `Programs.Contained`: machines whose processes may also make a directory there, and work in it;
* `stamp`: a machine whose processes write one file and end.
-/

import CalcBuild.Build.Stage
import CalcBuild.Process.Programs
import CalcBuild.Proofs.Files.Effect

namespace CalcBuild

open Files

variable {State : Type}

/-- The argument after the last flag for the file to make. -/
def outputArgument? : List Bytes → Option Bytes
  | flag :: path :: rest =>
    (outputArgument? (path :: rest)).or (if flag = outputFlag then some path else none)
  | _ => none

/-- **Arguments that end in the flag and a path ask for that path**, whatever comes before. -/
theorem outputArgument?_append (arguments : List Bytes) (path : Bytes) :
    outputArgument? (arguments ++ [outputFlag, path]) = some path := by
  induction arguments with
  | nil => simp [outputArgument?]
  | cons first rest ih =>
    cases rest with
    | nil => simp [outputArgument?]
    | cons second rest =>
      rw [List.cons_append, List.cons_append, outputArgument?, ← List.cons_append, ih]
      rfl

/-- What a process is after a move that does not end it. -/
def Move.next? : Move State → Option State
  | .goesOn next | .sleeps _ next | .prints _ _ next | .signals _ next => some next
  | .ends _ => none

/-- A process as a move leaves it: it runs on in the next state, or has ended. -/
def Child.Follows (move : Move State) : Child State → Prop
  | .running next _ => move.next? = some next
  | .ended status => move = .ends status

namespace Programs

/-- What a process started by a launch may come to, whatever the files are at its steps. -/
inductive Reaches (programs : Programs State) (launch : Launch) : State → Prop where
  | starts {fs : FileSystem} {state : State} (starts : programs.start fs launch = .ok state) :
      Reaches programs launch state
  | steps {fs : FileSystem} {state next : State} (before : Reaches programs launch state)
      (moves : (programs.step fs state).2.next? = some next) : Reaches programs launch next

/-- **Every process touches nothing but the file that its launch asks for**, and neither finds nor
leaves a directory there. -/
structure Confined (programs : Programs State) : Prop where
  sound : ∀ {launch : Launch} {state : State} {fs : FileSystem}, programs.Reaches launch state →
    fs.Sound → (programs.step fs state).1.Sound
  frame : ∀ {launch : Launch} {state : State} {fs : FileSystem} (place : Place),
    programs.Reaches launch state → fs.Sound →
    (programs.step fs state).1.get? place = fs.get? place ∨
      ∃ path, outputArgument? launch.arguments = some path ∧
        fs.placeOf launch.cwd path = some place ∧ fs.isDirectoryAt place = false ∧
        (programs.step fs state).1.isDirectoryAt place = false

/-- A step of a confined process touches what its launch asks for. -/
theorem Confined.touches {programs : Programs State} (confined : programs.Confined)
    {launch : Launch} {state : State} (reaches : programs.Reaches launch state) {path : Bytes}
    (asks : outputArgument? launch.arguments = some path) {fs : FileSystem} (sound : fs.Sound) :
    FileSystem.Touched launch.cwd path fs (programs.step fs state).1 where
  sound := confined.sound reaches sound
  frame := by
    intro place
    refine (confined.frame place reaches sound).imp_right ?_
    rintro ⟨path', asks', touched⟩
    rw [asks] at asks'
    cases asks'
    exact touched

/-- **Every process touches nothing but what is at and below the place that its launch asks for.** -/
structure Contained (programs : Programs State) : Prop where
  sound : ∀ {launch : Launch} {state : State} {fs : FileSystem}, programs.Reaches launch state →
    fs.Sound → (programs.step fs state).1.Sound
  frame : ∀ {launch : Launch} {state : State} {fs : FileSystem} (place : Place),
    programs.Reaches launch state → fs.Sound →
    (programs.step fs state).1.get? place = fs.get? place ∨
      ∃ path above, outputArgument? launch.arguments = some path ∧
        fs.placeOf launch.cwd path = some above ∧ FileSystem.isWithin above place = true

theorem Confined.contained {programs : Programs State} (confined : programs.Confined) :
    programs.Contained where
  sound := confined.sound
  frame := fun place reaches sound => (confined.frame place reaches sound).imp_right
    fun ⟨path, asks, denotes, _⟩ => ⟨path, place, asks, denotes, FileSystem.isWithin_self place⟩

end Programs

/-! ### A machine of confined processes -/

/-- What a process that writes one file does to the files: it puts the file at the place that its
launch asks for, unless there is a directory. -/
def stampOn (fs : FileSystem) (launch : Launch) (mode : Mode) (contents : Bytes) : FileSystem :=
  match (outputArgument? launch.arguments).bind (fs.placeOf launch.cwd) with
  | some place =>
    if fs.isDirectoryAt place then fs else fs.put place (.file mode contents)
  | none => fs

/-- A machine whose processes write one file and end; what they write, and how they end, is told by
the files and the launch. -/
def stamp (made : FileSystem → Launch → Mode × Bytes) (status : Launch → WaitStatus) :
    Programs Launch where
  start := fun _ launch => .ok launch
  step := fun fs launch =>
    (stampOn fs launch (made fs launch).1 (made fs launch).2, .ends (status launch))

theorem stamp_reaches {made : FileSystem → Launch → Mode × Bytes} {status : Launch → WaitStatus}
    {launch state : Launch} (reaches : (stamp made status).Reaches launch state) :
    state = launch := by
  cases reaches with
  | starts starts =>
    cases starts
    rfl
  | steps _ moves => cases moves

/-- **The processes of this machine are confined.** -/
theorem stamp_confined (made : FileSystem → Launch → Mode × Bytes)
    (status : Launch → WaitStatus) : (stamp made status).Confined where
  sound := by
    intro launch state fs reaches sound
    obtain rfl := stamp_reaches reaches
    show (stampOn fs state _ _).Sound
    unfold stampOn
    split
    · rename_i place asked
      split
      · exact sound
      · rename_i free
        obtain ⟨path, _, denotes⟩ := Option.bind_eq_some_iff.mp asked
        obtain ⟨dir, name, rfl, ends⟩ := FileSystem.placeOf_eq_some_iff.mp denotes
        exact sound.put (List.cons_ne_nil _ _) (FileSystem.ending_directory ends) fun directory =>
          absurd directory free
    · exact sound
  frame := by
    intro launch state fs place reaches sound
    obtain rfl := stamp_reaches reaches
    show (stampOn fs state _ _).get? place = _ ∨ ∃ path, _ ∧ _ ∧ _ ∧
      (stampOn fs state _ _).isDirectoryAt place = false
    unfold stampOn
    split
    · rename_i asked_place asked
      split
      · exact .inl rfl
      · rename_i free
        obtain ⟨path, argument, denotes⟩ := Option.bind_eq_some_iff.mp asked
        obtain ⟨dir, name, rfl, ends⟩ := FileSystem.placeOf_eq_some_iff.mp denotes
        have view := FileSystem.get?_put fs (.file (made fs state).1 (made fs state).2) place
          (List.cons_ne_nil name dir)
        by_cases same : place = name :: dir
        · subst same
          rw [if_pos rfl] at view
          exact .inr ⟨path, argument, denotes, Bool.eq_false_iff.mpr free,
            FileSystem.isDirectoryAt_leaf view rfl⟩
        · rw [if_neg same] at view
          exact .inl view
    · exact .inl rfl

end CalcBuild

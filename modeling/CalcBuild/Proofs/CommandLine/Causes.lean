/-
**How often the driver tells a cause.**

A line that complains about a failure puts together what the driver was doing, the message of the failure
and the texts of its causes. The text of a system error stands out in such a line: it begins as no word of
the messages does, and it has a bracket at its end and nowhere else. So it occurs where it is put and
nowhere else, unless a path or a program of the failure contains it.

The messages of two failures have the cause in them already, which is told once more after them: a
workspace that cannot be created and signal handlers that cannot be installed are told with their causes
twice, all others with theirs once.

* `Cause.system?`, `BuildFailure.system?`: the system error that a failure comes from;
* `Complaint.named`: what a complaint names;
* `occurrences_cause`, `occurrences_named`, `occurrences_fixed`: the pieces of a line;
* `causes_told`: the main theorem.
-/

import CalcBuild.Proofs.CommandLine.Complaints
import CalcBuild.Proofs.CommandLine.Trouble
import CalcBuild.Proofs.Fault.Wording
import CalcBuild.Proofs.Text.Occurrences

namespace CalcBuild

open Text (occurrences)

/-! ### What a complaint is made of -/

/-- The text of the system error that a cause comes from, if it comes from one. -/
def Cause.system? : Cause → Option String
  | .numbered errno => some (Cause.numbered errno).text
  | .told _ => none
  | .located cause _ => cause.system?

/-- The paths that a cause names, as its text shows them. -/
def Cause.places : Cause → List String
  | .located cause path => Text.quoted path :: cause.places
  | _ => []

namespace BuildFailure

/-- The text of the system error that a failure comes from, if it comes from one. -/
def system? : BuildFailure → Option String
  | .workspaceCreate cause | .inputRead _ cause | .spawn _ _ cause | .wait _ _ cause
  | .output _ cause => cause.system?
  | .signalSetup errno => some (errnoTitle errno)
  | _ => none

/-- The paths, programs and commands that a failure names, as they are shown. -/
def named : BuildFailure → List String
  | .toolNotFound tool => [tool.program]
  | .missingRuntime path | .missingArtifact _ path => [Text.Utf8.lossy path]
  | .workspaceCreate cause => cause.places
  | .inputRead path cause | .spawn _ path cause | .wait _ path cause | .output path cause =>
    Text.Utf8.lossy path :: cause.places
  | .stageFailed _ command _ => [command]
  | .stageTimedOut .. | .interrupted .. | .signalSetup _ => []

/-- How often a failure tells its cause: where the message has it already, it is told once more. -/
def tellings : BuildFailure → Nat
  | .workspaceCreate _ | .signalSetup _ => 2
  | .inputRead .. | .spawn .. | .wait .. | .output .. => 1
  | _ => 0

end BuildFailure

/-- What a complaint names: what the driver was doing, and what its failure names. -/
def CommandLine.Complaint.named : Complaint → List String
  | .failed failure => failure.named
  | .other _ => []
  | .during doing inner => doing :: inner.named

/-! ### The pieces of a line -/

theorem head_of_any {text : List Char} (begins : text.head?.any isInitial = true) :
    ∃ first, text.head? = some first ∧ isInitial first = true := by
  cases text with
  | nil => cases begins
  | cons first text => exact ⟨first, rfl, begins⟩

/-- A text that begins with such a character does not begin in the words of messages. -/
theorem occurrences_fixed {text : List Char} (begins : text.head?.any isInitial = true)
    (fixed : String) (spoken : fixed.toList.any isInitial = false) (rest : List Char) :
    occurrences text (fixed.toList ++ rest) = occurrences text rest := by
  obtain ⟨first, head, initial⟩ := head_of_any begins
  exact Text.occurrences_skip head
    (fun member => List.any_eq_false.mp spoken first member initial) rest

/-- A text that begins with such a character does not occur where a line ends. -/
theorem occurrences_end {text : List Char} (begins : text.head?.any isInitial = true) :
    occurrences text "\n".toList = 0 := by
  obtain ⟨first, head, initial⟩ := head_of_any begins
  refine Text.occurrences_words head fun member => ?_
  rw [List.mem_singleton.mp member] at initial
  exact absurd initial (by decide)

section Pieces

variable {body : List Char} (words : Words body)

include words

theorem Words.head : (body ++ [')']).head?.any isInitial = true := by
  have begins := words.begins
  cases body with
  | nil => cases begins
  | cons first body => exact begins

/-- Nothing goes on from a name over a colon, unless a `c` follows. -/
theorem occurrences_named {named : String} (apart : ¬ body ++ [')'] <:+: named.toList) {c : Char}
    (other : c ≠ 'c') (rest : List Char) :
    occurrences (body ++ [')']) (named.toList ++ (": ".toList ++ c :: rest))
      = occurrences (body ++ [')']) (c :: rest) := by
  obtain ⟨first, head, initial⟩ := head_of_any words.head
  have colons : Colons (body ++ [')']) := words.colons.append (by decide)
  have stops : ¬ ": ".toList ++ [c] <:+: body ++ [')'] := by
    rintro ⟨front, back, split⟩
    have goes_on := colons (' ' :: c :: back)
      ⟨front, by rw [← split, List.append_assoc]; rfl⟩
    exact other (List.cons_prefix_cons.mp (List.cons_prefix_cons.mp goes_on).2).1.symm
  have spoken : ": ".toList.any isInitial = false := by decide
  rw [Text.occurrences_split head List.getLast?_concat
      (fun member => List.any_eq_false.mp spoken first member initial) (by decide) stops,
    Text.occurrences_eq_zero_iff.mpr apart, Nat.zero_add]

/-- Nothing goes on from a quoted path. -/
theorem occurrences_quoted {path : Bytes}
    (apart : ¬ body ++ [')'] <:+: (Text.quoted path).toList) (rest : List Char) :
    occurrences (body ++ [')']) ((Text.quoted path).toList ++ rest)
      = occurrences (body ++ [')']) rest := by
  obtain ⟨first, head, initial⟩ := head_of_any words.head
  obtain ⟨inner, quoted⟩ : ∃ inner, (Text.quoted path).toList = inner ++ ['"'] :=
    ⟨_, String.toList_ofList⟩
  have without : '"' ∉ body ++ [')'] := by
    intro member
    rcases List.mem_append.mp member with inside | bracket
    · exact absurd (words.plain _ inside) (by decide)
    · exact absurd bracket (by decide)
  rw [quoted] at apart ⊢
  have stops : ¬ [] ++ ['"'] <:+: body ++ [')'] := fun inside =>
    without (inside.subset List.mem_cons_self)
  have nowhere : occurrences (body ++ [')']) inner = 0 :=
    Text.occurrences_eq_zero_iff.mpr fun inside =>
      apart (inside.trans (List.prefix_append _ _).isInfix)
  have split := Text.occurrences_split head List.getLast?_concat List.not_mem_nil List.not_mem_nil
    stops inner rest
  rw [List.nil_append, nowhere, Nat.zero_add] at split
  rw [List.append_assoc, List.singleton_append, split]
  exact occurrences_fixed words.head "\"" (by decide) rest

/-- **A cause tells the system error that it comes from once.** -/
theorem occurrences_cause {cause : Cause} {text : String} (system : cause.system? = some text)
    (same : text.toList = body ++ [')'])
    (apart : ∀ place ∈ cause.places, ¬ body ++ [')'] <:+: place.toList) (rest : List Char) :
    occurrences (body ++ [')']) (cause.text.toList ++ rest)
      = 1 + occurrences (body ++ [')']) rest := by
  induction cause generalizing rest with
  | numbered errno =>
    cases system
    rw [same]
    exact Text.occurrences_self (fun member => absurd (words.plain _ member) (by decide)) rest
  | told text => cases system
  | located cause path ih =>
    have apart' := List.forall_mem_cons.mp apart
    simp only [Cause.text, String.toList_append, List.append_assoc]
    rw [ih system apart'.2, occurrences_fixed words.head _ (by decide), occurrences_quoted words apart'.1]

/-- A cause begins as the system error that it comes from. -/
theorem cause_begins {cause : Cause} {text : String} (system : cause.system? = some text)
    (same : text.toList = body ++ [')']) :
    ∃ c rest, cause.text.toList = c :: rest ∧ c ≠ 'c' := by
  induction cause with
  | numbered errno =>
    cases system
    obtain ⟨first, head, initial⟩ := head_of_any words.head
    rw [same]
    cases whole : body ++ [')'] with
    | nil => simp at whole
    | cons c rest =>
      rw [whole] at head
      cases head
      refine ⟨first, rest, rfl, ?_⟩
      rintro rfl
      exact absurd initial (by decide)
  | told text => cases system
  | located cause path ih =>
    obtain ⟨c, rest, text, other⟩ := ih system
    refine ⟨c, rest ++ (" at path ".toList ++ (Text.quoted path).toList), ?_, other⟩
    simp only [Cause.text, String.toList_append, text, List.cons_append, List.append_assoc]

/-- What follows the message of a failure tells its cause once. -/
theorem occurrences_last {cause : Cause} {text : String} (system : cause.system? = some text)
    (same : text.toList = body ++ [')'])
    (apart : ∀ place ∈ cause.places, ¬ body ++ [')'] <:+: place.toList) :
    occurrences (body ++ [')']) (": ".toList ++ (cause.text.toList ++ "\n".toList)) = 1 := by
  rw [occurrences_fixed words.head _ (by decide), occurrences_cause words system same apart,
    occurrences_end words.head]

/-- A message that ends in a name is followed by one telling of the cause. -/
theorem occurrences_after {cause : Cause} {text named : String} (system : cause.system? = some text)
    (same : text.toList = body ++ [')'])
    (apart : ∀ place ∈ named :: cause.places, ¬ body ++ [')'] <:+: place.toList) :
    occurrences (body ++ [')']) (named.toList ++ (": ".toList ++ (cause.text.toList ++ "\n".toList)))
      = 1 := by
  obtain ⟨here, apart⟩ := List.forall_mem_cons.mp apart
  have last := occurrences_last words system same apart
  obtain ⟨c, rest, begins, other⟩ := cause_begins words system same
  rw [begins, List.cons_append] at last ⊢
  rw [occurrences_named words here other, ← last, occurrences_fixed words.head _ (by decide)]

/-- **The message of a failure and what follows it** tell the cause as often as that failure tells it. -/
theorem occurrences_failure {failure : BuildFailure} {text : String}
    (system : failure.system? = some text) (same : text.toList = body ++ [')'])
    (installed : ∀ errno, failure ≠ .signalSetup errno)
    (apart : ∀ name ∈ failure.named, ¬ body ++ [')'] <:+: name.toList) :
    occurrences (body ++ [')'])
      ((": ".intercalate (failure.message :: failure.causes)).toList ++ "\n".toList)
      = failure.tellings := by
  cases failure with
  | workspaceCreate cause =>
    show occurrences _ (("failed to create temporary workspace: " ++ cause.text ++ ": " ++
      cause.text).toList ++ "\n".toList) = 2
    simp only [String.toList_append, List.append_assoc]
    rw [occurrences_fixed words.head _ (by decide), occurrences_cause words system same apart,
      occurrences_last words system same apart]
  | inputRead path cause =>
    show occurrences _ (("failed to read source file " ++ Text.Utf8.lossy path ++ ": " ++
      cause.text).toList ++ "\n".toList) = 1
    simp only [String.toList_append, List.append_assoc]
    rw [occurrences_fixed words.head _ (by decide), occurrences_after words system same apart]
  | output path cause =>
    show occurrences _ (("failed to write output " ++ Text.Utf8.lossy path ++ ": " ++
      cause.text).toList ++ "\n".toList) = 1
    simp only [String.toList_append, List.append_assoc]
    rw [occurrences_fixed words.head _ (by decide), occurrences_after words system same apart]
  | spawn stage program cause =>
    show occurrences _ ((stage.name ++ " stage: failed to start " ++ Text.Utf8.lossy program ++ ": " ++
      cause.text).toList ++ "\n".toList) = 1
    simp only [String.toList_append, List.append_assoc]
    rw [occurrences_fixed words.head stage.name (by cases stage <;> decide),
      occurrences_fixed words.head _ (by decide), occurrences_after words system same apart]
  | wait stage program cause =>
    show occurrences _ ((stage.name ++ " stage: failed while waiting for " ++ Text.Utf8.lossy program ++
      ": " ++ cause.text).toList ++ "\n".toList) = 1
    simp only [String.toList_append, List.append_assoc]
    rw [occurrences_fixed words.head stage.name (by cases stage <;> decide),
      occurrences_fixed words.head _ (by decide), occurrences_after words system same apart]
  | signalSetup errno => exact absurd rfl (installed errno)
  | _ => cases system

end Pieces

/-- A text begins as its first piece does. -/
theorem begins_append {front back : String} {c : Char}
    (begins : ∃ rest, front.toList = c :: rest) : ∃ rest, (front ++ back).toList = c :: rest := by
  obtain ⟨rest, begins⟩ := begins
  exact ⟨rest ++ back.toList, by rw [String.toList_append, begins, List.cons_append]⟩

/-- No message of a failure with a cause begins with a `c`, and neither does what is told of it. -/
theorem failure_begins {failure : BuildFailure} {text : String}
    (system : failure.system? = some text) : ∃ c, c ≠ 'c' ∧
      ∃ rest, (": ".intercalate (failure.message :: failure.causes)).toList = c :: rest := by
  have message : ∃ c, c ≠ 'c' ∧ ∃ rest, failure.message.toList = c :: rest := by
    cases failure with
    | workspaceCreate | inputRead | output | signalSetup =>
      exact ⟨'f', by decide, begins_append ⟨_, rfl⟩⟩
    | spawn stage | wait stage =>
      have name : ∃ c, c ≠ 'c' ∧ ∃ rest, stage.name.toList = c :: rest := by
        cases stage <;> exact ⟨_, by decide, _, rfl⟩
      obtain ⟨c, other, begins⟩ := name
      exact ⟨c, other, begins_append (begins_append begins)⟩
    | _ => cases system
  obtain ⟨c, other, begins⟩ := message
  refine ⟨c, other, ?_⟩
  cases failure.causes with
  | nil => exact begins
  | cons cause causes =>
    rw [String.intercalate_cons_cons, String.append_assoc]
    exact begins_append begins

/-- A cause comes from a system error with a number. -/
theorem Cause.numbered_of_system {cause : Cause} {text : String} (system : cause.system? = some text) :
    ∃ errno, text = (Cause.numbered errno).text := by
  induction cause with
  | numbered errno => exact ⟨errno, (Option.some.inj system).symm⟩
  | told => cases system
  | located cause path ih => exact ih system

/-- So does a failure, unless it is about signal handlers. -/
theorem BuildFailure.numbered_of_system {failure : BuildFailure} {text : String}
    (system : failure.system? = some text) (installed : ∀ errno, failure ≠ .signalSetup errno) :
    ∃ errno, text = (Cause.numbered errno).text := by
  cases failure with
  | workspaceCreate | inputRead | spawn | wait | output => exact Cause.numbered_of_system system
  | signalSetup errno => exact absurd rfl (installed errno)
  | _ => cases system

/-- A text that occurs twice where it is written twice with a colon between. -/
def occursTwice (text : List Char) : Bool :=
  text.head?.any isInitial && occurrences text (text ++ (": ".toList ++ (text ++ "\n".toList))) == 2

theorem occursTwice_title (errno : Int) : occursTwice (errnoTitle errno).toList = true := by
  have rows : errnoTable.all (fun row => isSmall row.name && isSmall row.description &&
      occursTwice (bytewise row.name ++ ": ".toList ++ bytewise row.description)) = true := by
    decide +kernel
  unfold errnoTitle
  cases found : errnoRow? errno with
  | some row =>
    have checked := List.all_eq_true.mp rows row (List.mem_of_find?_eq_some found)
    simp only [Bool.and_eq_true] at checked
    simp only [String.toList_append]
    rw [← bytewise_eq checked.1.1, ← bytewise_eq checked.1.2]
    exact checked.2
  | none => decide +kernel

namespace CommandLine

/-- **Why signal handlers could not be installed is told twice.** -/
theorem signals_told (errno : Int) : occurrences (errnoTitle errno).toList
    (Complaint.failed (.signalSetup errno)).line.toList = 2 := by
  have twice := occursTwice_title errno
  simp only [occursTwice, Bool.and_eq_true, beq_iff_eq] at twice
  show occurrences _ ("error: " ++ ("failed to install signal handlers: " ++ errnoTitle errno ++ ": " ++
    errnoTitle errno) ++ "\n").toList = 2
  simp only [String.toList_append, List.append_assoc]
  rw [occurrences_fixed twice.1 _ (by decide), occurrences_fixed twice.1 _ (by decide), twice.2]

/-- A cause of a failure of the build is told as often as that failure tells it. -/
theorem build_told {path : Bytes} {failure : BuildFailure} (inside : failure.IsOfBuild)
    {text : String} (system : failure.system? = some text)
    (apart : ∀ name ∈ ("failed to build " ++ Text.Utf8.lossy path) :: failure.named,
      ¬ text.toList <:+: name.toList) :
    occurrences text.toList
      (Complaint.during ("failed to build " ++ Text.Utf8.lossy path) (.failed failure)).line.toList
        = failure.tellings := by
  have installed : ∀ errno, failure ≠ .signalSetup errno := by
    rintro errno rfl
    exact inside
  obtain ⟨errno, rfl⟩ := BuildFailure.numbered_of_system system installed
  obtain ⟨body, words, same⟩ := numbered_text errno
  rw [same] at apart ⊢
  obtain ⟨here, apart⟩ := List.forall_mem_cons.mp apart
  obtain ⟨c, other, rest, begins⟩ := failure_begins system
  have told := occurrences_failure words system same installed apart
  show occurrences _ ("error: " ++ ": ".intercalate (_ :: failure.message :: failure.causes) ++
    "\n").toList = _
  rw [String.intercalate_cons_cons, ← told, String.toList_append, String.toList_append,
    String.toList_append, String.toList_append, begins]
  simp only [List.append_assoc, List.cons_append]
  rw [occurrences_fixed words.head _ (by decide)]
  exact occurrences_named words here other _

/-- Why a source cannot be read is told once. -/
theorem source_told {path : Bytes} {cause : Cause} {text : String}
    (system : cause.system? = some text)
    (apart : ∀ name ∈ Text.Utf8.lossy path :: cause.places, ¬ text.toList <:+: name.toList) :
    occurrences text.toList (Complaint.failed (.inputRead path cause)).line.toList = 1 := by
  obtain ⟨errno, rfl⟩ := Cause.numbered_of_system system
  obtain ⟨body, words, same⟩ := numbered_text errno
  rw [same] at apart ⊢
  show occurrences _ ("error: " ++ ": ".intercalate _ ++ "\n").toList = _
  rw [String.append_assoc, String.toList_append, String.toList_append,
    occurrences_fixed words.head _ (by decide)]
  have told : (BuildFailure.inputRead path cause).system? = some _ := system
  exact occurrences_failure words told same nofun apart

/-- **How often the driver tells a cause.** The line that complains about a failure contains the text of
the system error that the failure comes from exactly once, if what the driver was doing, and the paths,
programs and commands that the failure names, do not contain it. Only where a workspace could not be
created and where signal handlers could not be installed does the line contain it twice: the message of
these failures has it already. -/
theorem causes_told {complaint : Complaint} (returned : Returned complaint) {failure : BuildFailure}
    (about : complaint.failure? = some failure) {text : String} (system : failure.system? = some text)
    (apart : ∀ name ∈ complaint.named, ¬ text.toList <:+: name.toList) :
    occurrences text.toList complaint.line.toList = failure.tellings := by
  cases returned with
  | signals errno =>
    cases about
    cases system
    exact signals_told errno
  | tools tool =>
    cases about
    cases system
  | source path cause =>
    cases about
    exact source_told system apart
  | build path inside =>
    cases about
    exact build_told inside system apart

/-- A name without brackets does not contain the text of a system error. -/
theorem apart_of_bracket (errno : Int) {name : String} (without : ')' ∉ name.toList) :
    ¬ (Cause.numbered errno).text.toList <:+: name.toList := by
  obtain ⟨body, _, same⟩ := numbered_text errno
  intro inside
  refine without (inside.subset ?_)
  rw [same]
  exact List.mem_append_right _ List.mem_cons_self

/-- An output in a directory that does not exist any more: why it could not be written is told once. -/
theorem causes_told_output :
    let failure := BuildFailure.output (Bytes.ofText "/o/x") (.numbered 2)
    let complaint := Complaint.during ("failed to build " ++ Text.Utf8.lossy (Bytes.ofText "/s"))
      (.failed failure)
    let text := (Cause.numbered 2).text
    Returned complaint ∧ complaint.failure? = some failure ∧ failure.system? = some text ∧
      (∀ name ∈ complaint.named, ¬ text.toList <:+: name.toList) ∧
      occurrences text.toList complaint.line.toList = 1 := by
  intro failure complaint text
  have returned : Returned complaint := .build _ trivial
  have apart : ∀ name ∈ complaint.named, ¬ text.toList <:+: name.toList := by
    simp only [complaint, failure, Complaint.named, BuildFailure.named, Cause.places,
      List.forall_mem_cons]
    exact ⟨apart_of_bracket 2 (by decide +kernel), apart_of_bracket 2 (by decide +kernel), nofun⟩
  exact ⟨returned, rfl, rfl, apart, causes_told returned rfl rfl apart⟩

/-- **A cause that is told twice**: with a directory for workspaces that does not exist, the driver
complains in a line that tells the same system error twice, and nothing that the complaint names
contains it. -/
theorem workspace_cause_doubled :
    let invocation := { benchInvocation with tempDir? := some (Bytes.ofText "/no") }
    let world := benchWorld ["calcc", "clang", "llc"] ["s", "r"]
    let text := (Cause.numbered 2).text
    ∃ complaint : Complaint,
      (∀ (programs : Programs Unit) (choices : List Choice), 4 ≤ choices.count (.job 0) →
        (run programs choices bench invocation world).ending = .failure complaint) ∧
      complaint.failure?.bind BuildFailure.system? = some text ∧
      (∀ name ∈ complaint.named, ¬ text.toList <:+: name.toList) ∧
      occurrences text.toList complaint.line.toList = 2 := by
  intro invocation world text
  let failure := BuildFailure.workspaceCreate (.located (.numbered 2) (Bytes.ofText "/no/calcca"))
  have apart : ∀ name ∈ building invocation :: failure.named, ¬ text.toList <:+: name.toList := by
    simp only [failure, BuildFailure.named, Cause.places, List.forall_mem_cons]
    exact ⟨apart_of_bracket 2 (by decide +kernel), apart_of_bracket 2 (by decide +kernel), nofun⟩
  have inside : failure.IsOfBuild := trivial
  refine ⟨.during (building invocation) (.failed failure), fun programs choices enough => ?_, rfl, apart,
    build_told inside rfl apart⟩
  have tools : ∀ tool, Resolves bench world.files invocation tool := resolves_bench
  have readable : ∀ cause, ¬ SourceFault bench world.files invocation cause := by
    rintro _ (fails | ⟨reads, broken⟩)
    · exact readable_bench _ (.unreadable fails)
    · exact readable_bench _ (.notText reads broken)
  obtain ⟨toolchain, request, prepared⟩ := prepare_ok tools readable
  have present : world.files.isFile [] (Bytes.ofText "/r") = true := by cbv
  have refused : (Workspace.create bench.setting (some (Bytes.ofText "/no")) world).2
      = .error failure := by cbv
  obtain ⟨_, ends | ⟨_, few⟩⟩ := unopened_run programs choices prepared (.inr ⟨present, refused⟩)
  · exact ends
  · omega

end CommandLine

end CalcBuild

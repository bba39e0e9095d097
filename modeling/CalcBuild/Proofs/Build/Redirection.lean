/-
**The plan as a flow of files.**

A command is put together step by step: arguments and inputs first, where every input is an argument
too, and the file to make last, after its flag. Redirection replaces the last argument without a look at
it. It is right because the file to make comes last, whatever the other arguments look like, and because
it leaves the command as one in which the file to make comes last.

The files of a plan go from one stage to the next: a stage needs what was given or what an earlier stage
made, and each file of the workspace is made once and needed once afterwards.

* `Command.blank`, `Command.withArgument`, `Command.withInput`, `Command.withOutput`: the steps;
* `plan_assembled`: the plan, put together by these steps;
* `Command.ListsInputs`, `Command.Directed`: what the steps keep, and what redirection keeps;
* `Fed`, `HandedOn`: where the files of a list of commands come from, and where they go;
* `plan_flows`: the main theorem.
-/

import CalcBuild.Build.Stage
import CalcBuild.Proofs.Files.Ending

namespace CalcBuild

open Files

namespace Command

/-! ### Putting a command together -/

/-- The command of a stage without arguments. -/
def blank (toolchain : Toolchain) (stage : Stage) : Command where
  stage := stage
  program := toolchain.path stage.tool
  arguments := []
  inputs := []
  output := []

/-- One more argument. -/
def withArgument (command : Command) (argument : Bytes) : Command :=
  { command with arguments := command.arguments ++ [argument] }

/-- One more input, which is an argument too. -/
def withInput (command : Command) (path : Bytes) : Command :=
  { command with inputs := command.inputs ++ [path] }.withArgument path

/-- The file to make, with its flag before it. -/
def withOutput (command : Command) (path : Bytes) : Command :=
  ({ command with output := path }.withArgument outputFlag).withArgument path

/-- The inputs are among the arguments, in the same order. -/
def ListsInputs (command : Command) : Prop := command.inputs.Sublist command.arguments

/-- The arguments are some arguments among which the inputs are, in the same order, then the flag, and
then the file to make. -/
structure Directed (command : Command) (front : List Bytes) : Prop where
  arguments : command.arguments = front ++ [outputFlag, command.output]
  inputs : command.inputs.Sublist front

namespace ListsInputs

variable {command : Command}

theorem blank (toolchain : Toolchain) (stage : Stage) : (blank toolchain stage).ListsInputs :=
  List.Sublist.refl []

theorem withArgument (lists : command.ListsInputs) (argument : Bytes) :
    (command.withArgument argument).ListsInputs :=
  List.Sublist.trans lists (List.sublist_append_left _ _)

theorem withInput (lists : command.ListsInputs) (path : Bytes) :
    (command.withInput path).ListsInputs :=
  List.Sublist.append lists (List.Sublist.refl [path])

/-- **A command that is given its output last** is directed. -/
theorem withOutput (lists : command.ListsInputs) (path : Bytes) :
    (command.withOutput path).Directed command.arguments where
  arguments := List.append_assoc _ _ _
  inputs := lists

end ListsInputs

/-! ### Redirection -/

variable {command : Command} {front : List Bytes}

/-- **Redirection keeps a command directed**, with the same arguments before the flag. -/
theorem Directed.redirect (directed : command.Directed front) (output : Bytes) :
    (command.redirect output).Directed front where
  arguments := by
    have nonempty : command.arguments ≠ [] := by simp [directed.arguments]
    have last : front ++ [outputFlag, command.output] = (front ++ [outputFlag]) ++ [command.output] := by
      simp
    show (if command.arguments = [] then [] else command.arguments.dropLast ++ [output]) = _
    rw [if_neg nonempty, directed.arguments, last, List.dropLast_concat, List.append_assoc]
    rfl
  inputs := directed.inputs

theorem Directed.redirects (directed : command.Directed front) (outputs : List Bytes) :
    (outputs.foldl Command.redirect command).Directed front := by
  induction outputs generalizing command with
  | nil => exact directed
  | cons output outputs ih => exact ih (directed.redirect output)

/-- Only the last one of two redirections counts. -/
theorem redirect_redirect (command : Command) (first second : Bytes) :
    (command.redirect first).redirect second = command.redirect second := by
  unfold redirect
  split <;> simp_all

/-- **Only the last redirection counts.** -/
theorem foldl_redirect (command : Command) (outputs : List Bytes) :
    outputs.foldl redirect command = (outputs.getLast?.map command.redirect).getD command := by
  induction outputs generalizing command with
  | nil => rfl
  | cons output outputs ih =>
    rw [List.foldl_cons, ih, List.getLast?_cons]
    cases outputs.getLast? with
    | none => rfl
    | some last => exact redirect_redirect command output last

end Command

/-! ### Files that are handed on -/

/-- Each input of a command is the file that was given, or the output of an earlier command. -/
def Fed (given : Bytes) (commands : List Command) : Prop :=
  ∀ before command later, commands = before ++ command :: later → ∀ input ∈ command.inputs,
    input = given ∨ ∃ earlier ∈ before, earlier.output = input

/-- One command makes an artifact, and of the later ones exactly one needs it. No other command makes
it, unless it is where the linker is told to write. -/
def HandedOn (commands : List Command) (output artifact : Bytes) : Prop :=
  ∃ before maker between user after, commands = before ++ maker :: between ++ user :: after ∧
    maker.output = artifact ∧ artifact ∈ user.inputs ∧
    (∀ other ∈ between ++ after, artifact ∉ other.inputs) ∧
    ∀ other ∈ before ++ between ++ user :: after, other.output = artifact →
      other.stage = .link ∧ output = artifact

section Plan

variable (toolchain : Toolchain) (workspace : Workspace) (runtimeSource sourceText output : Bytes)

/-- **The plan is put together step by step.** -/
theorem plan_assembled : plan toolchain workspace runtimeSource sourceText output =
    [ ((((Command.blank toolchain .runtimeCompile).withArgument (Bytes.ofText "-w")).withArgument
        (Bytes.ofText "-c")).withInput runtimeSource).withOutput workspace.runtimeObject,
      ((Command.blank toolchain .frontendCompile).withArgument sourceText).withOutput workspace.exprIr,
      (((Command.blank toolchain .lower).withArgument (Bytes.ofText "--filetype=obj")).withInput
        workspace.exprIr).withOutput workspace.exprObject,
      (((((Command.blank toolchain .link).withInput workspace.exprObject).withInput
        workspace.runtimeObject).withArgument (Bytes.ofText "-lc")).withArgument
        (Bytes.ofText "-lm")).withOutput output ] := rfl

theorem plan_directed : ∀ command ∈ plan toolchain workspace runtimeSource sourceText output,
    ∃ front, command.Directed front := by
  have blank := Command.ListsInputs.blank toolchain
  rw [plan_assembled]
  simp only [List.forall_mem_cons, List.not_mem_nil, false_imp_iff, implies_true, and_true]
  exact ⟨⟨_, ((((blank _).withArgument _).withArgument _).withInput _).withOutput _⟩,
    ⟨_, ((blank _).withArgument _).withOutput _⟩,
    ⟨_, (((blank _).withArgument _).withInput _).withOutput _⟩,
    ⟨_, (((((blank _).withInput _).withInput _).withArgument _).withArgument _).withOutput _⟩⟩

theorem plan_fed : Fed runtimeSource (plan toolchain workspace runtimeSource sourceText output) := by
  intro before command later split input needed
  unfold plan at split
  match before with
  | [] =>
    obtain ⟨rfl, _⟩ := List.cons.inj split
    exact .inl (List.mem_singleton.mp needed)
  | [_] =>
    simp only [List.cons_append, List.nil_append, List.cons.injEq] at split
    obtain ⟨_, rfl, _⟩ := split
    cases needed
  | [_, _] =>
    simp only [List.cons_append, List.nil_append, List.cons.injEq] at split
    obtain ⟨_, rfl, rfl, _⟩ := split
    exact .inr ⟨_, List.mem_cons_of_mem _ List.mem_cons_self, (List.mem_singleton.mp needed).symm⟩
  | [_, _, _] =>
    simp only [List.cons_append, List.nil_append, List.cons.injEq] at split
    obtain ⟨rfl, _, rfl, rfl, _⟩ := split
    rcases List.mem_cons.mp needed with same | last
    · exact .inr ⟨_, List.mem_cons_of_mem _ (List.mem_cons_of_mem _ List.mem_cons_self), same.symm⟩
    · exact .inr ⟨_, List.mem_cons_self, (List.mem_singleton.mp last).symm⟩
  | _ :: _ :: _ :: _ :: rest => simp at split

/-- The files of a workspace have different paths. -/
theorem artifacts_differ : workspace.runtimeObject ≠ workspace.exprIr ∧
    workspace.runtimeObject ≠ workspace.exprObject ∧ workspace.exprIr ≠ workspace.exprObject := by
  have runtime : Path.IsLeaf (Bytes.ofText "runtime.o") := ⟨by decide, by decide⟩
  have text : Path.IsLeaf (Bytes.ofText "expr.ll") := ⟨by decide, by decide⟩
  have object : Path.IsLeaf (Bytes.ofText "expr.o") := ⟨by decide, by decide⟩
  exact ⟨fun same => absurd (Path.leaf_of_join runtime text same) (by decide),
    fun same => absurd (Path.leaf_of_join runtime object same) (by decide),
    fun same => absurd (Path.leaf_of_join text object same) (by decide)⟩

/-- **Each file of the workspace is made by one stage and needed by exactly one later stage.** -/
theorem plan_handedOn : ∀ artifact ∈ [workspace.runtimeObject, workspace.exprIr, workspace.exprObject],
    HandedOn (plan toolchain workspace runtimeSource sourceText output) output artifact := by
  obtain ⟨runtime_ir, runtime_object, ir_object⟩ := artifacts_differ workspace
  simp only [List.forall_mem_cons, List.not_mem_nil, false_imp_iff, implies_true, and_true]
  refine ⟨⟨[], _, [_, _], _, [], rfl, rfl, ?_⟩, ⟨[_], _, [], _, [_], rfl, rfl, ?_⟩,
    ⟨[_, _], _, [], _, [], rfl, rfl, ?_⟩⟩
  · simp [Command.making, runtime_ir, runtime_ir.symm, runtime_object.symm]
  · simp [Command.making, runtime_ir, runtime_ir.symm, ir_object, ir_object.symm]
  · simp [Command.making, runtime_object, ir_object]

/-- **The plan is a flow of files, and stays one under redirection.** -/
theorem plan_flows :
    let commands := plan toolchain workspace runtimeSource sourceText output
    commands.map Command.stage = Stage.order ∧
    (∀ command ∈ commands, ∃ front, ∀ outputs : List Bytes,
      let redirected := outputs.foldl Command.redirect command
      redirected.Directed front ∧ redirected.stage = command.stage ∧
        redirected.program = command.program ∧ redirected.inputs = command.inputs ∧
        redirected.output = outputs.getLast?.getD command.output ∧
        redirected = (outputs.getLast?.map command.redirect).getD command) ∧
    (∀ other, ∃ link, commands.find? (·.stage = .link) = some link ∧
      (plan toolchain workspace runtimeSource sourceText other).find? (·.stage = .link)
        = some (link.redirect other)) ∧
    Fed runtimeSource commands ∧
    ∀ artifact ∈ [workspace.runtimeObject, workspace.exprIr, workspace.exprObject],
      HandedOn commands output artifact := by
  refine ⟨rfl, fun command listed => ?_, fun other => ⟨_, rfl, rfl⟩,
    plan_fed toolchain workspace runtimeSource sourceText output,
    plan_handedOn toolchain workspace runtimeSource sourceText output⟩
  obtain ⟨front, directed⟩ := plan_directed toolchain workspace runtimeSource sourceText output command
    listed
  refine ⟨front, fun outputs => ⟨directed.redirects outputs, ?_⟩⟩
  rw [Command.foldl_redirect]
  cases outputs.getLast? <;> exact ⟨rfl, rfl, rfl, rfl, rfl⟩

end Plan

end CalcBuild

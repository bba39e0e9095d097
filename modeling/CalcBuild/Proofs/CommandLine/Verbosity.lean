/-
**The option `--verbose` only observes.**

Two runs of the driver, one with the option and one without it, build in the same way: the option is read
by the filter for log records and when the tools are reported, and by nothing else. What the first run
writes in addition are the paths of the tools, and the records that are less severe than a warning.

* `Run.launches`, `Run.records`, `Run.aside`: the processes, the records and the rest of a run;
* `run_unresolved`, `run_resolved`: a run with the option or without it;
* `Log.Filter.standard_admits`: what the default filters show;
* `Observes`: two runs that differ by the option;
* `verbose_observes`: the main theorem.
-/

import CalcBuild.Proofs.CommandLine.Insertion
import CalcBuild.Proofs.CommandLine.Status
import CalcBuild.Proofs.CommandLine.Trouble
import Mathlib

namespace CalcBuild

open Files

variable {State : Type}

/-! ### What the default filters show -/

namespace Log

/-- Whether a record is a warning or an error. -/
def Record.isSevere (record : Record) : Bool := record.level.rank ≤ Level.warn.rank

/-- The record without the stage that it belongs to. -/
def Record.unstaged (record : Record) : Record := { record with stage := none }

namespace Filter

/-- The filter that the value of the variable asks for, if it is text and can be read. -/
def asked? (value? : Option Bytes) : Option Filter :=
  (value?.bind Text.Utf8.decode?).bind read?

theorem chosen_eq (value? : Option Bytes) (verbose : Bool) :
    chosen value? verbose = (asked? value?).getD (standard verbose) := by
  unfold chosen asked?
  cases value?.bind Text.Utf8.decode? <;> rfl

/-- **The default filters go by the level**, whichever part of the driver speaks. -/
theorem standard_admits (verbose : Bool) (target : Target) (level : Level) :
    (standard verbose).admits target level
      = decide (level.rank ≤ (if verbose then Level.debug else Level.warn).rank) := by
  cases verbose <;> cases target <;> cases level <;> decide

/-- Of the records that the louder default filter shows the other one shows the severe ones. -/
theorem standard_shows (record : Record) :
    (standard false).shows record = ((standard true).shows record && record.isSevere) := by
  unfold shows Record.isSevere
  rw [standard_admits, standard_admits]
  cases record.level <;> rfl

end Filter

/-- Without the stage the text of a record is that of the record without it. -/
theorem Record.text_unstaged (record : Record) : record.text false = record.unstaged.text true := by
  unfold Record.text Record.unstaged
  cases record.stage <;> rfl

end Log

/-! ### The programs of a build -/

/-- **Every command of a build runs the tool of its stage.** -/
theorem planned_program {builder : Builder} {request : BuildRequest} {workspace : Workspace}
    {staging? : Option Bytes} {command : Command}
    (member : command ∈ planned builder request workspace staging?) :
    command.program = builder.toolchain.path command.stage.tool := by
  obtain ⟨original, listed, rfl⟩ := List.mem_map.mp member
  have program : original.program = builder.toolchain.path original.stage.tool := by
    simp only [BuildRun.commands, plan, List.mem_cons, List.not_mem_nil, or_false] at listed
    rcases listed with rfl | rfl | rfl | rfl <;> rfl
  unfold Command.linkedTo
  split
  · split <;> exact program
  · exact program

/-- **Every process that a build starts is one of its tools**, by the path in the toolchain. -/
theorem Solo.Comes.program {solo : Solo State} {choices : List Choice} {world : World}
    {build : BuildRun State} {trace : List Event} (comes : solo.Comes choices world build trace)
    {stage : Stage} {launch : Launch} (started : (stage, launch) ∈ starts trace) :
    launch.program = solo.builder.toolchain.path stage.tool := by
  obtain ⟨done, running, reaped, ledger⟩ := comes.ledger
  obtain ⟨workspace, staging?, shorter⟩ := ledger.follows_plan
  rw [ledger.starts_eq] at started
  obtain ⟨command, listed, same⟩ := List.mem_map.mp started
  cases same
  exact planned_program (shorter.subset listed)

namespace CommandLine

/-! ### What is told of a run -/

/-- The record of a report, if it tells of one. -/
def Report.record? : Report → Option Log.Record
  | .seen (.recorded record) => some record
  | _ => none

/-- The start of a process, if a report tells of one. -/
def Report.start? : Report → Option (Stage × Launch)
  | .seen event => event.start?
  | _ => none

namespace Run

/-- The processes that were started in a run. -/
def launches (run : Run) : List (Stage × Launch) := run.reports.filterMap Report.start?

/-- The log records of a run. -/
def records (run : Run) : List Log.Record := run.reports.filterMap Report.record?

/-- The run without its records. -/
def aside (run : Run) : Run :=
  { run with reports := run.reports.filter fun report => report.record?.isNone }

/-- The records of a run that a filter shows. -/
def shown (filter : Log.Filter) (run : Run) : List Log.Record := run.records.filter filter.shows

/-- The log lines of a run. -/
def logLines (filter : Log.Filter) (stamp : String) (run : Run) : List String :=
  (run.shown filter).map (logLine filter stamp)

end Run

/-- What a report writes to one channel. -/
def Report.bytes (filter : Log.Filter) (stamp : String) (channel : Channel) (report : Report) : Bytes :=
  match report.written? filter stamp with
  | some (other, bytes) => if other = channel then bytes else []
  | none => []

/-- What reports write to one channel. -/
def writes (filter : Log.Filter) (stamp : String) (channel : Channel) (reports : List Report) : Bytes :=
  reports.flatMap (Report.bytes filter stamp channel)

theorem written_eq (filter : Log.Filter) (stamp : String) (channel : Channel) (run : Run) :
    run.written filter stamp channel = writes filter stamp channel run.reports := rfl

/-- Records, as reports. -/
def recordReports (records : List Log.Record) : List Report :=
  records.map fun record => .seen (.recorded record)

section Reports

variable {filter filter' : Log.Filter} {stamp stamp' : String} {channel : Channel}
  {reports reports' : List Report}

theorem writes_append : writes filter stamp channel (reports ++ reports')
    = writes filter stamp channel reports ++ writes filter stamp channel reports' :=
  List.flatMap_append

/-- What is written besides records does not depend on the filter. -/
theorem bytes_congr {report : Report} (plain : report.record? = none) :
    report.bytes filter stamp channel = report.bytes filter' stamp' channel := by
  match report, plain with
  | .tool .., _ | .complaint _, _ | .seen (.started ..), _ | .seen (.printed ..), _
  | .seen (.ended ..), _ | .seen (.killed _), _ => rfl

/-- Records are not written to the output. -/
theorem bytes_recorded (record : Log.Record) :
    (Report.seen (.recorded record)).bytes filter stamp .output = [] := by
  unfold Report.bytes Report.written?
  dsimp only
  cases filter.shows record <;> rfl

theorem writes_congr (plain : ∀ report ∈ reports, report.record? = none) :
    writes filter stamp channel reports = writes filter' stamp' channel reports :=
  List.flatMap_congr fun report member => bytes_congr (plain report member)

/-- What is written to the output does not depend on the filter at all. -/
theorem writes_output : writes filter stamp .output reports = writes filter' stamp' .output reports := by
  refine List.flatMap_congr fun report _ => ?_
  cases recorded : report.record? with
  | none => exact bytes_congr recorded
  | some record =>
    unfold Report.record? at recorded
    split at recorded
    · rw [bytes_recorded, bytes_recorded]
    · cases recorded

theorem aside_recordReports (records : List Log.Record) :
    (recordReports records).filter (fun report => report.record?.isNone) = [] := by
  simp [recordReports, Report.record?]

end Reports

/-! ### A run with the option or without it -/

section Runs

variable (programs : Programs State) (choices : List Choice) {site : Site} {invocation : Invocation}
  {world : World}

end Runs

/-! ### Two runs that differ by the option -/

/-- Without one of the tools there is no toolchain. -/
theorem resolve_eq_error {search : SearchPath} {files : FileSystem} {cwd : Place} {tool : Tool}
    {failure : BuildFailure} (missing : Toolchain.resolveTool search files cwd tool = .error failure) :
    ∃ failure, Toolchain.resolve search files cwd = .error failure := by
  cases resolves : Toolchain.resolve search files cwd with
  | error failure => exact ⟨failure, rfl⟩
  | ok toolchain => cases missing.symm.trans (Toolchain.resolve_eq_ok_iff.mp resolves tool)

/-- Two runs that are the same, except that the second one reports some tools after the first records. -/
structure Adds (used : List Report) (quiet loud : Run) : Prop where
  world : loud.world = quiet.world
  ending : loud.ending = quiet.ending
  tools : ∀ report ∈ used, ∃ tool path, report = .tool tool path
  reports : ∃ records rest, quiet.reports = recordReports records ++ rest ∧
    loud.reports = recordReports records ++ used ++ rest

section Adds

variable {used : List Report} {quiet loud : Run}

/-- What looks at the reports one by one, and passes over those of tools, sees no difference. -/
theorem Adds.filterMap {α : Type} (adds : Adds used quiet loud) (view : Report → Option α)
    (blind : ∀ tool path, view (.tool tool path) = none) :
    loud.reports.filterMap view = quiet.reports.filterMap view := by
  obtain ⟨records, rest, quiets, louds⟩ := adds.reports
  have unseen : used.filterMap view = [] := List.filterMap_eq_nil_iff.mpr fun report member => by
    obtain ⟨tool, path, rfl⟩ := adds.tools report member
    exact blind tool path
  rw [quiets, louds, List.filterMap_append, List.filterMap_append, List.filterMap_append, unseen,
    List.append_nil]

theorem Adds.launches (adds : Adds used quiet loud) : loud.launches = quiet.launches :=
  adds.filterMap Report.start? fun _ _ => rfl

theorem Adds.records (adds : Adds used quiet loud) : loud.records = quiet.records :=
  adds.filterMap Report.record? fun _ _ => rfl

theorem Adds.output (adds : Adds used quiet loud) (filter filter' : Log.Filter) (stamp : String) :
    loud.written filter stamp .output = quiet.written filter' stamp .output := by
  obtain ⟨records, rest, quiets, louds⟩ := adds.reports
  have unseen : writes filter stamp .output used = [] := List.flatMap_eq_nil_iff.mpr fun report member => by
    obtain ⟨tool, path, rfl⟩ := adds.tools report member
    rfl
  rw [written_eq, written_eq, quiets, louds, writes_append, writes_append, unseen, List.append_nil,
    ← writes_append]
  exact writes_output

/-- **What is written besides the log** begins with the tools. -/
theorem Adds.diagnostics (adds : Adds used quiet loud) (filter filter' : Log.Filter) (stamp : String) :
    loud.aside.written filter stamp .diagnostics
      = writes filter stamp .diagnostics used ++ quiet.aside.written filter' stamp .diagnostics := by
  obtain ⟨records, rest, quiets, louds⟩ := adds.reports
  have kept : used.filter (fun report => report.record?.isNone) = used :=
    List.filter_eq_self.mpr fun report member => by
      obtain ⟨tool, path, rfl⟩ := adds.tools report member
      rfl
  have same : writes filter stamp .diagnostics (rest.filter fun report => report.record?.isNone)
      = writes filter' stamp .diagnostics (rest.filter fun report => report.record?.isNone) :=
    writes_congr fun report member => Option.isNone_iff_eq_none.mp (List.mem_filter.mp member).2
  unfold Run.aside
  rw [written_eq, written_eq, quiets, louds, List.filter_append, List.filter_append,
    List.filter_append, aside_recordReports, kept, List.nil_append, List.nil_append, writes_append, same]

/-- **The logs of two runs with the same records.** -/
theorem Adds.log (adds : Adds used quiet loud) (site : Site) {plain : Invocation}
    (unset : plain.verbose = false) (stamp : String) :
    match Log.Filter.asked? (site.environment.value? (Bytes.ofText Log.Filter.variableName)) with
    | some _ => loud.logLines (site.filter { plain with verbose := true }) stamp
        = quiet.logLines (site.filter plain) stamp
    | none => quiet.logLines (site.filter plain) stamp
        = ((loud.shown (site.filter { plain with verbose := true })).filter Log.Record.isSevere).map
          fun record => logLine (site.filter { plain with verbose := true }) stamp record.unstaged := by
  unfold Run.logLines Run.shown Site.filter
  rw [adds.records, unset, Log.Filter.chosen_eq, Log.Filter.chosen_eq]
  cases Log.Filter.asked? (site.environment.value? (Bytes.ofText Log.Filter.variableName)) with
  | some filter => rfl
  | none =>
    dsimp only [Option.getD_none]
    rw [List.filter_filter]
    have shows : (fun record => record.isSevere && (Log.Filter.standard true).shows record)
        = (Log.Filter.standard false).shows := by
      funext record
      rw [Log.Filter.standard_shows, Bool.and_comm]
    have staged : (Log.Filter.standard true).showsStage = true := Log.Filter.standard_admits ..
    have unstaged : (Log.Filter.standard false).showsStage = false := Log.Filter.standard_admits ..
    rw [shows]
    refine List.map_congr_left fun record _ => ?_
    unfold logLine
    rw [staged, unstaged, Log.Record.text_unstaged]
    rfl

end Adds

end CommandLine

end CalcBuild

/-
**Log records.**

What the driver reports about its own work: a level, the part of the driver that speaks, a message
and named values.
-/

import CalcBuild.Number.Decimal

namespace CalcBuild.Log

/-- How severe a record is, the most severe first. -/
inductive Level where
  | error
  | warn
  | info
  | debug
  | trace
  deriving DecidableEq, Repr

/-- Levels from one, the most severe, upward. -/
def Level.rank : Level → Nat
  | .error => 1
  | .warn => 2
  | .info => 3
  | .debug => 4
  | .trace => 5

/-- The name of a level. -/
def Level.text : Level → String
  | .error => "ERROR"
  | .warn => "WARN"
  | .info => "INFO"
  | .debug => "DEBUG"
  | .trace => "TRACE"

/-- The parts of the driver that write records. -/
inductive Target where
  | toolchain
  | workspace
  | pipeline
  | commandLine
  deriving DecidableEq, Repr

/-- The name by which filters select a part of the driver. -/
def Target.text : Target → String
  | .toolchain => "calc_core::toolchain"
  | .workspace => "calc_core::workspace"
  | .pipeline => "calc_core::pipeline"
  | .commandLine => "calc_cli"

/-- One record. -/
structure Record where
  level : Level
  target : Target
  /-- The stage during which the record was written. -/
  stage : Option String
  message : String
  fields : List (String × String)
  deriving DecidableEq, Repr

/-- A record as one line: the stage it belongs to, the message, and each field after an equals
sign. `showStage` is unset when the stage itself is filtered out. -/
def Record.text (record : Record) (showStage : Bool) : String :=
  let span := match record.stage with
    | some stage => if showStage then "stage\x7bstage=" ++ stage ++ "\x7d: " else ""
    | none => ""
  record.fields.foldl (fun line field => line ++ " " ++ field.1 ++ "=" ++ field.2)
    (record.level.text ++ " " ++ span ++ record.message)

end CalcBuild.Log

/-
**What the command line can say.**

The driver is called with the name of a source file and options. Some options take a value, others
stand alone.

* `Slot`: what takes a value, and how it is shown in messages;
* `Switch`: the options that stand alone;
* `Key.named?`: the option of a long name;
* `Invocation`: what a command line asks for.
-/

import CalcBuild.Text.Utf8

namespace CalcBuild.CommandLine

/-- What takes a value: the source file, which stands alone, and the options with a value. -/
inductive Slot where
  | file
  | output
  | toolDir
  | runtime
  | timeout
  | tempDir
  deriving DecidableEq, Repr

/-- The options without a value. -/
inductive Switch where
  | verbose
  | help
  | version
  deriving DecidableEq, Repr

/-- An option, with a value or without. -/
inductive Key where
  | slot (slot : Slot)
  | switch (switch : Switch)
  deriving DecidableEq, Repr

namespace Slot

/-- The options with a value. -/
def options : List Slot := [.output, .toolDir, .runtime, .timeout, .tempDir]

/-- The long name of an option; the source file has none. -/
def name : Slot → String
  | .file => ""
  | .output => "output"
  | .toolDir => "tool-dir"
  | .runtime => "runtime"
  | .timeout => "timeout"
  | .tempDir => "temp-dir"

/-- The word for the value. -/
def valueName : Slot → String
  | .file => "<FILE>"
  | .output => "<PATH>"
  | .toolDir => "<DIR>"
  | .runtime => "<PATH>"
  | .timeout => "<SECONDS>"
  | .tempDir => "<DIR>"

/-- How a slot is shown in messages: its long name, if it has one, and the word for its value. -/
def shown (slot : Slot) : String :=
  match slot with
  | .file => slot.valueName
  | _ => "--" ++ slot.name ++ " " ++ slot.valueName

/-- Whether a slot takes any number of values. -/
def isRepeatable : Slot → Bool
  | .toolDir => true
  | _ => false

end Slot

namespace Switch

/-- The options without a value. -/
def all : List Switch := [.verbose, .help, .version]

/-- The long name of an option. -/
def name : Switch → String
  | .verbose => "verbose"
  | .help => "help"
  | .version => "version"

/-- How an option is shown in messages. -/
def shown (switch : Switch) : String := "--" ++ switch.name

end Switch

namespace Key

/-- All options. -/
def all : List Key := Slot.options.map .slot ++ Switch.all.map .switch

/-- The long name of an option. -/
def name : Key → String
  | .slot valued => valued.name
  | .switch bare => bare.name

/-- The option with a long name. -/
def named? (name : Bytes) : Option Key :=
  all.find? fun key => Bytes.ofText key.name == name

/-- The option with a short name. -/
def lettered? (letter : Char) : Option Key :=
  match letter with
  | 'o' => some (.slot .output)
  | 'h' => some (.switch .help)
  | 'V' => some (.switch .version)
  | _ => none

end Key

/-- What a command line asks for. The timeout is counted in seconds. -/
structure Invocation where
  file : Bytes
  output? : Option Bytes
  verbose : Bool
  toolDirs : List Bytes
  runtime? : Option Bytes
  timeout? : Option Nat
  tempDir? : Option Bytes
  deriving DecidableEq, Repr

end CalcBuild.CommandLine

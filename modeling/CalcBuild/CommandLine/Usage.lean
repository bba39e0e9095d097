/-
**Help, version and usage faults.**

A command line that does not lead to a build ends with one of these texts.

* `UsageFault.message`, `UsageFault.advice`: the wording of each fault;
* `Stop`: why no build is started;
* `Stop.text`, `Stop.code`: what is written, and the exit status.
-/

import CalcBuild.CommandLine.Invocation
import CalcBuild.Number.Decimal
import CalcBuild.Number.Reading
import CalcBuild.Process.Programs
import CalcBuild.Text.Plain

namespace CalcBuild.CommandLine

/-- What is wrong with a timeout. -/
inductive TimeoutFault where
  | numeral (fault : Number.NumeralFault)
  | outOfRange (value : Nat)
  deriving DecidableEq, Repr

/-- What is wrong with a command line. -/
inductive UsageFault where
  | unexpected (argument : String)
  | unknownOption (option : String)
  | unexpectedValue (value : String) (switch : Switch)
  | missingValue (slot : Slot)
  | repeatedSlot (slot : Slot)
  | repeatedSwitch (switch : Switch)
  | badTimeout (text : String) (fault : TimeoutFault)
  | notText
  | missingFile
  deriving DecidableEq, Repr

/-- The largest timeout, in seconds. -/
def longestTimeout : Nat := UInt64.size - 1

/-- The wording of a fault in a timeout. -/
def TimeoutFault.message : TimeoutFault → String
  | .numeral fault => fault.message
  | .outOfRange value =>
    Number.numeral value ++ " is not in 1.." ++ Number.numeral longestTimeout

namespace UsageFault

/-- The wording of a fault in a command line. What was given is shown without control characters. -/
def message : UsageFault → String
  | .unexpected argument => "unexpected argument '" ++ Text.plain argument ++ "' found"
  | .unknownOption option => "unexpected argument '" ++ Text.plain option ++ "' found"
  | .unexpectedValue value switch =>
    "unexpected value '" ++ Text.plain value ++ "' for '" ++ switch.shown ++
      "' found; no more were expected"
  | .missingValue slot =>
    "a value is required for '" ++ slot.shown ++ "' but none was supplied"
  | .repeatedSlot slot => "the argument '" ++ slot.shown ++ "' cannot be used multiple times"
  | .repeatedSwitch switch =>
    "the argument '" ++ switch.shown ++ "' cannot be used multiple times"
  | .badTimeout text fault =>
    "invalid value '" ++ Text.plain text ++ "' for '" ++ Slot.timeout.shown ++ "': " ++
      fault.message
  | .notText => "invalid UTF-8 was detected in one or more arguments"
  | .missingFile => "the following required arguments were not provided:"

/-- What is told after the wording. -/
def advice : UsageFault → String
  | .unknownOption option =>
    let shown := Text.plain option
    "\n  tip: to pass '" ++ shown ++ "' as a value, use '-- " ++ shown ++ "'\n"
  | .missingFile => "  " ++ Slot.file.valueName ++ "\n"
  | _ => ""

/-- Whether the usage is told: it is if the arguments do not fit together, and is not if a value of
an option is at fault. -/
def tellsUsage : UsageFault → Bool
  | .missingValue _ => false
  | .badTimeout .. => false
  | _ => true

end UsageFault

/-- Why a command line does not lead to a build. -/
inductive Stop where
  | help
  | version
  | fault (fault : UsageFault)
  deriving DecidableEq, Repr

/-- The name of the driver when it is not known under which name it was called. -/
def driverName : String := "calc-cli"

/-- The version of the driver. -/
def versionText : String := "0.1.0"

/-- The line that shows how the driver is called. Its name is shown without control characters. -/
def usageLine (program : String) : String :=
  "Usage: " ++ Text.plain program ++ " [OPTIONS] " ++ Slot.file.valueName ++ "\n"

/-- The description of the options. -/
def optionLines : List (String × String) :=
  [("-o, --output <PATH>", "Path of the produced executable (defaults to a.out)"),
    ("    --verbose", "Print the resolved toolchain paths"),
    ("    --tool-dir <DIR>",
      "Directory searched for calcc, clang and llc before the defaults (repeatable)"),
    ("    --runtime <PATH>",
      "Runtime C source linked into every executable (defaults to the bundled runtime)"),
    ("    --timeout <SECONDS>", "Kill a stage that runs longer than this"),
    ("    --temp-dir <DIR>",
      "Directory the build workspace is created in (defaults to the system temp dir)"),
    ("-h, --help", "Print help"),
    ("-V, --version", "Print version")]

/-- The column at which the descriptions begin: two behind the longest option. -/
def helpColumn : Nat :=
  (optionLines.map fun line => line.1.length).foldl max 0 + 2

/-- One line of the list of options: what it is called, and what it does. -/
def helpLine (called does : String) : String :=
  let gap := List.replicate (helpColumn - called.length) ' '
  "  " ++ called ++ String.ofList gap ++ does ++ "\n"

/-- The description of the driver, its arguments and its options. -/
def helpText (program : String) : String :=
  "Compile a calc source file into a native executable\n\n" ++ usageLine program ++
    "\nArguments:\n  <FILE>  Source file to compile\n\nOptions:\n" ++
    String.join (optionLines.map fun line => helpLine line.1 line.2)

namespace Stop

/-- What is written. -/
def text (program : String) : Stop → String
  | .help => helpText program
  | .version => driverName ++ " " ++ versionText ++ "\n"
  | .fault why =>
    "error: " ++ why.message ++ "\n" ++ why.advice ++ "\n" ++
      (if why.tellsUsage then usageLine program ++ "\n" else "") ++
      "For more information, try '--help'.\n"

/-- Where it is written. -/
def channel : Stop → Channel
  | .fault _ => .diagnostics
  | _ => .output

/-- The exit status. -/
def code : Stop → Nat
  | .fault _ => 2
  | _ => 0

end Stop

end CalcBuild.CommandLine

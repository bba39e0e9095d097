/-
**Reading the command line.**

The arguments are read one after the other by a machine that knows which values it has, which option
still waits for its value, and whether options have ended. A value is checked when the next argument
has shown that the option is complete, so a fault in it is reported at that point.

* `Values.store`: checks a value and keeps it;
* `Reader.settle`: completes the option that was read last;
* `Reader.step`: reads one argument;
* `Reader.finish`: the invocation, after the last argument;
* `read`: the invocation that a list of arguments spells, or why there is none.
-/

import CalcBuild.CommandLine.Usage

namespace CalcBuild.CommandLine

/-- The values that have been read. -/
structure Values where
  file? : Option Bytes
  output? : Option Bytes
  verbose : Bool
  toolDirs : List Bytes
  runtime? : Option Bytes
  timeout? : Option Nat
  tempDir? : Option Bytes
  deriving DecidableEq, Repr

namespace Values

/-- No values. -/
def none : Values := ⟨.none, .none, false, [], .none, .none, .none⟩

/-- Whether a slot has a value and takes no other. -/
def isTaken (values : Values) : Slot → Bool
  | .file => values.file?.isSome
  | .output => values.output?.isSome
  | .toolDir => false
  | .runtime => values.runtime?.isSome
  | .timeout => values.timeout?.isSome
  | .tempDir => values.tempDir?.isSome

/-- The timeout that a text stands for: a numeral of a positive number. -/
def readTimeout (text : Bytes) : Except UsageFault Nat :=
  match Text.Utf8.decode? text with
  | .none => .error .notText
  | .some _ =>
    match Number.readNumeral longestTimeout text with
    | .error fault => .error (.badTimeout (Text.Utf8.lossy text) (.numeral fault))
    | .ok 0 => .error (.badTimeout (Text.Utf8.lossy text) (.outOfRange 0))
    | .ok seconds => .ok seconds

/-- Checks the value of a slot and keeps it. A second value is refused before it is looked at; a
path must not be empty. -/
def store (values : Values) (slot : Slot) (value : Bytes) : Except UsageFault Values :=
  if values.isTaken slot then .error (.repeatedSlot slot)
  else if slot = .timeout then
    (readTimeout value).map fun seconds => { values with timeout? := some seconds }
  else if value = [] then .error (.missingValue slot)
  else
    .ok <| match slot with
      | .file => { values with file? := some value }
      | .output => { values with output? := some value }
      | .toolDir => { values with toolDirs := values.toolDirs ++ [value] }
      | .runtime => { values with runtime? := some value }
      | .timeout => values
      | .tempDir => { values with tempDir? := some value }

/-- The invocation that values make up; without a file there is none. -/
def invocation (values : Values) : Except UsageFault Invocation :=
  match values.file? with
  | .none => .error .missingFile
  | .some file =>
    .ok { file, output? := values.output?, verbose := values.verbose,
          toolDirs := values.toolDirs, runtime? := values.runtime?,
          timeout? := values.timeout?, tempDir? := values.tempDir? }

end Values

/-- What was read last: nothing that is left to check, an option without its value, or a value that
has not been checked. -/
inductive Pending where
  | nothing
  | awaiting (slot : Slot)
  | given (slot : Slot) (value : Bytes)
  deriving DecidableEq, Repr

/-- The machine between two arguments. After the argument `--` no others are options. -/
structure Reader where
  values : Values
  pending : Pending
  literal : Bool
  fileGiven : Bool
  deriving DecidableEq, Repr

namespace Reader

/-- The machine before the first argument. -/
def start : Reader := ⟨.none, .nothing, false, false⟩

/-- Completes the option that was read last. -/
def settle (reader : Reader) : Except Stop Reader :=
  match reader.pending with
  | .nothing => .ok reader
  | .awaiting slot => .error (.fault (.missingValue slot))
  | .given slot value =>
    match reader.values.store slot value with
    | .error fault => .error (.fault fault)
    | .ok values => .ok { reader with values, pending := .nothing }

/-- Reads an option that still waits for its value. -/
def await (reader : Reader) (slot : Slot) : Except Stop Reader := do
  let settled ← reader.settle
  return { settled with pending := .awaiting slot }

/-- Reads an option together with its value, which is checked at once. -/
def attach (reader : Reader) (slot : Slot) (value : Bytes) : Except Stop Reader := do
  let settled ← reader.settle
  { settled with pending := .given slot value }.settle

/-- Reads an option without value. -/
def turn (reader : Reader) (switch : Switch) : Except Stop Reader := do
  let settled ← reader.settle
  match switch with
  | .help => .error .help
  | .version => .error .version
  | .verbose =>
    if settled.values.verbose then .error (.fault (.repeatedSwitch .verbose))
    else return { settled with values := { settled.values with verbose := true } }

/-- Reads an argument that is no option: the source file, and nothing after it. -/
def positional (reader : Reader) (argument : Bytes) : Except Stop Reader :=
  if reader.fileGiven then .error (.fault (.unexpected (Text.Utf8.lossy argument)))
  else do
    let settled ← reader.settle
    return { settled with pending := .given .file argument, fileGiven := true }

/-- The byte between a long option and its value. -/
def equals : UInt8 := 0x3D

/-- The byte that options begin with. -/
def dash : UInt8 := 0x2D

/-- Reads an option with a long name; `body` is the argument without the two dashes. -/
def long (reader : Reader) (body : Bytes) : Except Stop Reader :=
  let name := body.takeWhile (· != equals)
  let value? := if name.length = body.length then none else some (body.drop (name.length + 1))
  match Key.named? name, value? with
  | none, _ => .error (.fault (.unknownOption ("--" ++ Text.Utf8.lossy name)))
  | some (.slot slot), none => reader.await slot
  | some (.slot slot), some value => reader.attach slot value
  | some (.switch switch), none => reader.turn switch
  | some (.switch switch), some value =>
    .error (.fault (.unexpectedValue (Text.Utf8.lossy value) switch))

/-- Reads an option with a short name; `body` is the argument without the dash. The value of an
option may follow its letter directly, or after an equals sign. -/
def short (reader : Reader) (body : Bytes) : Except Stop Reader :=
  match Text.Utf8.pieces body with
  | .char letter :: _ =>
    match Key.lettered? letter with
    | none => .error (.fault (.unknownOption ("-" ++ String.ofList [letter])))
    | some (.switch switch) => reader.turn switch
    | some (.slot slot) =>
      match body.drop 1 with
      | [] => reader.await slot
      | byte :: rest => reader.attach slot (if byte = equals then rest else byte :: rest)
  | _ => .error (.fault (.unknownOption ("-" ++ Text.Utf8.lossy body)))

/-- Reads an argument that does not look like an option: a value if an option waits for one. -/
def plain (reader : Reader) (argument : Bytes) : Except Stop Reader :=
  match reader.pending with
  | .awaiting slot => .ok { reader with pending := .given slot argument }
  | _ => reader.positional argument

/-- Reads one argument. -/
def step (reader : Reader) (argument : Bytes) : Except Stop Reader :=
  if reader.literal then reader.positional argument
  else
    match argument with
    | first :: second :: body =>
      if first = dash && second = dash then
        if body = [] then .ok { reader with literal := true } else reader.long body
      else if first = dash then reader.short (second :: body)
      else reader.plain argument
    | _ => reader.plain argument

/-- The invocation, after the last argument. -/
def finish (reader : Reader) : Except Stop Invocation := do
  let settled ← reader.settle
  match settled.values.invocation with
  | .error fault => .error (.fault fault)
  | .ok invocation => return invocation

end Reader

/-- The invocation that a list of arguments spells, or why there is none. -/
def read (arguments : List Bytes) : Except Stop Invocation := do
  let reader ← arguments.foldlM Reader.step Reader.start
  reader.finish

end CalcBuild.CommandLine

/-
**A machine on which all programs are scripts.**

* `behaviourOf`: the behaviour of a program that the driver starts;
* `programs`: the programs of the machine, for running builds on it;
* `machineFiles`: its files before anything is installed.
-/

import CalcBuild.Script.Run

namespace CalcBuild.Script

open Files

/-- How deep a script may go. One that goes deeper does not end. -/
def depth : Nat := 1000000

/-- The behaviour of a program that the driver starts. -/
def behaviourOf (image : Image) (launch : Launch) : Behaviour :=
  runImage depth image (outermost launch) fun signal? shell =>
    match signal? with
    | some signal => .ends (.killedBy signal)
    | none => .ends (.exited (UInt8.ofNat (shell.status % 256)))

/-- The time between two looks of a process that hangs, in nanoseconds. -/
def longPause : Nat := 1000000000000000000

/-- A machine on which programs are scripts and the utilities that these use. -/
def programs : Programs Behaviour where
  start files launch :=
    (launch.image files).map fun image => behaviourOf image launch
  step files behaviour :=
    match behaviour with
    | .ends status => (files, .ends status)
    | .acts change next => (change files, .goesOn (next files))
    | .sleeps pause next => (files, .sleeps pause (next ()))
    | .prints channel bytes next => (files, .prints channel bytes (next ()))
    | .signals signal next => (files, .signals signal (next ()))
    | .hangs => (files, .sleeps longPause .hangs)

/-- The directories that hold the built-in programs. -/
def programDirectories : List Place := [[bytesOf "bin"], [bytesOf "bin", bytesOf "usr"]]

/-- The names of the built-in programs, each with the program it is. -/
def builtInPrograms : List (Bytes × Bytes) :=
  [("sh", "sh"), ("dash", "sh"), ("env", "env")].map (fun row => (bytesOf row.1, bytesOf row.2)) ++
    Utility.table.map fun row => (bytesOf row.1, bytesOf row.1)

/-- The files of a machine on which nothing has been installed. -/
def machineFiles : FileSystem :=
  let directories : List Place :=
    [["bin"], ["usr"], ["bin", "usr"], ["dev"]].map fun names => names.map bytesOf
  let bare := directories.foldl (fun fs place => fs.put place (.directory Mode.ofMachine))
    FileSystem.empty
  let withTemporary := bare.put [bytesOf "tmp"] (.directory 0o777)
  let withSink := withTemporary.put [bytesOf "null", bytesOf "dev"] .sink
  programDirectories.foldl (fun fs dir =>
    builtInPrograms.foldl (fun fs program =>
      fs.put (program.1 :: dir) (.file Mode.ofMachine (Image.mark ++ program.2))) fs) withSink

end CalcBuild.Script

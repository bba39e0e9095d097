/-
**The driver as a program.**

The entries that a command line can reach are read into a file system, the run is worked out on it
with tools that are scripts, and what has changed is written back. Nothing is decided here.
-/

import CalcBuild.CommandLine.Nested
import CalcBuild.Log.Timestamp

namespace CalcBuild.Program

open Files

/-- The path of a place as text, if its names are well-formed. -/
def pathText? (place : Place) : Option String :=
  (Text.Utf8.decode? place.path).map String.ofList

/-- Reads the entry at a place, if there is one. Files are taken to be executable. -/
def observe (fs : FileSystem) (place : Place) : IO FileSystem := do
  let some text := pathText? place | return fs
  if (fs.get? place).isSome then return fs
  let here := (← IO.currentDir) / text
  if ← here.isDir then return fs.put place (.directory 0o755)
  if ← here.pathExists then
    let contents ← IO.FS.readBinFile here
    return fs.put place (.file 0o755 contents.toList)
  return fs

/-- Reads the entries on the way along a path. -/
def observePath (cwd : Place) (fs : FileSystem) (path : Bytes) : IO FileSystem := do
  let start : Place := if Path.isAbsolute path then [] else cwd
  let mut fs := fs
  let mut place := start
  for name in Path.names path do
    if name == Path.up then place := place.tail
    else if name != Path.here then
      place := name :: place
      fs ← observe fs place
  return fs

/-- The paths that a run can look at before it starts a tool. -/
def reachable (site : CommandLine.Site) (invocation : CommandLine.Invocation) : List Bytes :=
  let tools := (site.searchPath invocation).dirs.flatMap fun dir =>
    Tool.all.map fun tool => Path.join dir (Bytes.ofText tool.program)
  let shipped := site.driverDir?.toList.flatMap fun dir =>
    runtimeNextToDriver.map fun path => Path.join dir (Bytes.ofText path)
  let bundled := Path.join site.sourceTree (Bytes.ofText runtimeInSourceTree)
  let output := invocation.output?.getD (Bytes.ofText BuildRequest.defaultOutput)
  [site.cwd.path, invocation.tempDir?.getD site.setting.temporaryRoot, invocation.file, output] ++
    invocation.runtime?.toList ++ shipped ++ [bundled] ++ tools

/-- Writes one changed entry. -/
def store (place : Place) (entry : Entry) : IO Unit := do
  let some text := pathText? place | return
  match entry with
  | .directory _ => IO.FS.createDirAll text
  | .file mode contents =>
    IO.FS.writeBinFile text ⟨contents.toArray⟩
    let rights (bits : Nat) : IO.AccessRight :=
      ⟨bits &&& 4 != 0, bits &&& 2 != 0, bits &&& 1 != 0⟩
    IO.setAccessRights text ⟨rights (mode / 64), rights (mode / 8), rights mode⟩
  | _ => return

/-- Writes the entries that differ from those before, and removes those that are gone. -/
def storeChanges (before after : FileSystem) : IO Unit := do
  let byDepth := after.table.mergeSort fun row row' => row.1.length ≤ row'.1.length
  for (place, entry) in byDepth do
    if before.get? place != some entry then store place entry
  for (place, entry) in before.table do
    if (after.get? place).isNone then
      let some text := pathText? place | continue
      if entry.isDirectory then IO.FS.removeDirAll text else IO.FS.removeFile text

/-- The time in microseconds, read off a file that is made for it. -/
def now : IO Nat := do
  let (_, path) ← IO.FS.createTempFile
  let made := (← path.metadata).modified
  IO.FS.removeFile path
  return made.sec.toNat * 1000000 + made.nsec.toNat / 1000

/-- The variables that a run looks at, and those that its tools are given. -/
def environment : IO Environment := do
  let names := ["PATH", "TMPDIR", "HOME", Log.Filter.variableName]
  let mut environment : Environment := ⟨[]⟩
  for name in names do
    if let some value ← IO.getEnv name then
      environment := environment.set (Bytes.ofText name) (Bytes.ofText value)
  return environment

/-- Random names: six letters and digits for each number, from a seed. -/
def namesFrom (seed : Nat) (drawn : Nat) : Bytes :=
  let letters := Bytes.ofText "0123456789ABCDEFGHIJKLMNOPQRSTUVWXYZabcdefghijklmnopqrstuvwxyz"
  let number := (seed + drawn * 7919) * 6364136223846793005 / 0x10000
  (List.range 6).map fun index => letters.getD (number / Nat.pow 62 index % 62) 0x30

/-- Writes bytes to a channel. -/
def write (channel : Channel) (bytes : Bytes) : IO Unit := do
  let stream ← match channel with
    | .output => IO.getStdout
    | .diagnostics => IO.getStderr
  stream.write ⟨bytes.toArray⟩
  stream.flush

/-- The place of the current directory and that of the running program. -/
def site : IO CommandLine.Site := do
  let cwd := Bytes.ofText (← IO.currentDir).toString
  let program := Bytes.ofText (← IO.appPath).toString
  let seed ← now
  return { cwd := (Path.names cwd).reverse, environment := ← environment, names := namesFrom seed,
           driverDir? := Path.parent program, sourceTree := (Path.parent program).getD [] }

/-- Carries an invocation out and gives the exit status. -/
def perform (invocation : CommandLine.Invocation) : IO UInt32 := do
  let site ← site
  let mut files := Script.machineFiles
  for path in reachable site invocation do
    files ← observePath site.cwd files path
  let world : World := { files, flag := .lowered, clock := 0, drawn := 0 }
  let stamp := Log.stamp (← now)
  let programs := CommandLine.programs 1000000000 stamp site 1
  let run := CommandLine.drive programs 1000000000 site invocation world
  for report in run.reports do
    if let some (channel, bytes) := report.written? (site.filter invocation) stamp then
      write channel bytes
  storeChanges files run.world.files
  return (run.ending.code?.getD 1).toUInt32

end CalcBuild.Program

/-- Reads the command line and carries it out. -/
def main (arguments : List String) : IO UInt32 := do
  match CalcBuild.CommandLine.read (arguments.map CalcBuild.Bytes.ofText) with
  | .error stop =>
    CalcBuild.Program.write stop.channel
      (CalcBuild.Bytes.ofText (stop.text CalcBuild.CommandLine.driverName))
    return stop.code.toUInt32
  | .ok invocation => CalcBuild.Program.perform invocation

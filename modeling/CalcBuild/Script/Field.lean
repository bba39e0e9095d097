/-
**Fields.**

The words of a command are expanded into marks and then cut into fields. Blanks in the value of a
parameter cut a field, quoted ones do not; a field that is a pattern becomes the paths that fit it.

* `Mark.fields`: cuts marks into fields;
* `Field.paths`: the paths that a field stands for;
* `Shell.parameter?`: the value of a parameter.
-/

import CalcBuild.Script.Behaviour
import CalcBuild.Script.Pattern
import CalcBuild.Script.Value

namespace CalcBuild.Script

open Files

/-- What a word is expanded to, piece by piece. -/
inductive Mark where
  /-- A letter; `splits` is set where a blank cuts the field. -/
  | letter (letter : Letter) (splits : Bool)
  /-- A quoted part, which makes a field even if it is empty. -/
  | holds
  /-- All arguments between quotes, when there are none: no field is made by the quotes. -/
  | vanishes
  /-- The end of a field. -/
  | cut
  deriving DecidableEq, Repr

/-- A field: its letters. -/
abbrev Field := List Letter

/-- A field that is being read, the last letter first. -/
structure Reading where
  letters : List Letter
  holds : Bool
  vanishes : Bool

namespace Reading

/-- Nothing read yet. -/
def start : Reading := ⟨[], false, false⟩

/-- Ends a field: it counts if it has letters or a quoted part. -/
def finish (reading : Reading) (done : List Field) : List Field :=
  if reading.letters = [] && (!reading.holds || reading.vanishes) then done
  else reading.letters.reverse :: done

end Reading

/-- Whether a byte cuts fields. -/
def isFieldGap (byte : UInt8) : Bool :=
  byte == 0x20 || byte == 0x09 || byte == 0x0A

namespace Mark

/-- Cuts marks into fields. -/
def fields (marks : List Mark) : List Field :=
  let (done, reading) := marks.foldl (fun (done, reading) mark =>
    match mark with
    | .letter own splits =>
      if splits && isFieldGap own.byte then
        if reading.letters = [] && !reading.holds then (done, Reading.start)
        else (reading.finish done, Reading.start)
      else (done, { reading with letters := own :: reading.letters })
    | .holds => (done, { reading with holds := true })
    | .vanishes => (done, { reading with vanishes := true })
    | .cut => (reading.finish done, Reading.start)) (([] : List Field), Reading.start)
  (reading.finish done).reverse

/-- The letters of marks, as one field. -/
def letters (marks : List Mark) : Field :=
  marks.filterMap fun mark =>
    match mark with
    | .letter own _ => some own
    | .cut => some ⟨0x20, true⟩
    | _ => none

/-- The marks of a value. -/
def ofValue (quoted : Bool) (bytes : Bytes) : List Mark :=
  bytes.map fun byte => .letter ⟨byte, quoted⟩ (!quoted)

/-- The marks of a literal. -/
def ofLiteral (quoted : Bool) (bytes : Bytes) : List Mark :=
  let own := bytes.map fun byte => Mark.letter ⟨byte, quoted⟩ false
  if quoted then .holds :: own else own

/-- The marks of all arguments, each in a field of its own. -/
def ofArguments (quoted : Bool) (arguments : List Bytes) : List Mark :=
  match arguments with
  | [] => if quoted then [.vanishes] else []
  | first :: rest =>
    let own (argument : Bytes) : List Mark :=
      if quoted then .holds :: ofValue true argument else ofValue false argument
    own first ++ rest.flatMap fun argument => .cut :: own argument

end Mark

namespace Field

/-- The bytes of a field. -/
def bytes (field : Field) : Bytes := field.map (·.byte)

/-- The parts of a field between slashes. -/
def parts (field : Field) : List Field :=
  field.foldr (fun letter found =>
    if letter.byte = Path.slash then [] :: found
    else match found with
      | [] => [[letter]]
      | part :: rest => (letter :: part) :: rest) [[]]

/-- The paths that begin with `stems` and go on with names that fit the parts of a pattern. -/
def expandParts (fs : FileSystem) (cwd : Place) : List Field → List Bytes → List Bytes
  | [], stems => stems
  | part :: rest, stems =>
    let pattern := Pattern.ofLetters part
    let ending : Bytes := if rest = [] then [] else [Path.slash]
    if !Pattern.isWild pattern then
      expandParts fs cwd rest (stems.map fun stem => stem ++ bytes part ++ ending)
    else
      let fitting (stem : Bytes) : List Bytes :=
        match fs.find cwd true (if stem = [] then Path.here else stem) with
        | .ok (place, .directory mode) =>
          let isShown (name : Bytes) : Bool :=
            name.head? != some 0x2E || (part.head?.map (·.byte)) == some 0x2E
          let known := if mode.mayRead then fs.namesIn place else []
          let names := known.filter fun name =>
            isShown name && Pattern.fits pattern name
          (names.mergeSort precedes).map fun name => stem ++ name ++ ending
        | _ => []
      expandParts fs cwd rest (stems.flatMap fitting)

/-- Whether a field may be a pattern. -/
def isWild (field : Field) : Bool :=
  field.any fun letter => !letter.isQuoted && [0x2A, 0x3F, 0x5B].contains letter.byte

/-- The paths that a field stands for: those that fit it if it is a pattern, or its own bytes. -/
def paths (fs : FileSystem) (cwd : Place) (field : Field) : List Bytes :=
  if !field.isWild then [field.bytes]
  else
    let found := (expandParts fs cwd field.parts [[]]).filter fun path =>
      match fs.find cwd false path with
      | .ok _ => true
      | .error _ => false
    if found = [] then [field.bytes] else found

end Field

namespace Shell

/-- The value of a parameter. -/
def parameter? (shell : Shell) (name : Bytes) : Option Bytes :=
  match name with
  | [0x40] => some (joined [0x20] shell.arguments)
  | [0x2A] => some (joined [0x20] shell.arguments)
  | [0x23] => some (numeralBytes shell.arguments.length)
  | [0x3F] => some (numeralBytes shell.status)
  | [0x24] => some (numeralBytes shell.process)
  | [0x21] => some []
  | [0x2D] => some shell.letters
  | [0x30] => some shell.name
  | _ =>
    match natural? name with
    | some index => shell.arguments[index - 1]?
    | none => shell.value? name

/-- The marks of the value of a parameter. -/
def valueMarks (shell : Shell) (quoted : Bool) (name : Bytes) : List Mark :=
  if name = [0x40] || (name = [0x2A] && !quoted) then Mark.ofArguments quoted shell.arguments
  else
    let own := Mark.ofValue quoted ((shell.parameter? name).getD [])
    if quoted then .holds :: own else own

end Shell

end CalcBuild.Script

/-
**Changes of modes.**

A change of modes is a numeral, or it names classes of users, an operator and the rights it is about.

* `changedMode?`: the mode after a change;
* `withModes`: the modes of everything below a directory;
* `chmod`: the utility.
-/

import CalcBuild.Script.Condition
import CalcBuild.Script.Utility.Basic

namespace CalcBuild.Script

open Files

namespace Utility

/-- The bits that belong to the letters of those whom a change is for. -/
def classBits (who : Bytes) : Nat :=
  let isFor (letter : UInt8) : Bool := who.contains 0x61 || who.contains letter
  (if isFor 0x75 then 64 else 0) + (if isFor 0x67 then 8 else 0) + (if isFor 0x6F then 1 else 0)

/-- The three bits that letters stand for: each of them for a bit, or a single one for the bits of a
class. -/
def letterBits? (isDirectory : Bool) (letters : Bytes) (mode : Nat) : Option Nat :=
  match letters with
  | [0x75] => some (mode / 64 % 8)
  | [0x67] => some (mode / 8 % 8)
  | [0x6F] => some (mode % 8)
  | letters =>
    letters.foldlM (fun bits letter =>
      if letter = 0x72 then some (bits ||| 4)
      else if letter = 0x77 then some (bits ||| 2)
      else if letter = 0x78 then some (bits ||| 1)
      else if letter = 0x58 then
        some (if isDirectory || mode &&& 0o111 != 0 then bits ||| 1 else bits)
      else if letter = 0x73 || letter = 0x74 then some bits
      else none) 0

/-- Whether a byte is an operator of a change. -/
def isModeOperator (byte : UInt8) : Bool := (text "+-=").contains byte

/-- The mode after one or more operators with their letters, for the classes `who`; if none is
named, all are meant, but nobody else is given or refused the right to write. -/
def operatedMode? (isDirectory : Bool) (who : Bytes) (steps : Nat) (change : Bytes) (mode : Nat) :
    Option Nat :=
  match steps, change with
  | _, [] => some mode
  | 0, _ => none
  | more + 1, operator :: rest =>
    if !isModeOperator operator then none
    else
      let letters := rest.takeWhile (!isModeOperator ·)
      match letterBits? isDirectory letters mode with
      | none => none
      | some bits =>
        let wanted := classBits (if who = [] then text "a" else who)
        let mask := (bits * wanted) &&& (if who = [] then 0o755 else 0o777)
        let cleared := if operator = 0x3D then mode - (mode &&& (7 * wanted)) else mode
        let changed := if operator = 0x2D then cleared - (cleared &&& mask) else cleared ||| mask
        operatedMode? isDirectory who more (rest.drop letters.length) changed

/-- The mode after a change: a numeral, or classes, operators and letters as in `u+x`, separated by
commas. -/
def changedMode? (isDirectory : Bool) (change : Bytes) (mode : Nat) : Option Nat :=
  if change != [] && change.all isOctal then
    let value := change.foldl (fun value digit => value * 8 + (digit.toNat - 48)) 0
    if value ≤ 0o7777 then some value else none
  else
    (Text.splitAt 0x2C change).foldlM (fun mode clause =>
      let who := clause.takeWhile fun byte => (text "ugoa").contains byte
      let rest := clause.drop who.length
      if rest = [] then none else operatedMode? isDirectory who rest.length rest mode) mode

/-- Changes the mode of an entry, if it has one; the change depends on whether it is a directory. -/
def withMode (change : Bool → Mode → Mode) : Entry → Entry
  | .file mode contents => .file (change false mode) contents
  | .directory mode => .directory (change true mode)
  | entry => entry

/-- Changes the modes of an entry and of those below it, each directory before what is in it, down to
a depth; links are left alone. What cannot be reached then is told. -/
def withModes (change : Bool → Mode → Mode) (depth : Nat) (path : Bytes) (place : Place)
    (fs : FileSystem) : FileSystem × List Bytes :=
  let entry := withMode change (fs.entryAt place)
  let changed := fs.put place entry
  match depth, entry with
  | more + 1, .directory mode =>
    if !mode.mayRead then
      (changed, [failure (text "cannot read directory " ++ quoted path) .permissionDenied])
    else
      (fs.namesIn place).reverse.foldl (fun (fs, told) name =>
        let inner := Path.join path name
        if mode.mayEnter then
          let (fs, more) := withModes change more inner (name :: place) fs
          (fs, told ++ more)
        else
          (fs, told ++ [failure (text "cannot access " ++ quoted inner) .permissionDenied]))
        (changed, [])
  | _, _ => (changed, [])

/-- Changes the modes of files and directories. -/
def chmod : Utility := fun shell name arguments next =>
  let isDeep := arguments.head? == some (text "-R")
  match (if isDeep then arguments.drop 1 else arguments) with
  | [] => misuse shell name (text "missing operand") (next 1)
  | [change] => misuse shell name (text "missing operand after " ++ quoted change) (next 1)
  | change :: paths =>
    let apply (isDirectory : Bool) (mode : Mode) : Mode :=
      (changedMode? isDirectory change mode).getD mode
    let setMode (cwd : Place) (path : Bytes) (fs : FileSystem) : FileSystem × List Bytes :=
      match fs.find cwd true path with
      | .ok (place, entry) =>
        if isDeep && entry.isDirectory then withModes apply (fs.table.length + 1) path place fs
        else (fs.put place (withMode apply entry), [])
      | .error fault =>
        if fault = .noEntry && (fs.find cwd false path).toOption.isSome then
          (fs, [text "cannot operate on dangling symlink " ++ quoted path])
        else (fs, [failure (text "cannot access " ++ quoted path) fault])
    if (changedMode? false change 0).isNone then
      misuse shell name (text "invalid mode: " ++ quoted change) (next 1)
    else
      forAll (fun shell path next =>
        .perform (setMode shell.cwd path) fun told =>
          forAll (fun shell message next => complain shell name message (next 1)) told 0 shell next)
        paths 0 shell next

end Utility

end CalcBuild.Script

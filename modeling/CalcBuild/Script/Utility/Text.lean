/-
**Utilities for text.**

They write files, or parts of them, to the standard output.
-/

import CalcBuild.Script.Condition
import CalcBuild.Script.Search
import CalcBuild.Script.Utility.Basic

namespace CalcBuild.Script

open Files

namespace Utility

/-- Whether a path leads to the file that the standard output goes to, and something is in it. -/
def isOutput (shell : Shell) (path : Bytes) (fs : FileSystem) : Bool :=
  match fs.find shell.cwd true path with
  | .ok (place, .file _ contents) =>
    contents != [] && shell.target? 1 == some (.file place)
  | _ => false

/-- Writes files one after the other; the file that is written to is left out. -/
def cat : Utility := fun shell name arguments next =>
  forAll (fun shell path next =>
    .look (isOutput shell path) fun same =>
      if same then
        complain shell name (quotedIfNeeded path ++ text ": input file is output file") (next 1)
      else filter failureAt (fun _ bytes => bytes) shell name [path] next)
    (sources (options arguments).2) 0 shell next

/-- Writes its arguments. -/
def echo : Utility := fun shell _ arguments next =>
  shell.say 1 (echoed arguments) fun shell fine => next (if fine then 0 else 1) shell

/-- Writes its arguments in a format. -/
def printf : Utility := fun shell name arguments next =>
  match arguments with
  | [] => complain shell name (text "usage: printf format [arg ...]") (next 2)
  | format :: rest =>
    let (bytes, fine) := formatted (rest.length + 1) format rest
    shell.say 1 bytes fun shell _ => next (if fine then 0 else 1) shell

/-- Tells whether a condition holds. -/
def test : Utility := fun shell name arguments next =>
  let isBracket := name.getLast? == some 0x5B
  if isBracket && arguments.getLast? != some [0x5D] then
    complain shell name (text "missing ]") (next 2)
  else
    let inner := if isBracket then arguments.dropLast else arguments
    .look (fun fs => Condition.judge fs shell.cwd inner) fun judged =>
      match judged with
      | .ok true => next 0 shell
      | .ok false => next 1 shell
      | .error message => complain shell name message (next 2)

/-- Searches lines in files. -/
def grep : Utility := fun shell name arguments next =>
  let (letters, operands) := options arguments
  let has (letter : Char) : Bool := letters.contains (UInt8.ofNat letter.toNat)
  match operands with
  | [] => complain shell name (text "no pattern") (next 2)
  | pattern :: files =>
    let lower (bytes : Bytes) : Bytes :=
      if has 'i' then bytes.map fun byte => if 0x41 ≤ byte && byte ≤ 0x5A then byte + 32 else byte
      else bytes
    let search := if has 'F' then Search.literal (lower pattern)
      else Search.ofBytes (has 'E') (lower pattern)
    let hits (bytes : Bytes) : List Bytes :=
      (lines bytes).filter fun line => search.isFound (has 'x') (lower line) != has 'v'
    let mark (path : Bytes) : Bytes := if files.length ≤ 1 then [] else path ++ [0x3A]
    let numbers (bytes : Bytes) : List Bytes :=
      (lines bytes).zipIdx.flatMap fun (line, index) =>
        if search.isFound (has 'x') (lower line) != has 'v' then
          [numeralBytes (index + 1) ++ 0x3A :: line]
        else []
    let shown (path bytes : Bytes) : Bytes :=
      if has 'q' then []
      else if has 'c' then mark path ++ numeralBytes (hits bytes).length ++ [0x0A]
      else if has 'l' then if hits bytes = [] then [] else path ++ [0x0A]
      else
        (if has 'n' then numbers bytes else hits bytes).flatMap fun line =>
          mark path ++ line ++ [0x0A]
    let rec go (paths : List Bytes) (found failed : Bool) (shell : Shell) : Behaviour :=
      match paths with
      | [] => next (if failed && !(has 'q' && found) then 2 else if found then 0 else 1) shell
      | path :: rest =>
        let goOn (bytes? : Option Bytes) (shell : Shell) : Behaviour :=
          match bytes? with
          | none => go rest found true shell
          | some bytes =>
            shell.say 1 (shown path bytes) fun shell _ =>
              go rest (found || hits bytes != []) failed shell
        let told (path : Bytes) (fault : Fault) : Bytes :=
          failure (if path = [0x2D] then text "(standard input)" else path) fault
        contentsOf told shell name path goOn
    go (sources files) false false shell

/-- A number given to an option, as in `-n 3`, `-n3` or `-3`, and the arguments after it. -/
def countOption (arguments : List Bytes) : Option (UInt8 × Nat) × List Bytes :=
  match arguments with
  | [0x2D, 0x6E] :: count :: rest => ((natural? count).map fun n => (0x6E, n), rest)
  | [0x2D, 0x63] :: count :: rest => ((natural? count).map fun n => (0x63, n), rest)
  | (0x2D :: 0x6E :: count) :: rest => ((natural? count).map fun n => (0x6E, n), rest)
  | (0x2D :: 0x63 :: count) :: rest => ((natural? count).map fun n => (0x63, n), rest)
  | (0x2D :: count) :: rest =>
    match natural? count with
    | some n => (some (0x6E, n), rest)
    | none => (none, arguments)
  | _ => (none, arguments)

/-- The first lines of a byte string, each with its end. -/
def firstLines (count : Nat) (bytes : Bytes) : Bytes :=
  let ended := bytes.getLast? == some 0x0A
  let all := lines bytes
  let text := (all.take count).flatMap fun line => line ++ [0x0A]
  if ended || count < all.length then text else text.dropLast

/-- Writes the first lines or bytes of files. -/
def head : Utility := fun shell name arguments next =>
  let (count?, files) := countOption arguments
  let shown (_ bytes : Bytes) : Bytes :=
    match count? with
    | some (0x63, count) => bytes.take count
    | some (_, count) => firstLines count bytes
    | none => firstLines 10 bytes
  filter unread shown shell name files next

/-- The line from which on files are written, as in `-n +3`, and the arguments after it. -/
def fromOption (arguments : List Bytes) : Option Nat × List Bytes :=
  match arguments with
  | [0x2D, 0x6E] :: (0x2B :: line) :: rest => (natural? line, rest)
  | (0x2D :: 0x6E :: 0x2B :: line) :: rest => (natural? line, rest)
  | _ => (none, arguments)

/-- Writes the last lines or bytes of files. -/
def tail : Utility := fun shell name arguments next =>
  let (from?, arguments) := fromOption arguments
  let (count?, files) := countOption arguments
  let last (count : Nat) (bytes : Bytes) : Bytes :=
    let skipped := (lines bytes).take ((lines bytes).length - count)
    bytes.drop (skipped.foldl (fun length line => length + (line.length + 1)) 0)
  let shown (_ bytes : Bytes) : Bytes :=
    match from?, count? with
    | some line, _ => last ((lines bytes).length - (line - 1)) bytes
    | none, some (0x63, count) => bytes.drop (bytes.length - count)
    | none, some (_, count) => last count bytes
    | none, none => last 10 bytes
  filter unread shown shell name files next

/-- The number of words in a text. -/
def wordCount (bytes : Bytes) : Nat :=
  let isGap (byte : UInt8) : Bool := byte == 0x20 || (0x09 ≤ byte && byte ≤ 0x0D)
  (bytes.foldl (fun (count, inWord) byte =>
    if isGap byte then (count, false)
    else if inWord then (count, true) else (count + 1, true)) (0, false)).1

/-- Counts lines, words or bytes of files; without an option all three, in columns. -/
def wc : Utility := fun shell name arguments next =>
  let (letters, files) := options arguments
  let isAsked (letter : UInt8) : Bool := letters = [] || letters.contains letter
  let shown (path bytes : Bytes) : Bytes :=
    let counts :=
      (if isAsked 0x6C then [bytes.count 0x0A] else []) ++
        (if isAsked 0x77 then [wordCount bytes] else []) ++
        (if isAsked 0x63 || isAsked 0x6D then [bytes.length] else [])
    let width := if counts.length = 1 then 1 else (numeralBytes bytes.length).length
    let column (count : Nat) : Bytes :=
      let numeral := numeralBytes count
      List.replicate (width - numeral.length) 0x20 ++ numeral
    joined [0x20] (counts.map column) ++ (if path = [0x2D] then [] else 0x20 :: path) ++ [0x0A]
  filter failureAt shown shell name files next

/-- Writes the lines of files in order, or in the opposite order. -/
def sort : Utility := fun shell name arguments next =>
  let (letters, files) := options arguments
  let shown (_ bytes : Bytes) : Bytes :=
    let ordered := (lines bytes).mergeSort precedes
    let single := if letters.contains 0x75 then ordered.eraseReps else ordered
    (if letters.contains 0x72 then single.reverse else single).flatMap fun line => line ++ [0x0A]
  let told (path : Bytes) (fault : Fault) : Bytes :=
    let words := if fault = .isDirectory then "read failed: " else "cannot read: "
    failure (text words ++ path) fault
  filter told shown shell name files next

/-- Writes the last component of a path, without a suffix. -/
def baseNameOf : Utility := fun shell _ arguments next =>
  let base := baseName (arguments.head?.getD [])
  let cut := match arguments[1]? with
    | some ending =>
      if ending.isSuffixOf base && ending != base then base.take (base.length - ending.length)
      else base
    | none => base
  shell.say 1 (cut ++ [0x0A]) fun shell _ => next 0 shell

/-- Writes the path without its last component. -/
def dirNameOf : Utility := fun shell _ arguments next =>
  let path := arguments.head?.getD []
  let dir := match Path.parent path with
    | some dir => if dir = [] then Path.here else dir
    | none => if Path.isAbsolute path then [Path.slash] else Path.here
  shell.say 1 (dir ++ [0x0A]) fun shell _ => next 0 shell

/-- Writes the path of the current directory. -/
def pwd : Utility := fun shell _ _ next =>
  shell.say 1 (shell.cwd.path ++ [0x0A]) fun shell _ => next 0 shell

/-- The lines with the numbers from one bound to another. -/
def numbered (first last : Int) : Bytes :=
  (List.range (last - first + 1).toNat).flatMap fun (count : Nat) =>
    numeralBytes (first + count) ++ [0x0A]

/-- Writes the numbers from one bound to another. -/
def seq : Utility := fun shell name arguments next =>
  match arguments.mapM integer? with
  | some [last] =>
    shell.say 1 (numbered 1 last) fun shell _ => next 0 shell
  | some [first, last] =>
    shell.say 1 (numbered first last) fun shell _ => next 0 shell
  | _ => complain shell name (text "missing operand") (next 1)

end Utility

end CalcBuild.Script

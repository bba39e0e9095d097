/-
**The smallest parts of a script.**

Names, numerals, reserved words, blanks and comments, and what can be told from the bytes alone.

* `skipBlanks`, `skipLines`: pass over what separates parts;
* `reserved?`: the reserved words;
* `operationOf`, `redirection?`, `hereText`: the parts with signs of their own.
-/

import CalcBuild.Script.Statement

namespace CalcBuild.Script

/-- Whether a byte may be in a name. -/
def isNameByte (byte : UInt8) : Bool :=
  (0x61 ≤ byte && byte ≤ 0x7A) || (0x41 ≤ byte && byte ≤ 0x5A) || byte == 0x5F ||
    (0x30 ≤ byte && byte ≤ 0x39)

/-- Whether a byte is a decimal digit. -/
def isDigitByte (byte : UInt8) : Bool :=
  0x30 ≤ byte && byte ≤ 0x39

/-- Whether a byte string is a name. -/
def isName (bytes : Bytes) : Bool :=
  bytes.all isNameByte &&
    match bytes with
    | [] => false
    | first :: _ => !isDigitByte first

/-- Whether a byte ends a word that is not quoted. -/
def endsWord (byte : UInt8) : Bool :=
  (Bytes.ofText " \t\n;&|<>()").contains byte

/-- The words that have a meaning of their own at the start of a command. -/
def reservedWords : List Bytes :=
  ["if", "then", "elif", "else", "fi", "while", "until", "for", "do", "done", "case", "esac",
    "\x7b", "\x7d", "!"].map Bytes.ofText

/-- Skips blanks and comments, and also line ends if `lines` is set. -/
def skip (lines inComment : Bool) : Bytes → Bytes
  | [] => []
  | byte :: rest =>
    if byte = 0x0A then if lines then skip lines false rest else byte :: rest
    else if inComment then skip lines true rest
    else if byte = 0x23 then skip lines true rest
    else if byte = 0x20 || byte = 0x09 then skip lines false rest
    else if byte = 0x5C then
      match rest with
      | 0x0A :: after => skip lines false after
      | _ => byte :: rest
    else byte :: rest

/-- Skips blanks and comments. -/
def skipBlanks (bytes : Bytes) : Bytes := skip false false bytes

/-- Skips blanks, comments and line ends. -/
def skipLines (bytes : Bytes) : Bytes := skip true false bytes

/-- The reserved word that comes next, and what follows it. -/
def reserved? (bytes : Bytes) : Option (Bytes × Bytes) :=
  let word := bytes.takeWhile (!endsWord ·)
  if reservedWords.contains word then some (word, bytes.drop word.length) else none

/-- Whether a given reserved word comes next. -/
def isNext (word : String) (bytes : Bytes) : Bool :=
  match reserved? bytes with
  | some (next, _) => next == Bytes.ofText word
  | none => false

/-- What follows a given reserved word, if it comes next. -/
def expect? (word : String) (bytes : Bytes) : Option Bytes :=
  let bytes := skipLines bytes
  if isNext word bytes then some (bytes.drop (Bytes.ofText word).length) else none

/-- Puts a byte in front of pieces, into the first of them if that is of the same kind. -/
def consByte (quoted : Bool) (byte : UInt8) : List Piece → List Piece
  | .literal own bytes :: rest =>
    if own = quoted then .literal own (byte :: bytes) :: rest
    else .literal quoted [byte] :: .literal own bytes :: rest
  | pieces => .literal quoted [byte] :: pieces

/-- Where the pieces that are read stand. -/
inductive Surroundings where
  | bare
  | quotes
  /-- Between braces after the name of a parameter; literals are quoted if `quoted` is set. -/
  | braces (quoted : Bool)
  | arithmetic
  deriving DecidableEq, Repr

/-- A name, a digit or a special character after a dollar sign. -/
def parameterName (bytes : Bytes) : Bytes :=
  match bytes with
  | [] => []
  | byte :: _ =>
    if isDigitByte byte then bytes.takeWhile isDigitByte
    else if isNameByte byte then bytes.takeWhile isNameByte
    else if (Bytes.ofText "@*#?$!-").contains byte then [byte]
    else []

/-- The operation that follows the name of a parameter, and what follows it. -/
def operationOf (bytes : Bytes) : Operation × Bytes :=
  match bytes with
  | 0x3A :: 0x2D :: rest => (.orElse true, rest)
  | 0x3A :: 0x3D :: rest => (.orAssign true, rest)
  | 0x3A :: 0x3F :: rest => (.orFail true, rest)
  | 0x3A :: 0x2B :: rest => (.instead true, rest)
  | 0x2D :: rest => (.orElse false, rest)
  | 0x3D :: rest => (.orAssign false, rest)
  | 0x3F :: rest => (.orFail false, rest)
  | 0x2B :: rest => (.instead false, rest)
  | 0x25 :: 0x25 :: rest => (.cutSuffix true, rest)
  | 0x25 :: rest => (.cutSuffix false, rest)
  | 0x23 :: 0x23 :: rest => (.cutPrefix true, rest)
  | 0x23 :: rest => (.cutPrefix false, rest)
  | rest => (.value, rest)

/-- Whether the word of an operation is a pattern. -/
def Operation.takesPattern : Operation → Bool
  | .cutSuffix _ => true
  | .cutPrefix _ => true
  | _ => false

/-- The text up to a backquote, with the backslashes before special characters taken out, and what
follows the backquote. -/
def backquoted : Bytes → Option (Bytes × Bytes)
  | [] => none
  | 0x60 :: rest => some ([], rest)
  | 0x5C :: byte :: rest =>
    (backquoted rest).map fun (text, after) =>
      (if (Bytes.ofText "$`\\").contains byte then byte :: text else 0x5C :: byte :: text, after)
  | byte :: rest => (backquoted rest).map fun (text, after) => (byte :: text, after)

/-- The lines up to one that is `mark`, and what follows that line. -/
def hereText (steps : Nat) (mark : Bytes) (tabs : Bool) (bytes : Bytes) : Bytes × Bytes :=
  match steps with
  | 0 => ([], [])
  | more + 1 =>
    if bytes = [] then ([], [])
    else
      let whole := bytes.takeWhile (· != 0x0A)
      let line := if tabs then whole.dropWhile (· == 0x09) else whole
      let after := bytes.drop (whole.length + 1)
      if line = mark then ([], after)
      else
        let rest := hereText more mark tabs after
        (line ++ 0x0A :: rest.1, rest.2)

/-- The literal bytes of a word. -/
def literalBytes (word : List Piece) : Bytes :=
  word.flatMap fun piece =>
    match piece with
    | .literal _ bytes => bytes
    | _ => []

/-- Whether no part of a word is quoted. -/
def isUnquoted (word : List Piece) : Bool :=
  word.all fun piece =>
    match piece with
    | .literal quoted _ => !quoted
    | _ => true

/-- The name that is assigned to at the start of a word, and what follows the equals sign. -/
def assigned? (bytes : Bytes) : Option (Bytes × Bytes) :=
  let name := bytes.takeWhile isNameByte
  match bytes.drop name.length with
  | 0x3D :: rest => if isName name then some (name, rest) else none
  | _ => none

/-- The descriptor and the operator of a redirection, if one comes next, and what follows. The flag
says that tabs at the start of lines do not count. -/
def redirection? (bytes : Bytes) : Option (Nat × Opening × Bool × Bytes) :=
  let digits := bytes.takeWhile isDigitByte
  let value := digits.foldl (fun value digit => value * 10 + (digit.toNat - 48)) 0
  let number? := if digits = [] then none else some value
  match bytes.drop digits.length with
  | 0x3E :: 0x3E :: rest => some (number?.getD 1, .append, false, rest)
  | 0x3E :: 0x26 :: rest => some (number?.getD 1, .duplicate, false, rest)
  | 0x3E :: 0x7C :: rest => some (number?.getD 1, .write, false, rest)
  | 0x3E :: rest => some (number?.getD 1, .write, false, rest)
  | 0x3C :: 0x3C :: 0x2D :: rest => some (number?.getD 0, .text, true, rest)
  | 0x3C :: 0x3C :: rest => some (number?.getD 0, .text, false, rest)
  | 0x3C :: 0x26 :: rest => some (number?.getD 0, .duplicate, false, rest)
  | 0x3C :: rest => some (number?.getD 0, .read, false, rest)
  | _ => none

end CalcBuild.Script

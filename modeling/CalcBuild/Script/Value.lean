/-
**Numbers and text in scripts.**

* `natural?`, `integer?`, `pause?`: the number that a byte string spells;
* `precedes`: the order in which names are listed;
* `lines`: the lines of a byte string;
* `echoed`, `formatted`: the text that is written for escapes and formats.
-/

import CalcBuild.Number.Decimal
import CalcBuild.Script.Grammar

namespace CalcBuild.Script

/-- The bytes of a numeral. -/
def numeralBytes (value : Int) : Bytes := Bytes.ofText (Number.signed value)

/-- The number that decimal digits spell, after an accumulated part. -/
def digitsValue (digits : Bytes) : Nat :=
  digits.foldl (fun value digit => value * 10 + (digit.toNat - 48)) 0

/-- The natural number that a byte string of digits spells. -/
def natural? (bytes : Bytes) : Option Nat :=
  if bytes = [] || !bytes.all isDigitByte then none else some (digitsValue bytes)

/-- The integer that a byte string spells, perhaps with a sign and with blanks around it. -/
def integer? (bytes : Bytes) : Option Int :=
  let isBlank (byte : UInt8) : Bool := byte == 0x20 || byte == 0x09 || byte == 0x0A
  let inner := ((bytes.dropWhile isBlank).reverse.dropWhile isBlank).reverse
  match inner with
  | 0x2D :: rest => (natural? rest).map fun value => -(value : Int)
  | 0x2B :: rest => (natural? rest).map fun value => (value : Int)
  | rest => (natural? rest).map fun value => (value : Int)

/-- The nanoseconds that a number of seconds, minutes, hours or days spells. -/
def pause? (bytes : Bytes) : Option Nat :=
  let (body, unit) : Bytes × Nat :=
    match bytes.getLast? with
    | some 0x73 => (bytes.dropLast, 1)
    | some 0x6D => (bytes.dropLast, 60)
    | some 0x68 => (bytes.dropLast, 3600)
    | some 0x64 => (bytes.dropLast, 86400)
    | _ => (bytes, 1)
  let whole := body.takeWhile isDigitByte
  let fraction? : Option Bytes := match body.drop whole.length with
    | [] => some []
    | 0x2E :: rest => if rest.all isDigitByte then some rest else none
    | _ => none
  match fraction? with
  | none => none
  | some fraction =>
    if whole = [] && fraction = [] then none
    else
      let nine := (fraction ++ List.replicate 9 0x30).take 9
      some ((digitsValue whole * 1000000000 + digitsValue nine) * unit)

/-- Whether a name comes before another or is equal to it, byte by byte. -/
def precedes : Bytes → Bytes → Bool
  | [], _ => true
  | _ :: _, [] => false
  | first :: rest, first' :: rest' =>
    if first = first' then precedes rest rest' else first < first'

/-- The lines of a byte string, each without its end. -/
def lines (bytes : Bytes) : List Bytes :=
  bytes.foldr (fun byte found =>
    if byte = 0x0A then [] :: found
    else match found with
      | [] => [[byte]]
      | line :: rest => (byte :: line) :: rest) []

/-- Byte strings with a separator between them. -/
def joined (separator : Bytes) : List Bytes → Bytes
  | [] => []
  | [single] => single
  | first :: rest => first ++ separator ++ joined separator rest

/-- Whether a byte is an octal digit. -/
def isOctal (byte : UInt8) : Bool :=
  0x30 ≤ byte && byte ≤ 0x37

/-- The byte that octal digits spell. -/
def octalByte (digits : Bytes) : UInt8 :=
  UInt8.ofNat (digits.foldl (fun value digit => value * 8 + (digit.toNat - 48)) 0)

/-- The byte that a letter after a backslash stands for. -/
def escaped? (byte : UInt8) : Option UInt8 :=
  [(0x61, 7), (0x62, 8), (0x66, 12), (0x6E, 10), (0x72, 13), (0x74, 9), (0x76, 11),
    (0x5C, 0x5C)].lookup byte

/-- The bytes that a text with escapes stands for, and whether the rest of the output is dropped.
With `zero`, octal digits follow a zero. -/
def unescaped (steps : Nat) (zero : Bool) (bytes : Bytes) : Bytes × Bool :=
  match steps, bytes with
  | 0, _ => ([], false)
  | _, [] => ([], false)
  | more + 1, 0x5C :: byte :: rest =>
    let andThen (found : UInt8) (after : Bytes) : Bytes × Bool :=
      let tail := unescaped more zero after
      (found :: tail.1, tail.2)
    if byte = 0x63 then ([], true)
    else
      match escaped? byte with
      | some found => andThen found rest
      | none =>
        if zero && byte = 0x30 then
          let digits := (rest.take 3).takeWhile isOctal
          andThen (octalByte digits) (rest.drop digits.length)
        else if !zero && isOctal byte then
          let digits := ((byte :: rest).take 3).takeWhile isOctal
          andThen (octalByte digits) ((byte :: rest).drop digits.length)
        else if !zero && (byte = 0x22 || byte = 0x27) then andThen byte rest
        else
          let tail := unescaped more zero (byte :: rest)
          (0x5C :: tail.1, tail.2)
  | more + 1, byte :: rest =>
    let tail := unescaped more zero rest
    (byte :: tail.1, tail.2)

/-- What is written for the arguments of `echo`. -/
def echoed (arguments : List Bytes) : Bytes :=
  let isBare := arguments.head? == some (Bytes.ofText "-n")
  let text := joined [0x20] (if isBare then arguments.drop 1 else arguments)
  let (bytes, cut) :=
    if text.contains 0x5C then unescaped text.length true text else (text, false)
  if isBare || cut then bytes else bytes ++ [0x0A]

/-! ### Formats -/

/-- What a directive of a format asks for. -/
structure Directive where
  left : Bool
  zeros : Bool
  plus : Bool
  width : Nat
  precision? : Option Nat
  conversion : UInt8
  deriving DecidableEq, Repr

/-- The directive after a percent sign, and what follows it. -/
def directive? (bytes : Bytes) : Option (Directive × Bytes) :=
  let flags := bytes.takeWhile fun byte => (Bytes.ofText "-+ 0#").contains byte
  let rest := bytes.drop flags.length
  let width := rest.takeWhile isDigitByte
  let rest := rest.drop width.length
  let (precision?, rest) : Option Nat × Bytes :=
    match rest with
    | 0x2E :: rest =>
      let digits := rest.takeWhile isDigitByte
      (some (digitsValue digits), rest.drop digits.length)
    | rest => (none, rest)
  match rest with
  | [] => none
  | conversion :: after =>
    some (⟨flags.contains 0x2D, flags.contains 0x30, flags.contains 0x2B, digitsValue width,
      precision?, conversion⟩, after)

/-- A text with blanks or zeros up to a width. -/
def Directive.fill (directive : Directive) (number : Bool) (text : Bytes) : Bytes :=
  let missing := directive.width - text.length
  if directive.left then text ++ List.replicate missing 0x20
  else if number && directive.zeros then
    match text with
    | 0x2D :: digits => 0x2D :: List.replicate missing 0x30 ++ digits
    | digits => List.replicate missing 0x30 ++ digits
  else List.replicate missing 0x20 ++ text

/-- The digits of a natural in a base up to sixteen; `ten` is the digit for ten. -/
def digitsIn (base : Nat) (ten : UInt8) (steps : Nat) (value : Nat) (rest : Bytes) : Bytes :=
  match steps with
  | 0 => rest
  | more + 1 =>
    let digit := value % base
    let byte := if digit < 10 then UInt8.ofNat (48 + digit) else ten + UInt8.ofNat (digit - 10)
    if value < base then byte :: rest else digitsIn base ten more (value / base) (byte :: rest)

/-- The text of a directive for an argument; the flag tells whether the argument fits, the last one
whether the rest of the output is dropped. -/
def Directive.text (directive : Directive) (argument : Bytes) : Bytes × Bool × Bool :=
  let cut (text : Bytes) : Bytes :=
    match directive.precision? with
    | some precision => text.take precision
    | none => text
  let number (shown : Int → Bytes) : Bytes × Bool × Bool :=
    let value? : Option Int := if argument = [] then some 0 else integer? argument
    (directive.fill true (shown (value?.getD 0)), value?.isSome, false)
  let inBase (base : Nat) (ten : UInt8) : Bytes × Bool × Bool :=
    number fun value => digitsIn base ten 64 value.toNat []
  if directive.conversion = 0x73 then (directive.fill false (cut argument), true, false)
  else if directive.conversion = 0x62 then
    let (bytes, isCut) := unescaped argument.length true argument
    (directive.fill false (cut bytes), true, isCut)
  else if directive.conversion = 0x63 then (directive.fill false (argument.take 1), true, false)
  else if (Bytes.ofText "diu").contains directive.conversion then
    number fun value =>
      let digits := numeralBytes value
      if directive.plus && 0 ≤ value then 0x2B :: digits else digits
  else if directive.conversion = 0x78 then inBase 16 0x61
  else if directive.conversion = 0x58 then inBase 16 0x41
  else if directive.conversion = 0x6F then inBase 8 0x61
  else ([], false, false)

/-- Goes through a format once: the bytes, the arguments left, whether any was taken, whether all
was well, and whether the rest of the output is dropped. -/
def formatOnce (steps : Nat) (format : Bytes) (arguments : List Bytes) (used fine : Bool) :
    Bytes × List Bytes × Bool × Bool × Bool :=
  match steps, format with
  | 0, _ => ([], arguments, used, fine, false)
  | _, [] => ([], arguments, used, fine, false)
  | more + 1, 0x25 :: 0x25 :: rest =>
    let tail := formatOnce more rest arguments used fine
    (0x25 :: tail.1, tail.2)
  | more + 1, 0x25 :: rest =>
    match directive? rest with
    | none => ([], arguments, used, false, true)
    | some (directive, after) =>
      let (text, fits, cut) := directive.text (arguments.head?.getD [])
      if cut then (text, [], true, fine, true)
      else
        let tail := formatOnce more after (arguments.drop 1) true (fine && fits)
        (text ++ tail.1, tail.2)
  | more + 1, 0x5C :: rest =>
    let piece := 0x5C :: rest.take 1
    let octal := (rest.take 3).takeWhile isOctal
    let length := if octal = [] then 1 else octal.length
    let (bytes, cut) := unescaped 4 false (if octal = [] then piece else 0x5C :: octal)
    if cut then ([], [], used, fine, true)
    else
      let tail := formatOnce more (rest.drop length) arguments used fine
      (bytes ++ tail.1, tail.2)
  | more + 1, byte :: rest =>
    let tail := formatOnce more rest arguments used fine
    (byte :: tail.1, tail.2)

/-- What is written for a format and its arguments: the format is used again as long as arguments
are left. -/
def formatted (steps : Nat) (format : Bytes) (arguments : List Bytes) : Bytes × Bool :=
  match steps with
  | 0 => ([], true)
  | more + 1 =>
    let (bytes, left, used, fine, cut) := formatOnce format.length format arguments false true
    if cut || !used || left = [] then (bytes, fine)
    else
      let tail := formatted more format left
      (bytes ++ tail.1, fine && tail.2)

end CalcBuild.Script

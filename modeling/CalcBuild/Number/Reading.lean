/-
**Reading decimal numerals.**

A numeral is a sequence of digits, perhaps after a plus sign, whose value is at most a given limit.
The digits are read from left to right, and the first one that does not fit decides what is wrong.

* `readDigits`: the value of the digits after those that have been read;
* `readNumeral`: the value of a numeral.
-/

import CalcBuild.Text.Utf8

namespace CalcBuild.Number

/-- What is wrong with a text that should be a numeral. -/
inductive NumeralFault where
  | nothing
  | badDigit
  | tooLarge
  deriving DecidableEq, Repr

/-- The wording of a fault. -/
def NumeralFault.message : NumeralFault → String
  | .nothing => "cannot parse integer from empty string"
  | .badDigit => "invalid digit found in string"
  | .tooLarge => "number too large to fit in target type"

/-- The value of a digit. -/
def digitValue? (byte : UInt8) : Option Nat :=
  if 0x30 ≤ byte && byte ≤ 0x39 then some (byte.toNat - 0x30) else none

/-- Reads digits after others whose value is `value`. -/
def readDigits (limit value : Nat) : Bytes → Except NumeralFault Nat
  | [] => .ok value
  | byte :: rest =>
    match digitValue? byte with
    | none => .error .badDigit
    | some digit =>
      if limit < value * 10 + digit then .error .tooLarge
      else readDigits limit (value * 10 + digit) rest

/-- The sign that may stand before the digits. -/
def plus : UInt8 := 0x2B

/-- The value of a numeral: at least one digit, perhaps after a plus sign. -/
def readNumeral (limit : Nat) (text : Bytes) : Except NumeralFault Nat :=
  match text with
  | [] => .error .nothing
  | [byte] => readDigits limit 0 [byte]
  | byte :: rest => readDigits limit 0 (if byte = plus then rest else byte :: rest)

end CalcBuild.Number

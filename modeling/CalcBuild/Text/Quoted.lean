/-
**Quoted byte strings.**

Some messages show a path between double quotes. Characters that would not show are written as
escapes, and bytes outside every character as two hexadecimal digits.
-/

import CalcBuild.Text.Utf8
import CalcBuild.Text.Visible

namespace CalcBuild.Text

/-- The character of a hexadecimal digit; `ten` is the character for ten. -/
def hexDigit (ten : Char) (value : Nat) : Char :=
  if value < 10 then Char.ofNat (48 + value) else Char.ofNat (ten.toNat + (value - 10))

/-- The hexadecimal digits of a natural, the highest first, in front of a list. -/
def hexOnto (value : Nat) (rest : List Char) : List Char :=
  if value < 16 then hexDigit 'a' value :: rest
  else hexOnto (value / 16) (hexDigit 'a' (value % 16) :: rest)
termination_by value
decreasing_by omega

/-- The hexadecimal digits of a natural, the highest first. -/
def hexDigits (value : Nat) : List Char :=
  hexOnto value []

/-- A character between double quotes: backslashes and double quotes are escaped, the usual control characters
have a letter, and every other character that would not show is written by its number. -/
def quotedChar (c : Char) : List Char :=
  match c.toNat with
  | 0x00 => ['\\', '0']
  | 0x09 => ['\\', 't']
  | 0x0A => ['\\', 'n']
  | 0x0D => ['\\', 'r']
  | 0x22 => ['\\', c]
  | 0x5C => ['\\', c]
  | code => if isVisible c then [c] else ['\\', 'u', '\x7b'] ++ hexDigits code ++ ['\x7d']

/-- A byte outside every character. -/
def quotedByte (byte : UInt8) : List Char :=
  ['\\', 'x', hexDigit 'A' (byte.toNat / 16), hexDigit 'A' (byte.toNat % 16)]

/-- A piece between quotes. -/
def quotedPiece : Utf8.Piece → List Char
  | .char c => quotedChar c
  | .broken bytes => bytes.flatMap quotedByte

/-- A byte string between double quotes. -/
def quoted (bytes : Bytes) : String :=
  String.ofList ('"' :: (Utf8.pieces bytes).flatMap quotedPiece ++ ['"'])

end CalcBuild.Text

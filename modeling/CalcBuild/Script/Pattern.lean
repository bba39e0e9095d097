/-
**Patterns.**

A pattern describes byte strings: bytes stand for themselves, a star for any bytes, a question mark
for one, and brackets for one of several.

* `Pattern.fits`: whether a pattern describes a byte string;
* `Pattern.withoutSuffix`, `Pattern.withoutPrefix`: what is left when a part that fits is cut off.
-/

import CalcBuild.Text.Utf8

namespace CalcBuild.Script

/-- One element of a pattern. -/
inductive Glyph where
  | exactly (byte : UInt8)
  | one
  | many
  /-- One byte in one of the ranges, or in none of them. -/
  | among (negated : Bool) (ranges : List (UInt8 × UInt8))
  deriving DecidableEq, Repr

/-- A byte of a word, and whether it was quoted and so stands for itself. -/
structure Letter where
  byte : UInt8
  isQuoted : Bool
  deriving DecidableEq, Repr

/-- A pattern: its elements in order. -/
abbrev Pattern := List Glyph

namespace Pattern

/-- The ranges between brackets: bytes, and pairs of bytes with a hyphen in between. -/
def ranges : List UInt8 → List (UInt8 × UInt8)
  | low :: 0x2D :: high :: rest => (low, high) :: ranges rest
  | byte :: rest => (byte, byte) :: ranges rest
  | [] => []

/-- The letters between brackets, after the opening one, and what follows the closing one. A bracket
that closes stands for itself directly after the opening one. -/
def bracket? (letters : List Letter) : Option (Glyph × List Letter) :=
  let isNegation (letter : Letter) : Bool :=
    !letter.isQuoted && (letter.byte == 0x21 || letter.byte == 0x5E)
  let isClosing (letter : Letter) : Bool := !letter.isQuoted && letter.byte == 0x5D
  let negated := (letters.head?.map isNegation).getD false
  let rest := if negated then letters.drop 1 else letters
  let first := rest.take 1
  let tail := rest.drop 1
  let inner := first ++ tail.takeWhile (!isClosing ·)
  match tail.dropWhile (!isClosing ·) with
  | [] => none
  | _ :: after => some (.among negated (ranges (inner.map (·.byte))), after)

/-- The pattern that letters spell, at most `steps` elements of it. -/
def within (steps : Nat) (letters : List Letter) : Pattern :=
  match steps, letters with
  | 0, _ => []
  | _, [] => []
  | more + 1, letter :: rest =>
    if letter.isQuoted then .exactly letter.byte :: within more rest
    else if letter.byte = 0x2A then .many :: within more rest
    else if letter.byte = 0x3F then .one :: within more rest
    else if letter.byte = 0x5B then
      match bracket? rest with
      | some (glyph, after) => glyph :: within more after
      | none => .exactly letter.byte :: within more rest
    else .exactly letter.byte :: within more rest

/-- The pattern that letters spell. -/
def ofLetters (letters : List Letter) : Pattern :=
  within letters.length letters

/-- Whether a pattern has an element other than bytes. -/
def isWild (pattern : Pattern) : Bool :=
  pattern.any fun glyph =>
    match glyph with
    | .exactly _ => false
    | _ => true

/-- Whether an element that stands for one byte stands for this one. -/
def Glyph.covers (glyph : Glyph) (byte : UInt8) : Bool :=
  match glyph with
  | .exactly own => own == byte
  | .one => true
  | .many => false
  | .among negated ranges =>
    (ranges.any fun range => range.1 ≤ byte && byte ≤ range.2) != negated

/-- Whether a pattern describes a byte string. -/
def fits : Pattern → Bytes → Bool
  | [], bytes => bytes.isEmpty
  | .many :: pattern, [] => fits pattern []
  | .many :: pattern, byte :: rest =>
    fits pattern (byte :: rest) || fits (.many :: pattern) rest
  | _ :: _, [] => false
  | glyph :: pattern, byte :: rest => Glyph.covers glyph byte && fits pattern rest
termination_by pattern bytes => pattern.length + bytes.length

/-- The numbers from zero to a bound, upward or downward. -/
def lengths (upward : Bool) (bound : Nat) : List Nat :=
  if upward then List.range (bound + 1) else (List.range (bound + 1)).reverse

/-- A byte string without the longest or shortest part at its end that fits. -/
def withoutSuffix (pattern : Pattern) (longest : Bool) (bytes : Bytes) : Bytes :=
  match (lengths longest bytes.length).find? fun kept => fits pattern (bytes.drop kept) with
  | some kept => bytes.take kept
  | none => bytes

/-- A byte string without the longest or shortest part at its start that fits. -/
def withoutPrefix (pattern : Pattern) (longest : Bool) (bytes : Bytes) : Bytes :=
  match (lengths (!longest) bytes.length).find? fun cut => fits pattern (bytes.take cut) with
  | some cut => bytes.drop cut
  | none => bytes

end Pattern

end CalcBuild.Script

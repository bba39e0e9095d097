/-
**Double-precision numbers as exact fractions.**

A finite double is a natural mantissa times a power of two. Everything here is computed on naturals:
reading the bits, rounding a quotient to the nearest double, and the fewest decimal digits that read
back to a double.

* `Pattern.ofBits`: sign and magnitude of a bit pattern;
* `Magnitude.nearest`: the double nearest to a quotient, ties to the even mantissa;
* `Magnitude.shortest`: the shortest decimal in the interval that rounds to the double, the nearest
  of those of that length.
-/

import CalcBuild.Number.Decimal

namespace CalcBuild.Number

/-- The finite magnitude `mantissa * 2 ^ exponent`. -/
structure Magnitude where
  mantissa : Nat
  exponent : Int
  deriving DecidableEq, Repr

/-- What the bits below the sign say. -/
inductive Reading where
  | finite (magnitude : Magnitude)
  | infinite
  | notANumber
  deriving DecidableEq, Repr

/-- Sign and reading of a bit pattern. -/
structure Pattern where
  negative : Bool
  reading : Reading
  deriving DecidableEq, Repr

/-- Bit 63 is the sign, the next eleven the biased exponent, the last 52 the fraction. -/
def Pattern.ofBits (bits : UInt64) : Pattern :=
  let word := bits.toNat
  let fraction := word % Nat.pow 2 52
  let biased : Nat := word / Nat.pow 2 52 % Nat.pow 2 11
  { negative := word / Nat.pow 2 63 % 2 == 1
    reading :=
      if biased = 2047 then (if fraction = 0 then .infinite else .notANumber)
      else if biased = 0 then .finite ⟨fraction, -1074⟩
      else .finite ⟨Nat.pow 2 52 + fraction, (biased : Int) - 1075⟩ }

/-- Numerator and denominator of a magnitude. -/
def Magnitude.fraction (value : Magnitude) : Nat × Nat :=
  (value.mantissa * Nat.pow 2 value.exponent.toNat, Nat.pow 2 (-value.exponent).toNat)

/-- The mantissa nearest to a quotient at a given exponent. -/
def mantissaAt (num den : Nat) (exponent : Int) : Nat :=
  roundEven (num * Nat.pow 2 (-exponent).toNat) (den * Nat.pow 2 exponent.toNat)

/-- The double nearest to a quotient that is no larger than the largest double. The exponent is the
one that gives the mantissa 53 bits, or the least one. -/
def Magnitude.nearest (num den : Nat) : Magnitude :=
  if num = 0 then ⟨0, -1074⟩
  else
    let guess : Int := (Nat.log2 num : Int) - (Nat.log2 den : Int) - 53
    let floor := num * Nat.pow 2 (-guess).toNat / (den * Nat.pow 2 guess.toNat)
    let exponent := max (-1074) (if Nat.pow 2 53 ≤ floor then guess + 1 else guess)
    let mantissa := mantissaAt num den exponent
    if mantissa = Nat.pow 2 53 then ⟨Nat.pow 2 52, exponent + 1⟩ else ⟨mantissa, exponent⟩

/-- The sum of two doubles, rounded once. -/
def Magnitude.add (first second : Magnitude) : Magnitude :=
  let (num, den) := first.fraction
  let (num', den') := second.fraction
  Magnitude.nearest (num * den' + num' * den) (den * den')

/-- The decimal `digits * 10 ^ exponent`. -/
structure Decimal where
  digits : Nat
  exponent : Int
  deriving DecidableEq, Repr

/-- Numerator and denominator of a decimal. -/
def Decimal.fraction (value : Decimal) : Nat × Nat :=
  (value.digits * Nat.pow 10 value.exponent.toNat, Nat.pow 10 (-value.exponent).toNat)

/-- Whether a decimal lies in the interval of the numbers that round to a magnitude. The interval
reaches half way to both neighbours; its ends belong to it when the mantissa is even. -/
def Decimal.readsBack (value : Decimal) (target : Magnitude) : Bool :=
  let (num, den) := value.fraction
  let (scale, unit) := Magnitude.fraction ⟨1, target.exponent - 2⟩
  let low := if target.mantissa = Nat.pow 2 52 then 4 * target.mantissa - 1 else 4 * target.mantissa - 2
  let high := 4 * target.mantissa + 2
  let at4 := num * unit
  let lowEnd := low * scale * den
  let highEnd := high * scale * den
  if target.mantissa % 2 = 0 then lowEnd ≤ at4 && at4 ≤ highEnd else lowEnd < at4 && at4 < highEnd

/-- The decimal point: the least `k` (counted up from `from`) with `num / den < 10 ^ k`. -/
def pointFrom (num den : Nat) (steps : Nat) (start : Int) : Int :=
  match steps with
  | 0 => start
  | more + 1 =>
    if num * Nat.pow 10 (-start).toNat < den * Nat.pow 10 start.toNat then start
    else pointFrom num den more (start + 1)

/-- The best of the two decimals of a grid beside a magnitude, if one reads back; the nearer one
wins, and on a tie the larger. -/
def Magnitude.onGrid (value : Magnitude) (exponent : Int) : Option Decimal :=
  let (num, den) := value.fraction
  let top := num * Nat.pow 10 (-exponent).toNat
  let bottom := den * Nat.pow 10 exponent.toNat
  let below : Decimal := ⟨top / bottom, exponent⟩
  let above : Decimal := ⟨top / bottom + 1, exponent⟩
  match below.readsBack value, above.readsBack value with
  | true, true => some (if 2 * (top % bottom) < bottom then below else above)
  | true, false => some below
  | false, true => some above
  | false, false => none

/-- The first grid, from one digit on, with a decimal that reads back. -/
def Magnitude.firstGrid (value : Magnitude) (point : Int) (digits : Nat) (steps : Nat) :
    Option Decimal :=
  match steps with
  | 0 => none
  | more + 1 =>
    match value.onGrid (point - digits) with
    | some found => some found
    | none => value.firstGrid point (digits + 1) more

/-- The shortest decimal that reads back to a magnitude; seventeen digits always do. -/
def Magnitude.shortest (value : Magnitude) : Decimal :=
  if value.mantissa = 0 then ⟨0, 0⟩
  else
    let (num, den) := value.fraction
    let point := pointFrom num den 700 (-330)
    (value.firstGrid point 1 17).getD ⟨num, 0⟩

/-- A decimal written without exponent: zeros up to the point, a point only before a fraction that
is not zero. -/
def Decimal.positional (value : Decimal) : List Char :=
  match value.exponent with
  | .ofNat zeros => if value.digits = 0 then ['0'] else
      Number.digits value.digits ++ List.replicate zeros '0'
  | .negSucc places =>
    let scale := Nat.pow 10 (places + 1)
    let fraction := value.digits % scale
    let whole := Number.digits (value.digits / scale)
    if fraction = 0 then whole
    else
      let shown := (padded (places + 1) fraction).reverse.dropWhile (· == '0')
      whole ++ '.' :: shown.reverse

end CalcBuild.Number

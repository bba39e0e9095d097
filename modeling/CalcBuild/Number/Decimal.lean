/-
**Decimal numerals.**

Naturals and integers written in base ten, without superfluous zeros, and the rounding of a quotient
to the nearest integer.

* `numeral`, `signed`: the numeral of a natural and of an integer;
* `padded`: a numeral widened with zeros on the left;
* `roundEven`: the integer nearest to a quotient, ties to the even one;
* `fixedPlaces`: a decimal with a set number of places.
-/

namespace CalcBuild.Number

/-- The character of a digit below ten. -/
def digit (value : Nat) : Char :=
  Char.ofNat (48 + value % 10)

/-- Puts the digits of a natural in front of a list. -/
def digitsOnto (value : Nat) (rest : List Char) : List Char :=
  if value < 10 then digit value :: rest
  else digitsOnto (value / 10) (digit (value % 10) :: rest)
termination_by value
decreasing_by omega

/-- The digits of a natural, the highest first. -/
def digits (value : Nat) : List Char :=
  digitsOnto value []

/-- The numeral of a natural. -/
def numeral (value : Nat) : String :=
  String.ofList (digits value)

/-- The numeral of an integer: a minus sign exactly before the negative ones. -/
def signed (value : Int) : String :=
  if value < 0 then "-" ++ numeral value.natAbs else numeral value.natAbs

/-- The digits of a natural with zeros in front up to a width. -/
def padded (width value : Nat) : List Char :=
  let shown := digits value
  List.replicate (width - shown.length) '0' ++ shown

/-- The integer nearest to a quotient; a tie goes to the even one. -/
def roundEven (num den : Nat) : Nat :=
  let below := num / den
  let twice := 2 * (num % den)
  if twice < den then below
  else if den < twice then below + 1
  else if below % 2 = 0 then below else below + 1

/-- The digits of `scaled / 10 ^ places`, with a point before the last `places` of them. -/
def fixedPlaces (places scaled : Nat) : List Char :=
  let scale := Nat.pow 10 places
  digits (scaled / scale) ++ '.' :: padded places (scaled % scale)

end CalcBuild.Number

/-
**Printing of the run-time support.**

The compiled programs print an integer as its numeral and a double with six places, each on a line
of its own.

* `printInteger`: the line of a 64-bit integer;
* `printDouble`: the line of a bit pattern; the decimal is the multiple of a millionth nearest to
  the exact value, ties to the even one.
-/

import CalcBuild.Number.Binary64

namespace CalcBuild.Number

/-- The line printed for a 64-bit integer. -/
def printInteger (value : Int64) : String :=
  signed value.toInt ++ "\n"

/-- The number of millionths nearest to a magnitude. -/
def millionths (value : Magnitude) : Nat :=
  let (num, den) := value.fraction
  roundEven (num * 1000000) den

/-- The text of what the bits below the sign say. -/
def Reading.text : Reading → List Char
  | .finite magnitude => fixedPlaces 6 (millionths magnitude)
  | .infinite => ['i', 'n', 'f']
  | .notANumber => ['n', 'a', 'n']

/-- The line printed for a double: a minus sign exactly if the sign bit is set. -/
def printDouble (bits : UInt64) : String :=
  let pattern := Pattern.ofBits bits
  let shown := pattern.reading.text
  String.ofList ((if pattern.negative then '-' :: shown else shown) ++ ['\n'])

end CalcBuild.Number

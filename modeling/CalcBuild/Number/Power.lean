/-
**Integer powers of the run-time support.**

The compiled programs raise 64-bit integers to integer powers by halving the exponent.

* `powerByHalves`: the recursion on a natural exponent;
* `power`: the function that programs call, with its answers for exponents and bases outside the
  recursion.
-/

namespace CalcBuild.Number

/-- The power with a natural exponent: the power with half the exponent, squared, times the base
once more if the exponent is odd. -/
def powerByHalves (base : Int64) (exponent : Nat) : Int64 :=
  if exponent = 0 then 1
  else if exponent = 1 then base
  else
    let half := powerByHalves base (exponent / 2)
    if exponent % 2 = 0 then half * half else half * half * base
termination_by exponent
decreasing_by omega

/-- The power of two 64-bit integers. A negative exponent, and zero to the zeroth, give -1; zero to
any other power gives 1. -/
def power (base exponent : Int64) : Int64 :=
  if exponent < 0 ∨ (base = 0 ∧ exponent = 0) then -1
  else if base = 0 then 1
  else powerByHalves base exponent.toInt.toNat

end CalcBuild.Number

/-
**Cancellation.**

A flag that keeps the first signal it is raised with. Signal zero leaves it lowered.
-/

namespace CalcBuild

/-- The signal that a build was asked to stop with; zero while there is none. -/
structure CancelFlag where
  signal : Int32
  deriving DecidableEq, Repr

namespace CancelFlag

/-- The flag at the start. -/
def lowered : CancelFlag := ⟨0⟩

/-- Raises the flag unless it is raised already. -/
def raise (flag : CancelFlag) (signal : Int32) : CancelFlag :=
  if flag.signal = 0 then ⟨signal⟩ else flag

/-- The signal of a raised flag. -/
def raised (flag : CancelFlag) : Option Int32 :=
  if flag.signal = 0 then none else some flag.signal

end CancelFlag

end CalcBuild

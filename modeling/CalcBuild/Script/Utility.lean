/-
**Utilities.**

The programs that scripts use on files and text.

* `Utility.table`: the programs by name;
* `Utility.find?`: the program of a name.
-/

import CalcBuild.Script.Utility.Files
import CalcBuild.Script.Utility.Modes
import CalcBuild.Script.Utility.Text
import CalcBuild.Script.Utility.Transfer

namespace CalcBuild.Script

namespace Utility

/-- Sleeps. -/
def sleep : Utility := fun shell name arguments next =>
  match arguments.mapM pause? with
  | some pauses => .sleeps (pauses.foldl (· + ·) 0) fun _ => next 0 shell
  | none =>
    if arguments.contains (text "infinity") then .hangs
    else complain shell name (text "invalid time interval") (next 1)

/-- Does nothing, with a given status. -/
def done (status : Nat) : Utility := fun shell _ _ next => next status shell

/-- The programs by name. -/
def table : List (String × Utility) :=
  [ ("cat", knowing "AbeEnstTuv" 1 cat), ("echo", echo), ("printf", printf), ("test", test),
    ("[", test), ("grep", knowing "cEFGhHilnoqsvwx" 2 grep), ("head", head), ("tail", tail),
    ("wc", knowing "clmw" 1 wc), ("sort", knowing "ru" 2 sort), ("basename", baseNameOf),
    ("dirname", dirNameOf), ("pwd", pwd), ("rm", knowing "dfiIrRv" 1 (needing "f" "missing operand" rm)),
    ("rmdir", knowing "pv" 1 (needing "" "missing operand" rmdir)), ("mkdir", knowing "pv" 1 (needing "" "missing operand" mkdir)),
    ("touch", knowing "acm" 1 (needing "" "missing file operand" touch)), ("ln", knowing "fnsTv" 1 (needing "" "missing file operand" ln)), ("chmod", chmod),
    ("cp", knowing "afpPrRv" 1 cp), ("mv", knowing "fnTv" 1 mv), ("ls", knowing "1aAdF" 2 ls),
    ("readlink", knowing "n" 1 readlink), ("tee", knowing "ai" 1 tee), ("sleep", sleep),
    ("seq", seq), ("sync", done 0), ("true", done 0), ("false", done 1) ]

/-- The program of a name. -/
def find? (name : Bytes) : Option Utility :=
  (table.find? fun row => Bytes.ofText row.1 = name).map (·.2)

end Utility

end CalcBuild.Script

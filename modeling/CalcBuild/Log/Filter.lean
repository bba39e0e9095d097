/-
**Which records are shown.**

A filter is a list of directives. A directive gives the least severe level that is shown, for all
parts of the driver or for those whose name begins with a given text. The directive with the longest
such text decides, and of two with the same text the later one.

* `Directive.read?`: a directive from its text: a level, a target, or both with an equals sign
  between;
* `Filter.read?`: a list of directives separated by commas;
* `Filter.shows`: whether a record is shown;
* `Filter.chosen`: the filter that a variable of the environment asks for, or the default one.
-/

import CalcBuild.Log.Record
import CalcBuild.Number.Reading
import CalcBuild.Text.Alphanumeric
import CalcBuild.Text.Blank
import CalcBuild.Text.Split

namespace CalcBuild.Log

/-- How much is shown: nothing, or everything down to a level. -/
inductive Threshold where
  | off
  | level (least : Level)
  deriving DecidableEq, Repr

namespace Threshold

/-- Whether a level is shown. -/
def allows : Threshold → Log.Level → Bool
  | .off, _ => false
  | .level least, shown => shown.rank ≤ least.rank

/-- All thresholds, in the order of their numbers. -/
def all : List Threshold :=
  [.off, .level .error, .level .warn, .level .info, .level .debug, .level .trace]

/-- The name of a threshold. -/
def name : Threshold → String
  | .off => "off"
  | .level least => String.ofList (least.text.toList.map Char.toLower)

/-- The threshold of a text: a number from zero, or a name in any mixture of cases. -/
def read? (text : List Char) : Option Threshold :=
  match Number.readNumeral (UInt64.size - 1) (Text.Utf8.encode text) with
  | .ok number => all[number]?
  | .error _ => all.find? fun threshold => threshold.name.toList == text.map Char.toLower

end Threshold

/-- How much is shown of the parts of the driver whose name begins with `target`, or of all. -/
structure Directive where
  target? : Option (List Char)
  threshold : Threshold
  deriving DecidableEq, Repr

namespace Directive

/-- Whether a character may begin a directive. -/
def mayBegin (c : Char) : Bool :=
  Text.isAlphanumeric c || c == '-' || c == ':' || c == '_'

/-- Directives that speak of spans and fields have brackets; they are not understood. -/
def isBracket (c : Char) : Bool :=
  c == '['

/-- The directive of a text. Blanks around the text are looked past for the first character and for
the place of the equals sign, but the parts are taken from the whole text, blanks included. -/
def read? (text : List Char) : Option Directive :=
  let inner := Text.trimBlank text
  let target := inner.takeWhile (· != '=')
  match inner with
  | [] => none
  | first :: _ =>
    if !mayBegin first || target.any isBracket then none
    else if target.length = inner.length then
      match Threshold.read? text with
      | some threshold => some ⟨none, threshold⟩
      | none => some ⟨some text, .level .trace⟩
    else
      let shown := text.drop (target.length + 1)
      if shown = [] then some ⟨some (text.take target.length), .level .trace⟩
      else
        (Threshold.read? shown).map fun threshold => ⟨some (text.take target.length), threshold⟩

/-- Whether a directive speaks of a part of the driver. -/
def covers (directive : Directive) (target : Target) : Bool :=
  match directive.target? with
  | none => true
  | some text => text.isPrefixOf target.text.toList

/-- How specific a directive is: the longer its text the more, and least without one. -/
def weight (directive : Directive) : Nat :=
  match directive.target? with
  | none => 0
  | some text => text.length + 1

end Directive

/-- Directives in the order in which they are given. -/
structure Filter where
  directives : List Directive
  deriving DecidableEq, Repr

namespace Filter

/-- The more specific of two directives; of two that are equally specific the later one. -/
def prefer (best? : Option Directive) (next : Directive) : Option Directive :=
  match best? with
  | none => some next
  | some best => if best.weight ≤ next.weight then some next else some best

/-- The directive that decides about a part of the driver. -/
def deciding? (filter : Filter) (target : Target) : Option Directive :=
  (filter.directives.filter (·.covers target)).foldl prefer none

/-- Whether a record of a level from a part of the driver is shown. -/
def admits (filter : Filter) (target : Target) (level : Level) : Bool :=
  match filter.deciding? target with
  | none => false
  | some directive => directive.threshold.allows level

/-- Whether a record is shown. -/
def shows (filter : Filter) (record : Record) : Bool :=
  filter.admits record.target record.level

/-- Whether the stage that a record belongs to is named in its line. The stage itself speaks with
the level of information. -/
def showsStage (filter : Filter) : Bool :=
  filter.admits .pipeline .info

/-- The filter of a list of directives separated by commas; empty parts do not count. Without any
directive only errors are shown. -/
def read? (text : List Char) : Option Filter :=
  let parts := (Text.splitAt ',' text).filter (· != [])
  if parts = [] then some ⟨[⟨none, .level .error⟩]⟩
  else (parts.mapM Directive.read?).map Filter.mk

/-- The texts that stand for all parts of the driver in the default filter: one for the builds and
one for the command line. -/
def defaultTargets : List String := ["calc_core", "calc_cli"]

/-- The filter when none is asked for: warnings, or with `verbose` everything down to debugging. -/
def standard (verbose : Bool) : Filter :=
  let threshold : Threshold := .level (if verbose then .debug else .warn)
  ⟨defaultTargets.map fun target => ⟨some target.toList, threshold⟩⟩

/-- The variable that asks for a filter. -/
def variableName : String := "RUST_LOG"

/-- The filter that the value of the variable asks for; a value that is no text or cannot be read
counts as none. -/
def chosen (value? : Option Bytes) (verbose : Bool) : Filter :=
  match value?.bind Text.Utf8.decode? with
  | none => standard verbose
  | some text => (read? text).getD (standard verbose)

end Filter

end CalcBuild.Log

/-
**A command is read back from its line.**

The line of a command is read as a shell reads words: blanks between words separate them, what stands
between single quotes is taken as it is, a backslash outside of quotes makes the next character an
ordinary one, and pieces without a blank between them are one word. A double quote is a character like
any other here. An argument is shown between quotes if it is empty or holds white space, and as it is
otherwise; so only in arguments of the second kind a quote or a backslash would be read as something
else.

* `Quotation.words?`: the words of a line;
* `wordsFrom?_plain`, `wordsFrom?_quoted`, `wordsFrom?_shown`: how a shown argument is read;
* `Command.Legible`: commands with nothing that would be read as something else;
* `line_read_back`: the main theorem.
-/

import CalcBuild.Build.Stage
import CalcBuild.Proofs.Text.Decoding

namespace CalcBuild

open Text (isBlank)
open Text.Utf8 (encode lossyChars lossyChars_encode)

namespace Quotation

/-! ### Reading words -/

/-- A single quote. -/
def quote : Char := Char.ofNat 39

/-- Where the reader of a line stands: between words, or in a word of which some characters have been
read, outside of quotes, between quotes, or after a backslash. -/
inductive Reading where
  | between
  | bare (word : List Char)
  | quoted (word : List Char)
  | escaped (word : List Char)

/-- Reads a character of a word outside of quotes. -/
def Reading.into (word : List Char) (c : Char) : Reading :=
  if c = quote then .quoted word else if c = '\\' then .escaped word else .bare (word ++ [c])

/-- The words of the rest of a line; none if it ends within quotes or after a backslash. -/
def wordsFrom? (separates : Char → Bool) : Reading → List Char → Option (List (List Char))
  | .between, [] => some []
  | .bare word, [] => some [word]
  | .quoted _, [] => none
  | .escaped _, [] => none
  | .between, c :: rest =>
    if separates c then wordsFrom? separates .between rest
    else wordsFrom? separates (.into [] c) rest
  | .bare word, c :: rest =>
    if separates c then (wordsFrom? separates .between rest).map (word :: ·)
    else wordsFrom? separates (.into word c) rest
  | .quoted word, c :: rest =>
    wordsFrom? separates (if c = quote then .bare word else .quoted (word ++ [c])) rest
  | .escaped word, c :: rest => wordsFrom? separates (.bare (word ++ [c])) rest

/-- The words of a line. Which characters separate them depends on the shell. -/
def words? (separates : Char → Bool) (line : List Char) : Option (List (List Char)) :=
  wordsFrom? separates .between line

/-- A character that is read as itself outside of quotes. -/
def IsOrdinary (c : Char) : Prop := c ≠ quote ∧ c ≠ '\\'

instance : DecidablePred IsOrdinary :=
  fun c => inferInstanceAs (Decidable (c ≠ quote ∧ c ≠ '\\'))

section Reading

variable {separates : Char → Bool}

theorem Reading.into_ordinary {word : List Char} {c : Char} (ordinary : IsOrdinary c) :
    Reading.into word c = .bare (word ++ [c]) := by
  rw [Reading.into, if_neg ordinary.1, if_neg ordinary.2]

/-- Characters that neither separate nor quote are read as they are. -/
theorem wordsFrom?_bare {chars : List Char}
    (plain : ∀ c ∈ chars, separates c = false ∧ IsOrdinary c) (word rest : List Char) :
    wordsFrom? separates (.bare word) (chars ++ rest)
      = wordsFrom? separates (.bare (word ++ chars)) rest := by
  induction chars generalizing word with
  | nil => simp
  | cons c chars ih =>
    obtain ⟨⟨inside, ordinary⟩, others⟩ := List.forall_mem_cons.mp plain
    rw [List.cons_append, wordsFrom?, inside, Reading.into_ordinary ordinary]
    simpa using ih others (word ++ [c])

/-- They are also where a word begins. -/
theorem wordsFrom?_plain {chars : List Char} (nonempty : chars ≠ [])
    (plain : ∀ c ∈ chars, separates c = false ∧ IsOrdinary c) (rest : List Char) :
    wordsFrom? separates .between (chars ++ rest) = wordsFrom? separates (.bare chars) rest := by
  cases chars with
  | nil => exact absurd rfl nonempty
  | cons c chars =>
    obtain ⟨⟨inside, ordinary⟩, others⟩ := List.forall_mem_cons.mp plain
    rw [List.cons_append, wordsFrom?, inside, Reading.into_ordinary ordinary]
    exact wordsFrom?_bare others [c] rest

/-- A shell separates words at white space only, and at the space. -/
structure Separates (separates : Char → Bool) : Prop where
  space : separates ' ' = true
  blank : ∀ c, separates c = true → isBlank c = true

theorem Separates.inside (shell : Separates separates) {c : Char} (solid : isBlank c = false) :
    separates c = false :=
  Bool.eq_false_iff.mpr fun apart => by simp [shell.blank c apart] at solid

/-- **What is shown between quotes is read as it was.** -/
theorem wordsFrom?_quoted (shell : Separates separates) (chars word rest : List Char) :
    wordsFrom? separates (.quoted word) (chars.flatMap Command.quoteInside ++ quote :: rest)
      = wordsFrom? separates (.bare (word ++ chars)) rest := by
  have solid : separates quote = false ∧ separates '\\' = false :=
    ⟨shell.inside (by decide), shell.inside (by decide)⟩
  induction chars generalizing word with
  | nil => simp [wordsFrom?]
  | cons c chars ih =>
    rw [List.flatMap_cons, List.append_assoc, List.append_cons word c chars]
    by_cases isQuote : c = quote
    · have inside : Command.quoteInside c = [quote, '\\', quote, quote] := by
        rw [isQuote]
        rfl
      -- The quote closes the text, stands on its own after a backslash, and opens the text again.
      have opens (word : List Char) : Reading.into word quote = .quoted word := if_pos rfl
      have escapes (word : List Char) : Reading.into word '\\' = .escaped word := rfl
      simp only [inside, List.cons_append, List.nil_append, wordsFrom?, if_true, solid,
        Bool.false_eq_true, if_false, opens, escapes]
      rw [ih, isQuote]
    · have inside : Command.quoteInside c = [c] := if_neg isQuote
      simp only [inside, List.cons_append, List.nil_append, wordsFrom?, if_neg isQuote]
      exact ih _

/-- What an argument may hold: any text if it is shown between quotes, otherwise characters that are
read as themselves. -/
def IsLegible (chars : List Char) : Prop :=
  chars = [] ∨ (∃ c ∈ chars, isBlank c = true) ∨ ∀ c ∈ chars, IsOrdinary c

/-- **A shown argument is read as one word.** -/
theorem wordsFrom?_shown (shell : Separates separates) {chars : List Char} (legible : IsLegible chars)
    (rest : List Char) :
    wordsFrom? separates .between (Command.shownArgument (encode chars) ++ rest)
      = wordsFrom? separates (.bare chars) rest := by
  unfold Command.shownArgument
  rw [lossyChars_encode]
  by_cases quoted : (chars = [] || chars.any isBlank) = true
  · have opens : Reading.into [] quote = .quoted [] := rfl
    have solid : separates quote = false := shell.inside (by decide)
    have shown : Char.ofNat 39 :: chars.flatMap Command.quoteInside ++ [Char.ofNat 39] ++ rest
        = quote :: (chars.flatMap Command.quoteInside ++ quote :: rest) := by
      rw [List.append_assoc]
      rfl
    simp only [quoted, if_true, shown]
    rw [wordsFrom?, solid, opens]
    exact wordsFrom?_quoted shell chars [] rest
  · simp only [quoted]
    simp only [Bool.or_eq_true, decide_eq_true_eq, List.any_eq_true, not_or, not_exists, not_and,
      Bool.not_eq_true] at quoted
    obtain ⟨nonempty, solid⟩ := quoted
    have ordinary : ∀ c ∈ chars, IsOrdinary c := by
      rcases legible with empty | ⟨c, member, blank⟩ | ordinary
      · exact absurd empty nonempty
      · rw [solid c member] at blank
        cases blank
      · exact ordinary
    exact wordsFrom?_plain nonempty
      (fun c member => ⟨shell.inside (solid c member), ordinary c member⟩) rest

/-- **Shown arguments are read one after the other.** -/
theorem wordsFrom?_arguments (shell : Separates separates) {texts : List (List Char)}
    (legible : ∀ chars ∈ texts, IsLegible chars) (word : List Char) :
    wordsFrom? separates (.bare word)
        ((texts.map encode).flatMap fun argument => ' ' :: Command.shownArgument argument)
      = some (word :: texts) := by
  induction texts generalizing word with
  | nil => rfl
  | cons chars texts ih =>
    obtain ⟨first, others⟩ := List.forall_mem_cons.mp legible
    rw [List.map_cons, List.flatMap_cons, List.cons_append, wordsFrom?, shell.space, if_pos rfl,
      wordsFrom?_shown shell first, ih others]
    rfl

end Reading

end Quotation

/-! ### Commands -/

open Quotation

/-- A command whose program and arguments are text, in which nothing would be read as something else:
the program is one word, and outside of quotes no quote or backslash is shown. -/
structure Command.Legible (command : Command) : Prop where
  program : ∃ chars, command.program = encode chars ∧ chars ≠ [] ∧
    ∀ c ∈ chars, isBlank c = false ∧ IsOrdinary c
  arguments : ∀ argument ∈ command.arguments, ∃ chars, argument = encode chars ∧ IsLegible chars

theorem Command.Legible.words {command : Command} (legible : command.Legible)
    {separates : Char → Bool} (shell : Separates separates) :
    (words? separates command.line.toList).map (List.map encode)
      = some (command.program :: command.arguments) := by
  obtain ⟨chars, program, nonempty, plain⟩ := legible.program
  have texts : ∀ argument ∈ command.arguments,
      encode (lossyChars argument) = argument ∧ IsLegible (lossyChars argument) := by
    intro argument member
    obtain ⟨text, rfl, shown⟩ := legible.arguments argument member
    rw [lossyChars_encode]
    exact ⟨rfl, shown⟩
  have arguments : (command.arguments.map lossyChars).map encode = command.arguments := by
    rw [List.map_map]
    exact (List.map_congr_left fun argument member => (texts argument member).1).trans
      (List.map_id _)
  have line : command.line.toList = chars ++ ((command.arguments.map lossyChars).map encode).flatMap
      fun argument => ' ' :: Command.shownArgument argument := by
    rw [arguments, Command.line, String.toList_ofList, program, lossyChars_encode]
  have shown : ∀ text ∈ command.arguments.map lossyChars, IsLegible text := by
    intro text member
    obtain ⟨argument, listed, rfl⟩ := List.mem_map.mp member
    exact (texts argument listed).2
  rw [words?, line, wordsFrom?_plain nonempty fun c member =>
    ⟨shell.inside (plain c member).1, (plain c member).2⟩, wordsFrom?_arguments shell shown,
    Option.map_some, List.map_cons, arguments, program]

/-- **A command is read back from its line**: the words of the line are the program and the arguments,
whatever white space separates words. So commands with the same line run the same. -/
theorem line_read_back {separates : Char → Bool} (shell : Separates separates) (command : Command)
    (legible : command.Legible) :
    (words? separates command.line.toList).map (List.map encode)
        = some (command.program :: command.arguments) ∧
      ∀ other : Command, other.Legible → other.line = command.line →
        other.program = command.program ∧ other.arguments = command.arguments := by
  have read := legible.words shell
  refine ⟨read, fun other legible' same => ?_⟩
  have read' := legible'.words shell
  rw [same, read] at read'
  simpa [eq_comm] using read'

/-- A front end that is called with a text with quotes, a blank and a backslash, with nothing, and with
a text that has no blank. -/
def chatty : Command where
  stage := .frontendCompile
  program := encode ['/', 'c']
  arguments := [encode [quote, Char.ofNat 0x2003, '\\', quote, quote], encode [], encode ['-', 'o']]
  inputs := []
  output := []

/-- They are read back from its line, where spaces separate words. -/
theorem line_read_back_chatty : Separates (· = ' ') ∧ chatty.Legible ∧
    (words? (· = ' ') chatty.line.toList).map (List.map encode) = some [encode ['/', 'c'],
      encode [quote, Char.ofNat 0x2003, '\\', quote, quote], encode [], encode ['-', 'o']] := by
  have shell : Separates (· = ' ') := by
    refine ⟨rfl, fun c separates => ?_⟩
    obtain rfl : c = ' ' := of_decide_eq_true separates
    rfl
  have legible : chatty.Legible := by
    refine ⟨⟨_, rfl, by decide, List.forall_mem_cons.mpr ⟨by decide, List.forall_mem_singleton.mpr
      (by decide)⟩⟩, List.forall_mem_cons.mpr ⟨?_, List.forall_mem_cons.mpr ⟨⟨[], rfl, .inl rfl⟩,
      List.forall_mem_singleton.mpr ?_⟩⟩⟩
    · exact ⟨_, rfl, .inr (.inl ⟨Char.ofNat 0x2003, by decide, by decide⟩)⟩
    · exact ⟨_, rfl, .inr (.inr (List.forall_mem_cons.mpr ⟨by decide, List.forall_mem_singleton.mpr
        (by decide)⟩))⟩
  exact ⟨shell, legible, (line_read_back shell chatty legible).1⟩

end CalcBuild

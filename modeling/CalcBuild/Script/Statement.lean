/-
**Statements.**

A script is a list of statements: simple commands, pipelines, conditions, loops, choices and groups.
The words of a command are made of pieces, some of which are replaced when the command runs.

* `Piece`, `Redirection`, `Statement`: the parts of a script.
-/

import CalcBuild.Text.Utf8

namespace CalcBuild.Script

/-- What is done with the value of a parameter. Where a colon comes first, an empty value counts as
none. -/
inductive Operation where
  | value
  | size
  | orElse (colon : Bool)
  | orAssign (colon : Bool)
  | orFail (colon : Bool)
  | instead (colon : Bool)
  | cutSuffix (longest : Bool)
  | cutPrefix (longest : Bool)
  deriving DecidableEq, Repr

/-- How a redirection opens its file. -/
inductive Opening where
  | read
  | write
  | append
  /-- The word names another descriptor. -/
  | duplicate
  /-- The word is what is read. -/
  | text
  deriving DecidableEq, Repr

mutual

/-- A part of a word. -/
inductive Piece where
  | literal (quoted : Bool) (bytes : Bytes)
  | parameter (quoted : Bool) (name : Bytes) (operation : Operation) (word : List Piece)
  | output (quoted : Bool) (body : List Statement)
  | arithmetic (quoted : Bool) (word : List Piece)

/-- A descriptor and what it is made to refer to. -/
inductive Redirection where
  | mk (descriptor : Nat) (opening : Opening) (word : List Piece)

/-- A statement. -/
inductive Statement where
  | simple (line : Nat) (assignments : List (Bytes × List Piece)) (words : List (List Piece))
      (redirections : List Redirection)
  | pipeline (negated : Bool) (parts : List Statement)
  | both (first second : Statement)
  | either (first second : Statement)
  | group (body : List Statement) (redirections : List Redirection)
  | apart (body : List Statement) (redirections : List Redirection)
  | conditional (condition yes no : List Statement) (redirections : List Redirection)
  | loop (wanted : Bool) (condition body : List Statement) (redirections : List Redirection)
  | each (name : Bytes) (words? : Option (List (List Piece))) (body : List Statement)
      (redirections : List Redirection)
  | choice (word : List Piece) (cases : List (List (List Piece) × List Statement))
      (redirections : List Redirection)
  | definition (name : Bytes) (body : Statement)
  /-- A part that is not well formed. -/
  | malformed (line : Nat)

end

end CalcBuild.Script

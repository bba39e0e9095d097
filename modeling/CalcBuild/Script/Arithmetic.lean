/-
**Arithmetic in scripts.**

An expression is made of numbers, names of variables, operators and parentheses. Operators bind in
levels; those of one level are taken from left to right.

* `Arithmetic.value?`: the value of an expression; nothing if it is not well formed.
-/

import CalcBuild.Script.Value

namespace CalcBuild.Script.Arithmetic

/-- The operators of each level, those that bind least first; longer ones before their beginnings.
-/
def levels : List (List String) :=
  [["||"], ["&&"], ["==", "!="], ["<=", ">=", "<", ">"], ["+", "-"], ["*", "/", "%"]]

/-- What an operator gives for two values. -/
def combined? (operator : String) (a b : Int) : Option Int :=
  let truth (holds : Bool) : Option Int := some (if holds then 1 else 0)
  match operator with
  | "||" => truth (a ≠ 0 || b ≠ 0)
  | "&&" => truth (a ≠ 0 && b ≠ 0)
  | "==" => truth (a = b)
  | "!=" => truth (a ≠ b)
  | "<=" => truth (a ≤ b)
  | ">=" => truth (b ≤ a)
  | "<" => truth (a < b)
  | ">" => truth (b < a)
  | "+" => some (a + b)
  | "-" => some (a - b)
  | "*" => some (a * b)
  | "/" => if b = 0 then none else some (a.tdiv b)
  | "%" => if b = 0 then none else some (a.tmod b)
  | _ => none

/-- Skips blanks. -/
def skipGaps (bytes : Bytes) : Bytes :=
  bytes.dropWhile fun byte => byte == 0x20 || byte == 0x09 || byte == 0x0A

/-- The first of some operators that comes next, and what follows it. -/
def operator? (operators : List String) (bytes : Bytes) : Option (String × Bytes) :=
  match operators.find? fun operator => (Bytes.ofText operator).isPrefixOf bytes with
  | some operator => some (operator, bytes.drop (Bytes.ofText operator).length)
  | none => none

mutual

/-- The value of what operators of the first level and of those after it join. -/
def joined? (valueOf : Bytes → Option Bytes) (fuel : Nat) (levels : List (List String))
    (bytes : Bytes) : Option (Int × Bytes) :=
  match fuel with
  | 0 => none
  | fuel + 1 =>
    match levels with
    | [] => single? valueOf fuel (skipGaps bytes)
    | operators :: tighter =>
      match joined? valueOf fuel tighter bytes with
      | none => none
      | some (first, rest) => more? valueOf fuel operators tighter first rest

/-- The value of what is left of a level. -/
def more? (valueOf : Bytes → Option Bytes) (fuel : Nat) (operators : List String)
    (tighter : List (List String)) (first : Int) (bytes : Bytes) : Option (Int × Bytes) :=
  match fuel with
  | 0 => none
  | fuel + 1 =>
    match operator? operators (skipGaps bytes) with
    | none => some (first, bytes)
    | some (operator, rest) =>
      match joined? valueOf fuel tighter rest with
      | none => none
      | some (second, rest) =>
        match combined? operator first second with
        | none => none
        | some value => more? valueOf fuel operators tighter value rest

/-- The value of a number, a variable, a part in parentheses, or one of these after a sign. -/
def single? (valueOf : Bytes → Option Bytes) (fuel : Nat) (bytes : Bytes) :
    Option (Int × Bytes) :=
  match fuel with
  | 0 => none
  | fuel + 1 =>
    match bytes with
    | [] => none
    | 0x28 :: rest =>
      match joined? valueOf fuel levels rest with
      | none => none
      | some (value, rest) =>
        match skipGaps rest with
        | 0x29 :: rest => some (value, rest)
        | _ => none
    | 0x2D :: rest => (single? valueOf fuel (skipGaps rest)).map fun (value, rest) => (-value, rest)
    | 0x2B :: rest => single? valueOf fuel (skipGaps rest)
    | 0x21 :: rest =>
      (single? valueOf fuel (skipGaps rest)).map fun (value, rest) =>
        (if value = 0 then 1 else 0, rest)
    | byte :: _ =>
      let word := bytes.takeWhile isNameByte
      let rest := bytes.drop word.length
      if word = [] then none
      else if isDigitByte byte then (natural? word).map fun value => ((value : Int), rest)
      else
        match valueOf word with
        | none => some (0, rest)
        | some [] => some (0, rest)
        | some text => (integer? text).map fun value => (value, rest)

end

/-- The value of an expression over variables. -/
def value? (valueOf : Bytes → Option Bytes) (bytes : Bytes) : Option Int :=
  if skipGaps bytes = [] then some 0
  else
    match joined? valueOf (16 * bytes.length + 32) levels bytes with
    | some (value, rest) => if skipGaps rest = [] then some value else none
    | none => none

end CalcBuild.Script.Arithmetic

/-
**Conditions.**

The arguments of `test` are a condition on texts, numbers and files.

* `Token`: what an argument is, seen from the ones that follow it;
* `judge`: whether a condition holds, or what is wrong with it.

Conditions are read from the left. Every part is given the arguments from the one it begins with, and
gives them back from the last one it has used.
-/

import CalcBuild.Files.Lookup
import CalcBuild.Script.Value

namespace CalcBuild.Script.Condition

open Files

/-- Whether the mode of an entry allows something; a device can be read and written. -/
def mayDo (allows : Mode → Bool) : Entry → Bool
  | .directory mode => allows mode
  | .file mode _ => allows mode
  | .sink => allows 0o600
  | .link _ => false

/-- What an argument of a condition is. -/
inductive Token where
  | ends
  | operand
  | single (operator : Bytes)
  | joining (operator : Bytes)
  | negation
  | conjunction
  | disjunction
  | opening
  | closing
  deriving DecidableEq, Repr

/-- The operators on one argument. -/
def isSingle (word : Bytes) : Bool :=
  match word with
  | [0x2D, letter] => (Bytes.ofText "rwxefdcbpugkstznhOGSL").contains letter
  | _ => false

/-- The comparisons of numbers. -/
def comparison? (operator : Bytes) : Option (Int → Int → Bool) :=
  let table : List (String × (Int → Int → Bool)) :=
    [("-eq", fun a b => a = b), ("-ne", fun a b => a ≠ b), ("-lt", fun a b => a < b),
      ("-le", fun a b => a ≤ b), ("-gt", fun a b => b < a), ("-ge", fun a b => b ≤ a)]
  (table.find? fun row => Bytes.ofText row.1 = operator).map (·.2)

/-- Whether a word joins two arguments. -/
def isJoining (operator : Bytes) : Bool :=
  (comparison? operator).isSome ||
    ["=", "!=", "<", ">", "-nt", "-ot", "-ef"].any (Bytes.ofText · = operator)

/-- What the first of some arguments is. An operator on one argument is an operand if nothing
follows it, or if what follows joins it to a third argument. -/
def token (arguments : List Bytes) : Token :=
  match arguments with
  | [] => .ends
  | word :: rest =>
    let isOperand := match rest with
      | [] => true
      | [_] => false
      | next :: _ => isJoining next
    if isJoining word then .joining word
    else if isSingle word then if isOperand then .operand else .single word
    else if word = Bytes.ofText "!" then .negation
    else if word = Bytes.ofText "-a" then .conjunction
    else if word = Bytes.ofText "-o" then .disjunction
    else if word = Bytes.ofText "(" then if rest = [] then .operand else .opening
    else if word = Bytes.ofText ")" then .closing
    else .operand

/-- What is wrong with a word of a condition. -/
def wrong (word : Bytes) (words : String) : Bytes :=
  (if word = [] then [] else word ++ Bytes.ofText ": ") ++ Bytes.ofText words

/-- The number that an argument stands for. -/
def number (word : Bytes) : Except Bytes Int :=
  match integer? word with
  | some value => .ok value
  | none => .error (Bytes.ofText "Illegal number: " ++ word)

/-- Whether a condition on one argument holds. -/
def single (fs : FileSystem) (cwd : Place) (operator argument : Bytes) : Bool :=
  let found? := fs.status? cwd argument
  let isLink := match fs.find cwd false argument with
    | .ok (_, .link _) => true
    | _ => false
  if operator = Bytes.ofText "-n" then argument != []
  else if operator = Bytes.ofText "-z" then argument == []
  else if operator = Bytes.ofText "-e" then found?.isSome
  else if operator = Bytes.ofText "-r" then found?.any (mayDo Mode.mayRead)
  else if operator = Bytes.ofText "-w" then found?.any (mayDo Mode.mayWrite)
  else if operator = Bytes.ofText "-x" then found?.any (mayDo Mode.mayEnter)
  else if operator = Bytes.ofText "-f" then fs.isFile cwd argument
  else if operator = Bytes.ofText "-d" then fs.isDirectory cwd argument
  else if operator = Bytes.ofText "-h" || operator = Bytes.ofText "-L" then isLink
  else if operator = Bytes.ofText "-s" then
    match found? with
    | some (.file _ contents) => contents != []
    | some (.directory _) => true
    | _ => false
  else if operator = Bytes.ofText "-c" then found? == some .sink
  else if operator = Bytes.ofText "-O" || operator = Bytes.ofText "-G" then found?.isSome
  else false

/-- Whether a condition on two arguments holds. -/
def joined (fs : FileSystem) (cwd : Place) (first operator second : Bytes) : Except Bytes Bool :=
  match comparison? operator with
  | some compare => do return compare (← number first) (← number second)
  | none =>
    if operator = Bytes.ofText "=" then .ok (first == second)
    else if operator = Bytes.ofText "!=" then .ok (first != second)
    else if operator = Bytes.ofText "<" then .ok (precedes first second && first != second)
    else if operator = Bytes.ofText ">" then .ok (precedes second first && first != second)
    else if operator = Bytes.ofText "-ef" then
      match fs.find cwd true first, fs.find cwd true second with
      | .ok (place, _), .ok (place', _) => .ok (place == place')
      | _, _ => .ok false
    else .ok false

mutual

/-- One condition, which begins with a token that is known. -/
def primary (fs : FileSystem) (cwd : Place) (fuel : Nat) (first : Token) (arguments : List Bytes) :
    Except Bytes (Bool × List Bytes) :=
  match fuel with
  | 0 => .error []
  | fuel + 1 =>
    let rest := arguments.drop 1
    let word := arguments.head?.getD []
    match first with
    | .ends => .ok (false, arguments)
    | .opening =>
      if token rest = .closing then .ok (false, rest)
      else
        match disjunction fs cwd fuel (token rest) rest with
        | .error message => .error message
        | .ok (holds, used) =>
          if token (used.drop 1) = .closing then .ok (holds, used.drop 1)
          else .error (Bytes.ofText "closing paren expected")
    | .single operator =>
      match rest with
      | [] => .error (wrong operator "argument expected")
      | argument :: _ => .ok (single fs cwd operator argument, rest)
    | _ =>
      match token rest with
      | .joining operator =>
        match rest.drop 1 with
        | [] => .error (wrong operator "argument expected")
        | second :: after =>
          (joined fs cwd word operator second).map fun holds => (holds, second :: after)
      | _ => .ok (word != [], arguments)

/-- One condition, perhaps negated. -/
def negatable (fs : FileSystem) (cwd : Place) (fuel : Nat) (first : Token)
    (arguments : List Bytes) : Except Bytes (Bool × List Bytes) :=
  match fuel with
  | 0 => .error []
  | fuel + 1 =>
    if first = .negation then
      let rest := arguments.drop 1
      (negatable fs cwd fuel (token rest) (if rest = [] then arguments else rest)).map
        fun (holds, used) => (!holds, used)
    else primary fs cwd fuel first arguments

/-- Conditions that all have to hold. -/
def conjunction (fs : FileSystem) (cwd : Place) (fuel : Nat) (first : Token)
    (arguments : List Bytes) : Except Bytes (Bool × List Bytes) :=
  match fuel with
  | 0 => .error []
  | fuel + 1 =>
    match negatable fs cwd fuel first arguments with
    | .error message => .error message
    | .ok (holds, used) =>
      if token (used.drop 1) = .conjunction then
        (conjunction fs cwd fuel (token (used.drop 2)) (used.drop 2)).map
          fun (others, used) => (holds && others, used)
      else .ok (holds, used)

/-- Conditions of which one has to hold. -/
def disjunction (fs : FileSystem) (cwd : Place) (fuel : Nat) (first : Token)
    (arguments : List Bytes) : Except Bytes (Bool × List Bytes) :=
  match fuel with
  | 0 => .error []
  | fuel + 1 =>
    match conjunction fs cwd fuel first arguments with
    | .error message => .error message
    | .ok (holds, used) =>
      if token (used.drop 1) = .disjunction then
        (disjunction fs cwd fuel (token (used.drop 2)) (used.drop 2)).map
          fun (others, used) => (holds || others, used)
      else .ok (holds, used)

end

/-- Whether the condition that begins with a token holds; no more than one argument may be left. -/
def whole (fs : FileSystem) (cwd : Place) (first : Token) (arguments : List Bytes) :
    Except Bytes Bool :=
  match disjunction fs cwd (4 * arguments.length + 8) first arguments with
  | .error message => .error message
  | .ok (_, word :: _ :: _) =>
    .error (wrong word "unexpected operator")
  | .ok (holds, _) => .ok holds

/-- Whether a condition holds, or what is wrong with it. Up to four arguments are read in the way
that makes a condition of them if there is one. -/
def judge (fs : FileSystem) (cwd : Place) (arguments : List Bytes) : Except Bytes Bool :=
  let isThree := arguments.length = 3
  let isFew := isThree || arguments.length = 4
  match arguments with
  | [] => .ok false
  | first :: rest =>
    if isThree && isJoining (rest.head?.getD []) then whole fs cwd .operand arguments
    else if isFew && first = Bytes.ofText "(" && rest.getLast? = some (Bytes.ofText ")") then
      whole fs cwd (token rest.dropLast) rest.dropLast
    else if isFew && first = Bytes.ofText "!" then (judge fs cwd rest).map (!·)
    else whole fs cwd (token arguments) arguments

end CalcBuild.Script.Condition

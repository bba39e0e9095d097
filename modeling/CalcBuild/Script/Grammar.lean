/-
**The language of scripts.**

Reading goes from lists of statements down to the pieces of a word, and keeps the number of the line
for messages.

* `readPieces`, `readCommand`, `readList`: read a word, a command and a list of statements;
* `Statement.ofScript`: reads a script. A part that is not well formed becomes a statement that
  fails when it is reached, so what stands before it still runs.
-/

import CalcBuild.Script.Token

namespace CalcBuild.Script

mutual

/-- Reads pieces up to the end of the surroundings. -/
def readPieces (fuel lines : Nat) (around : Surroundings) (bytes : Bytes) :
    Option (List Piece × Bytes) :=
  match fuel with
  | 0 => none
  | fuel + 1 =>
    let quoted : Bool := match around with
      | .bare => false
      | .quotes => true
      | .braces quoted => quoted
      | .arithmetic => true
    let literally (count : Nat) (byte : UInt8) (asQuoted : Bool) : Option (List Piece × Bytes) :=
      (readPieces fuel lines around (bytes.drop count)).map fun (pieces, rest) =>
        (consByte asQuoted byte pieces, rest)
    let andThen (found : List Piece) (rest : Bytes) : Option (List Piece × Bytes) :=
      (readPieces fuel lines around rest).map fun (pieces, after) => (found ++ pieces, after)
    match bytes with
    | [] => if around = .bare then some ([], []) else none
    | byte :: rest =>
      if around = .bare && endsWord byte then some ([], bytes)
      else if around = .quotes && byte = 0x22 then some ([], rest)
      else if around = .arithmetic && [0x29, 0x29].isPrefixOf bytes then some ([], bytes.drop 2)
      else if (around = .braces false || around = .braces true) && byte = 0x7D then some ([], rest)
      else if byte = 0x5C then
        match rest with
        | [] => literally 1 byte quoted
        | 0x0A :: after => readPieces fuel lines around after
        | next :: _ =>
          if quoted && !(Bytes.ofText "$`\"\\").contains next &&
              !(around = .braces true && next = 0x7D) then
            literally 1 byte true
          else literally 2 next true
      else if byte = 0x24 then
        match readDollar fuel lines quoted rest with
        | some (piece, after) => andThen [piece] after
        | none => if parameterName rest = [] && !([0x7B].isPrefixOf rest) &&
            !([0x28].isPrefixOf rest) then literally 1 byte quoted else none
      else if byte = 0x60 then
        match backquoted rest with
        | none => none
        | some (text, after) =>
          let body := readScript fuel lines text
          andThen [.output quoted body] after
      else if byte = 0x22 && around != .arithmetic then
        match readPieces fuel lines .quotes rest with
        | none => none
        | some (pieces, after) => andThen (.literal true [] :: pieces) after
      else if byte = 0x27 && !quoted then
        let text := rest.takeWhile (· != 0x27)
        match rest.drop text.length with
        | [] => none
        | _ :: after => andThen [.literal true text] after
      else literally 1 byte quoted

/-- Reads what follows a dollar sign. -/
def readDollar (fuel lines : Nat) (quoted : Bool) (bytes : Bytes) : Option (Piece × Bytes) :=
  match fuel with
  | 0 => none
  | fuel + 1 =>
    match bytes with
    | 0x28 :: 0x28 :: rest =>
      (readPieces fuel lines .arithmetic rest).map fun (word, after) =>
        (.arithmetic quoted word, after)
    | 0x28 :: rest =>
      match readList fuel lines rest with
      | none => none
      | some (body, after) =>
        match skipLines after with
        | 0x29 :: after => some (.output quoted body, after)
        | _ => none
    | 0x7B :: 0x23 :: rest =>
      let name := parameterName rest
      match rest.drop name.length with
      | 0x7D :: after =>
        if name = [] then some (.parameter quoted [0x23] .value [], after)
        else some (.parameter quoted name .size [], after)
      | _ => none
    | 0x7B :: rest =>
      let name := parameterName rest
      if name = [] then none
      else
        let (operation, after) := operationOf (rest.drop name.length)
        let inner : Surroundings :=
          if operation.takesPattern then .braces false else .braces quoted
        match readPieces fuel lines inner after with
        | none => none
        | some (word, after) => some (.parameter quoted name operation word, after)
    | byte :: rest =>
      if isDigitByte byte then some (.parameter quoted [byte] .value [], rest)
      else
        let name := parameterName bytes
        if name = [] then none
        else some (.parameter quoted name .value [], bytes.drop name.length)
    | [] => none

/-- Reads the redirections that come next. -/
def readRedirections (fuel lines : Nat) (bytes : Bytes) : Option (List Redirection × Bytes) :=
  match fuel with
  | 0 => none
  | fuel + 1 =>
    let bytes := skipBlanks bytes
    match redirection? bytes with
    | none => some ([], bytes)
    | some (descriptor, opening, tabs, rest) =>
      match readPieces fuel lines .bare (skipBlanks rest) with
      | none => none
      | some ([], _) => none
      | some (word, after) =>
        if opening = .text then
          let head := after.takeWhile (· != 0x0A)
          let (text, tail) :=
            hereText after.length (literalBytes word) tabs (after.drop (head.length + 1))
          let body? : Option (List Piece) :=
            if isUnquoted word then
              (readPieces fuel lines .quotes (text ++ [0x22])).map (·.1)
            else some [.literal true text]
          match body?, readRedirections fuel lines (head ++ 0x0A :: tail) with
          | some body, some (more, after) => some (.mk descriptor .text body :: more, after)
          | _, _ => none
        else
          (readRedirections fuel lines after).map fun (more, after) =>
            (.mk descriptor opening word :: more, after)

/-- Reads the words of a command, with the redirections between them. -/
def readWords (fuel lines : Nat) (bytes : Bytes) :
    Option (List (List Piece) × List Redirection × Bytes) :=
  match fuel with
  | 0 => none
  | fuel + 1 =>
    match readRedirections fuel lines bytes with
    | none => none
    | some (redirections, rest) =>
      match rest with
      | [] => some ([], redirections, [])
      | byte :: _ =>
        if endsWord byte then some ([], redirections, rest)
        else
          match readPieces fuel lines .bare rest with
          | none => none
          | some (word, after) =>
            (readWords fuel lines after).map fun (words, more, after) =>
              (word :: words, redirections ++ more, after)

/-- Reads the assignments before a command, with the redirections between them. -/
def readAssignments (fuel lines : Nat) (bytes : Bytes) :
    Option (List (Bytes × List Piece) × List Redirection × Bytes) :=
  match fuel with
  | 0 => none
  | fuel + 1 =>
    match readRedirections fuel lines bytes with
    | none => none
    | some (redirections, rest) =>
      match assigned? rest with
      | none => some ([], redirections, rest)
      | some (name, value) =>
        match readPieces fuel lines .bare value with
        | none => none
        | some (word, after) =>
          (readAssignments fuel lines after).map fun (assignments, more, after) =>
            ((name, word) :: assignments, redirections ++ more, after)

/-- Reads the patterns before a closing parenthesis. -/
def readPatterns (fuel lines : Nat) (bytes : Bytes) : Option (List (List Piece) × Bytes) :=
  match fuel with
  | 0 => none
  | fuel + 1 =>
    match readPieces fuel lines .bare (skipBlanks bytes) with
    | none => none
    | some (pattern, after) =>
      match skipBlanks after with
      | 0x29 :: rest => some ([pattern], rest)
      | 0x7C :: rest =>
        (readPatterns fuel lines rest).map fun (patterns, after) => (pattern :: patterns, after)
      | _ => none

/-- Reads the cases of a choice, and the word that ends it. -/
def readCases (fuel lines : Nat) (bytes : Bytes) :
    Option (List (List (List Piece) × List Statement) × Bytes) :=
  match fuel with
  | 0 => none
  | fuel + 1 =>
    let bytes := skipLines bytes
    match expect? "esac" bytes with
    | some rest => some ([], rest)
    | none =>
      let start := match bytes with
        | 0x28 :: rest => rest
        | _ => bytes
      match readPatterns fuel lines start with
      | none => none
      | some (patterns, after) =>
        match readList fuel lines after with
        | none => none
        | some (body, after) =>
          let after := skipLines after
          match after with
          | 0x3B :: 0x3B :: rest =>
            (readCases fuel lines rest).map fun (cases, after) => ((patterns, body) :: cases, after)
          | _ => (expect? "esac" after).map fun rest => ([(patterns, body)], rest)

/-- Reads what follows the condition of a conditional, up to the word that ends it. -/
def readBranches (fuel lines : Nat) (bytes : Bytes) :
    Option (List Statement × List Statement × List Statement × Bytes) :=
  match fuel with
  | 0 => none
  | fuel + 1 => do
    let (condition, rest) ← readList fuel lines bytes
    let rest ← expect? "then" rest
    let (yes, rest) ← readList fuel lines rest
    let rest := skipLines rest
    if isNext "elif" rest then
      let (condition', yes', no', after) ← readBranches fuel lines (rest.drop 4)
      return (condition, yes, [.conditional condition' yes' no' []], after)
    else if isNext "else" rest then
      let (no, rest) ← readList fuel lines (rest.drop 4)
      let after ← expect? "fi" rest
      return (condition, yes, no, after)
    else
      let after ← expect? "fi" rest
      return (condition, yes, [], after)

/-- Reads one command. -/
def readCommand (fuel lines : Nat) (bytes : Bytes) : Option (Statement × Bytes) :=
  match fuel with
  | 0 => none
  | fuel + 1 =>
    let bytes := skipBlanks bytes
    let line := lines - bytes.count 0x0A
    let body (rest : Bytes) : Option (List Statement × Bytes) := do
      let rest ← expect? "do" rest
      let (body, rest) ← readList fuel lines rest
      let rest ← expect? "done" rest
      return (body, rest)
    match bytes with
    | 0x28 :: rest => do
      let (inner, rest) ← readList fuel lines rest
      match skipLines rest with
      | 0x29 :: rest =>
        let (redirections, rest) ← readRedirections fuel lines rest
        return (.apart inner redirections, rest)
      | _ => none
    | _ =>
      match reserved? bytes with
      | none => do
        let (assignments, before, rest) ← readAssignments fuel lines bytes
        let (words, after, rest) ← readWords fuel lines rest
        if assignments.isEmpty && words.isEmpty && before.isEmpty && after.isEmpty then none
        else
          match words, rest with
          | [word], 0x28 :: rest =>
            match skipBlanks rest with
            | 0x29 :: rest =>
              let (inner, rest) ← readCommand fuel lines (skipLines rest)
              return (.definition (literalBytes word) inner, rest)
            | _ => none
          | _, _ => return (.simple line assignments words (before ++ after), rest)
      | some (word, rest) => do
        if word = Bytes.ofText "if" then
          let (condition, yes, no, rest) ← readBranches fuel lines rest
          let (redirections, rest) ← readRedirections fuel lines rest
          return (.conditional condition yes no redirections, rest)
        else if word = Bytes.ofText "while" || word = Bytes.ofText "until" then
          let (condition, rest) ← readList fuel lines rest
          let (inner, rest) ← body rest
          let (redirections, rest) ← readRedirections fuel lines rest
          return (.loop (word = Bytes.ofText "while") condition inner redirections, rest)
        else if word = Bytes.ofText "for" then
          let rest := skipBlanks rest
          let name := rest.takeWhile isNameByte
          let rest := skipLines (rest.drop name.length)
          if !isName name then none
          else if rest.takeWhile isNameByte = Bytes.ofText "in" then
            let (words, _, rest) ← readWords fuel lines (rest.drop 2)
            let rest := match skipBlanks rest with
              | 0x3B :: rest => rest
              | rest => rest
            let (inner, rest) ← body rest
            let (redirections, rest) ← readRedirections fuel lines rest
            return (.each name (some words) inner redirections, rest)
          else
            let rest := match rest with
              | 0x3B :: rest => rest
              | rest => rest
            let (inner, rest) ← body rest
            let (redirections, rest) ← readRedirections fuel lines rest
            return (.each name none inner redirections, rest)
        else if word = Bytes.ofText "case" then
          let (subject, rest) ← readPieces fuel lines .bare (skipBlanks rest)
          let rest := skipLines rest
          if rest.takeWhile isNameByte = Bytes.ofText "in" then
            let (cases, rest) ← readCases fuel lines (rest.drop 2)
            let (redirections, rest) ← readRedirections fuel lines rest
            return (.choice subject cases redirections, rest)
          else none
        else if word = Bytes.ofText "\x7b" then
          let (inner, rest) ← readList fuel lines rest
          let rest ← expect? "\x7d" rest
          let (redirections, rest) ← readRedirections fuel lines rest
          return (.group inner redirections, rest)
        else none

/-- Reads commands joined by bars. -/
def readParts (fuel lines : Nat) (bytes : Bytes) : Option (List Statement × Bytes) :=
  match fuel with
  | 0 => none
  | fuel + 1 =>
    match readCommand fuel lines bytes with
    | none => none
    | some (first, rest) =>
      match skipBlanks rest with
      | 0x7C :: 0x7C :: after => some ([first], 0x7C :: 0x7C :: after)
      | 0x7C :: after =>
        (readParts fuel lines (skipLines after)).map fun (parts, rest) => (first :: parts, rest)
      | after => some ([first], after)

/-- Reads a pipeline, which may be negated. -/
def readPipeline (fuel lines : Nat) (bytes : Bytes) : Option (Statement × Bytes) :=
  match fuel with
  | 0 => none
  | fuel + 1 =>
    let bytes := skipBlanks bytes
    if isNext "!" bytes then
      (readPipeline fuel lines (bytes.drop 1)).map fun (inner, rest) =>
        (.pipeline true [inner], rest)
    else
      (readParts fuel lines bytes).map fun (parts, rest) =>
        match parts with
        | [single] => (single, rest)
        | parts => (.pipeline false parts, rest)

/-- Reads the pipelines that are joined to a statement. -/
def readChain (fuel lines : Nat) (first : Statement) (bytes : Bytes) :
    Option (Statement × Bytes) :=
  match fuel with
  | 0 => none
  | fuel + 1 =>
    match skipBlanks bytes with
    | 0x26 :: 0x26 :: rest => do
      let (second, rest) ← readPipeline fuel lines (skipLines rest)
      readChain fuel lines (.both first second) rest
    | 0x7C :: 0x7C :: rest => do
      let (second, rest) ← readPipeline fuel lines (skipLines rest)
      readChain fuel lines (.either first second) rest
    | rest => some (first, rest)

/-- Reads statements up to a word or parenthesis that ends the list. -/
def readList (fuel lines : Nat) (bytes : Bytes) : Option (List Statement × Bytes) :=
  match fuel with
  | 0 => none
  | fuel + 1 =>
    let bytes := skipLines bytes
    let isEnd := match bytes with
      | [] => true
      | 0x29 :: _ => true
      | 0x3B :: 0x3B :: _ => true
      | _ =>
        ["then", "elif", "else", "fi", "do", "done", "esac", "\x7d"].any (isNext · bytes)
    if isEnd then some ([], bytes)
    else do
      let (first, rest) ← readPipeline fuel lines bytes
      let (statement, rest) ← readChain fuel lines first rest
      let next? : Option Bytes :=
        match skipBlanks rest with
        | 0x3B :: 0x3B :: _ => none
        | 0x3B :: rest => some rest
        | 0x26 :: rest => some rest
        | 0x0A :: rest => some rest
        | _ => none
      match next? with
      | some next =>
        (readList fuel lines next).map fun (more, after) => (statement :: more, after)
      | none => some ([statement], skipBlanks rest)

/-- Reads the statements of a script one after the other. -/
def readScript (fuel lines : Nat) (bytes : Bytes) : List Statement :=
  match fuel with
  | 0 => []
  | fuel + 1 =>
    let bytes := skipLines bytes
    let line := lines - bytes.count 0x0A
    if bytes = [] then []
    else
      let read : Option (Statement × Bytes) := do
        let (first, rest) ← readPipeline fuel lines bytes
        readChain fuel lines first rest
      match read with
      | none => [.malformed line]
      | some (statement, rest) =>
        match skipBlanks rest with
        | [] => [statement]
        | 0x3B :: 0x3B :: _ => [statement, .malformed line]
        | 0x3B :: rest => statement :: readScript fuel lines rest
        | 0x26 :: rest => statement :: readScript fuel lines rest
        | 0x0A :: rest => statement :: readScript fuel lines rest
        | _ => [.malformed line]

end

namespace Statement

/-- The statements of a script. -/
def ofScript (script : Bytes) : List Statement :=
  readScript (4 * script.length + 16) (script.count 0x0A + 1) script

end Statement

end CalcBuild.Script

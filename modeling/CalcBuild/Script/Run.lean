/-
**Running scripts.**

A statement is turned into a behaviour, given what follows it. A word is expanded before the command
it belongs to runs, and a redirection holds for one command.

* `expandWord`: the expansion of a word;
* `runStatement`: a statement;
* `runImage`: a program that a script or the driver starts.
-/

import CalcBuild.Script.Arithmetic
import CalcBuild.Script.Builtin
import CalcBuild.Script.Field
import CalcBuild.Script.Start
import CalcBuild.Script.Utility

namespace CalcBuild.Script

open Files

/-- What a parameter expands to under an operation other than one that takes a word as its value. -/
def operated (shell : Shell) (quoted : Bool) (name : Bytes) (operation : Operation)
    (pattern : Pattern) : List Mark :=
  let value := (shell.parameter? name).getD []
  let own (bytes : Bytes) : List Mark :=
    let marks := Mark.ofValue quoted bytes
    if quoted then .holds :: marks else marks
  match operation with
  | .size => own (numeralBytes value.length)
  | .cutSuffix longest => own (Pattern.withoutSuffix pattern longest value)
  | .cutPrefix longest => own (Pattern.withoutPrefix pattern longest value)
  | _ => shell.valueMarks quoted name

/-- Whether a parameter counts as set. -/
def isGiven (shell : Shell) (name : Bytes) (colon : Bool) : Bool :=
  match (if name = [0x40] || name = [0x2A] then
      (if shell.arguments = [] then none else shell.parameter? name)
    else shell.parameter? name) with
  | none => false
  | some value => !colon || value != []

/-- Whether a word asks for the output of a command. -/
def hasOutput (word : List Piece) : Bool :=
  word.any fun piece =>
    match piece with
    | .output .. => true
    | _ => false

mutual

/-- Expands pieces; nothing if an operation failed. -/
def expandPieces (fuel : Nat) (pieces : List Piece) (shell : Shell)
    (next : Option (List Mark) → Shell → Behaviour) : Behaviour :=
  match fuel with
  | 0 => .hangs
  | fuel + 1 =>
    match pieces with
    | [] => next (some []) shell
    | piece :: rest =>
      let andThen (marks : List Mark) (shell : Shell) : Behaviour :=
        expandPieces fuel rest shell fun more? shell =>
          next (more?.map fun more => marks ++ more) shell
      match piece with
      | .literal quoted bytes => andThen (Mark.ofLiteral quoted bytes) shell
      | .output quoted body =>
        let part := { shell with kept := [] }.redirect 1 (some .kept)
        runStatements fuel false body part fun flow part =>
          match flow with
          | .dies signal => .ends (.killedBy signal)
          | _ =>
            let bytes := (part.keptBytes.reverse.dropWhile (· == 0x0A)).reverse
            let marks := Mark.ofValue quoted bytes
            andThen (if quoted then .holds :: marks else marks) (shell.withStatus part.status)
      | .arithmetic quoted word =>
        expandPieces fuel word shell fun marks? shell =>
          match marks? with
          | none => next none shell
          | some marks =>
            match Arithmetic.value? shell.value? (Mark.letters marks).bytes with
            | some value => andThen (Mark.ofValue quoted (numeralBytes value)) shell
            | none => shell.report (bytesOf "arithmetic expression: expecting primary") (next none)
      | .parameter quoted name operation word =>
        let alternative (given : Bool) : Behaviour :=
          if given then andThen (shell.valueMarks quoted name) shell
          else
            expandPieces fuel word shell fun marks? shell =>
              match marks? with
              | none => next none shell
              | some marks => andThen marks shell
        match operation with
        | .orElse colon => alternative (isGiven shell name colon)
        | .instead colon => if isGiven shell name colon then alternative false else andThen [] shell
        | .orAssign colon =>
          if isGiven shell name colon then alternative true
          else
            expandPieces fuel word shell fun marks? shell =>
              match marks? with
              | none => next none shell
              | some marks => andThen marks (shell.set name (Mark.letters marks).bytes)
        | .orFail colon =>
          if isGiven shell name colon then alternative true
          else
            expandPieces fuel word shell fun marks? shell =>
              let message := match marks? with
                | some [] => bytesOf "parameter not set"
                | some marks => (Mark.letters marks).bytes
                | none => []
              shell.report (name ++ bytesOf ": " ++ message) (next none)
        | operation =>
          let isMissing := shell.stopsOnUnset && name != [0x40] && name != [0x2A] &&
            (shell.parameter? name).isNone
          if isMissing then
            shell.report (name ++ bytesOf ": parameter not set") (next none)
          else
            expandPieces fuel word shell fun marks? shell =>
              match marks? with
              | none => next none shell
              | some marks =>
                andThen (operated shell quoted name operation
                  (Pattern.ofLetters (Mark.letters marks))) shell

/-- Expands words to fields, and fields to the paths they stand for. -/
def expandWords (fuel : Nat) (words : List (List Piece)) (shell : Shell)
    (next : Option (List Bytes) → Shell → Behaviour) : Behaviour :=
  match fuel with
  | 0 => .hangs
  | fuel + 1 =>
    match words with
    | [] => next (some []) shell
    | word :: rest =>
      expandPieces fuel word shell fun marks? shell =>
        match marks? with
        | none => next none shell
        | some marks =>
          let fields := Mark.fields marks
          let goOn (found : List Bytes) : Behaviour :=
            expandWords fuel rest shell fun more? shell =>
              next (more?.map fun more => found ++ more) shell
          if fields.any Field.isWild && !shell.keepsPatterns then
            .look (fun fs => fields.flatMap (Field.paths fs shell.cwd)) goOn
          else goOn (fields.map Field.bytes)

/-- Expands a word to one byte string. -/
def expandWord (fuel : Nat) (word : List Piece) (shell : Shell)
    (next : Option Bytes → Shell → Behaviour) : Behaviour :=
  match fuel with
  | 0 => .hangs
  | fuel + 1 =>
    expandPieces fuel word shell fun marks? shell =>
      next (marks?.map fun marks => (Mark.letters marks).bytes) shell

/-- Sets variables to the values of words. -/
def assignAll (fuel : Nat) (assignments : List (Bytes × List Piece)) (shell : Shell)
    (next : Bool → Shell → Behaviour) : Behaviour :=
  match fuel with
  | 0 => .hangs
  | fuel + 1 =>
    match assignments with
    | [] => next true shell
    | (name, word) :: rest =>
      expandWord fuel word shell fun value? shell =>
        match value? with
        | none => next false shell
        | some value => assignAll fuel rest (shell.set name value) next

/-- Makes descriptors refer to what redirections say. What they referred to before is handed on, so
that it can be put back; nothing if a redirection is not possible. -/
def openAll (fuel : Nat) (redirections : List Redirection) (shell : Shell)
    (next : Option (List (Nat × Option Target)) → Shell → Behaviour) : Behaviour :=
  match fuel with
  | 0 => .hangs
  | fuel + 1 =>
    match redirections with
    | [] => next (some []) shell
    | .mk descriptor opening word :: rest =>
      expandWord fuel word shell fun path? shell =>
        match path? with
        | none => next none shell
        | some path =>
          let before := shell.target? descriptor
          let goOn (target? : Option Target) : Behaviour :=
            openAll fuel rest (shell.redirect descriptor target?) fun saved? later =>
              match saved? with
              | some saved => next (some (saved ++ [(descriptor, before)])) later
              | none => next none (later.redirect descriptor before)
          let refuse (words : String) (fault : Fault) (missing : String) : Behaviour :=
            let reason := if fault.isAbsence then missing else fault.text
            shell.report (bytesOf words ++ path ++ bytesOf (": " ++ reason)) (next none)
          match opening with
          | .text => goOn (some (.source path))
          | .duplicate =>
            if path = [0x2D] then goOn none
            else
              match (natural? path).bind shell.target? with
              | some target => goOn (some target)
              | none => shell.report (path ++ bytesOf ": Bad file descriptor") (next none)
          | .read =>
            .look (fun fs => fs.read shell.cwd path) fun read =>
              match read with
              | .ok bytes => goOn (some (.source bytes))
              | .error .isDirectory => goOn (some .directory)
              | .error fault => refuse "cannot open " fault "No such file"
          | _ =>
            .perform (fun fs =>
              match fs.openForWriting shell.cwd (opening = .append) path with
              | .ok (place, fs) => (fs, Except.ok place)
              | .error fault => (fs, Except.error fault)) fun opened =>
              match opened with
              | .ok place => goOn (some (.file place))
              | .error fault => refuse "cannot create " fault "Directory nonexistent"

/-- Runs something with redirections, and puts the descriptors back afterwards. -/
def withRedirections (fuel : Nat) (redirections : List Redirection) (shell : Shell)
    (inner : Shell → After → Behaviour) (after : After) : Behaviour :=
  match fuel with
  | 0 => .hangs
  | fuel + 1 =>
    if redirections.isEmpty then inner shell after
    else
      openAll fuel redirections shell fun saved? shell =>
        match saved? with
        | none => after .next (shell.withStatus 2)
        | some saved => inner shell fun flow shell => after flow (shell.restore saved)

/-- Runs a script as a process of its own. -/
def runScript (fuel : Nat) (script : Bytes) (shell : Shell)
    (next : Option Nat → Shell → Behaviour) : Behaviour :=
  match fuel with
  | 0 => .hangs
  | fuel + 1 =>
    runStatements fuel false (Statement.ofScript script) shell fun flow shell =>
      match flow with
      | .dies signal => next (some signal) shell
      | _ => next none shell

/-- Runs a program that was found: what follows is told the signal that it died by, if it did. -/
def runImage (fuel : Nat) (image : Image) (shell : Shell)
    (next : Option Nat → Shell → Behaviour) : Behaviour :=
  match fuel with
  | 0 => .hangs
  | fuel + 1 =>
    if image.program = bytesOf "sh" then
      let (letters, source, name, arguments) :=
        shellArguments image.calledAs [] false image.arguments
      let inner := newShell shell name arguments letters
      let finish (signal? : Option Nat) (part : Shell) : Behaviour :=
        next signal? (shell.afterPart part)
      match source with
      | .text script => runScript fuel script inner finish
      | .nothing =>
        let (script, inner) := inner.take 0
        runScript fuel script inner finish
      | .file path =>
        .look (fun fs => fs.read shell.cwd path) fun read =>
          match read with
          | .ok script => runScript fuel script inner finish
          | .error fault =>
            let reason := if fault.isAbsence then "No such file" else fault.text
            { inner with name := image.calledAs }.report
              (bytesOf "cannot open " ++ path ++ bytesOf (": " ++ reason))
              fun part => finish none (part.withStatus 2)
    else if image.program = bytesOf "env" then
      let (isEmpty, bindings, command) := envArguments image.arguments
      let start := if isEmpty then { shell with bindings := [], exported := [] } else shell
      let inner := bindings.foldl (fun inner binding =>
        (inner.set binding.1 binding.2).handOver binding.1) start
      match command with
      | [] =>
        let shown := inner.environment.bindings.flatMap fun binding =>
          binding.1 ++ 0x3D :: binding.2 ++ [0x0A]
        shell.say 1 shown fun shell _ => next none (shell.withStatus 0)
      | name :: arguments =>
        runProgram fuel name arguments inner fun signal? part => next signal? (shell.afterPart part)
    else
      match Utility.find? image.program with
      | some utility =>
        utility shell image.calledAs image.arguments fun status shell =>
          next none (shell.withStatus status)
      | none => next none (shell.withStatus 127)

/-- Finds a program and runs it. -/
def runProgram (fuel : Nat) (name : Bytes) (arguments : List Bytes) (shell : Shell)
    (next : Option Nat → Shell → Behaviour) : Behaviour :=
  match fuel with
  | 0 => .hangs
  | fuel + 1 =>
    let refuse (status : Nat) (words : String) : Behaviour :=
      shell.report (name ++ bytesOf (": " ++ words)) fun shell =>
        next none (shell.withStatus status)
    .look (fun fs => (launchOf shell name arguments).image fs) fun found =>
      match found with
      | .ok image => runImage fuel image shell next
      | .error (.numbered 8) =>
        runImage fuel ⟨bytesOf "sh", bytesOf "/bin/sh", name :: arguments⟩ shell next
      | .error (.numbered 2) => refuse 127 "not found"
      | .error (.numbered 20) => refuse 127 "not found"
      | .error (.numbered errno) => refuse 126 (errnoText errno)
      | .error _ => refuse 126 "not found"

/-- Runs a command whose words are known. -/
def runCommand (fuel : Nat) (name : Bytes) (arguments : List Bytes) (shell : Shell)
    (after : After) : Behaviour :=
  match fuel with
  | 0 => .hangs
  | fuel + 1 =>
    let fine (shell : Shell) : Behaviour := after .next (shell.withStatus 0)
    let external (shell : Shell) : Behaviour :=
      runProgram fuel name arguments shell fun signal? shell =>
        match signal? with
        | some signal => after .next (shell.withStatus (128 + signal))
        | none => after .next shell
    if name = bytesOf ":" || name = bytesOf "trap" || name = bytesOf "readonly" then fine shell
    else if name = bytesOf "exit" then leaveWith .exits shell arguments "exit" after
    else if name = bytesOf "return" then leaveWith .returns shell arguments "return" after
    else if name = bytesOf "break" then loopFlow .leaves shell arguments after
    else if name = bytesOf "continue" then loopFlow .repeats shell arguments after
    else if name = bytesOf "export" then fine (exportAll shell arguments)
    else if name = bytesOf "unset" then fine (arguments.foldl Shell.unset shell)
    else if name = bytesOf "set" then fine (setOptions shell arguments)
    else if name = bytesOf "shift" then
      let count := ((arguments.head?.bind natural?).getD 1)
      if shell.arguments.length < count then
        shell.report (bytesOf "shift: can't shift that many") fun shell =>
          after .exits (shell.withStatus 2)
      else fine { shell with arguments := shell.arguments.drop count }
    else if name = bytesOf "eval" then
      runStatements fuel false (Statement.ofScript (joined [0x20] arguments)) (shell.withStatus 0)
        after
    else if name = bytesOf "." then
      .look (fun fs => fs.read shell.cwd (arguments.head?.getD [])) fun read =>
        match read with
        | .ok script => runStatements fuel false (Statement.ofScript script) shell after
        | .error _ =>
          shell.report (bytesOf ".: cannot open " ++ arguments.head?.getD []) fun shell =>
            after .exits (shell.withStatus 2)
    else if name = bytesOf "exec" then
      match arguments with
      | [] => fine shell
      | program :: rest =>
        runProgram fuel program rest shell fun signal? shell =>
          match signal? with
          | some signal => after (.dies signal) shell
          | none => after .exits shell
    else
      match shell.functions.lookup name with
      | some body =>
        let inner := { shell with arguments := arguments, own := [] }
        runStatement fuel false body inner fun flow inner =>
          let restored := inner.own.foldl Shell.putBack inner
          let outer := { restored with arguments := shell.arguments, own := shell.own }
          after (if flow = .returns then .next else flow) outer
      | none =>
        if name = bytesOf "cd" then changeDirectory shell arguments after
        else if name = bytesOf "kill" then
          match killArguments? arguments with
          | some (signal, targets) => sendAll signal targets (shell.withStatus 0) after
          | none =>
            shell.report (bytesOf "kill: Illegal option " ++ arguments.head?.getD []) fun shell =>
              after .next (shell.withStatus 2)
        else if name = bytesOf "read" then readLine shell arguments after
        else if name = bytesOf "local" then fine (ownAll shell arguments)
        else if name = bytesOf "command" then
          match arguments with
          | [] => fine shell
          | program :: rest =>
            if program = bytesOf "-v" then
              let wanted := rest.head?.getD []
              if (specialNames ++ plainNames).contains wanted then
                shell.say 1 (wanted ++ [0x0A]) fun shell _ => fine shell
              else
                let launch := launchOf shell wanted []
                let places := if wanted.contains Path.slash then [wanted] else launch.candidates
                let isFound (fs : FileSystem) (path : Bytes) : Bool :=
                  fs.isExecutable shell.cwd path
                .look (fun fs => places.find? (isFound fs)) fun path? =>
                  match path? with
                  | some path => shell.say 1 (path ++ [0x0A]) fun shell _ => fine shell
                  | none => after .next (shell.withStatus 127)
            else runCommand fuel program rest { shell with functions := [] } fun flow inner =>
              after flow { inner with functions := shell.functions }
        else if plainNames.contains name then
          match Utility.find? name with
          | some utility =>
            let line := numeralBytes shell.line
            let calledAs := shell.name ++ bytesOf ": " ++ line ++ bytesOf ": " ++ name
            utility shell calledAs arguments fun status shell =>
              after .next (shell.withStatus status)
          | none => fine shell
        else external shell

/-- Runs a simple command. -/
def runSimple (fuel line : Nat) (assignments : List (Bytes × List Piece))
    (words : List (List Piece)) (redirections : List Redirection) (shell : Shell) (after : After) :
    Behaviour :=
  match fuel with
  | 0 => .hangs
  | fuel + 1 =>
    let stop (shell : Shell) : Behaviour := after .exits (shell.withStatus 2)
    expandWords fuel words { shell with line } fun fields? shell =>
      match fields? with
      | none => stop shell
      | some [] =>
        let keepsStatus :=
          (assignments.any fun assignment => hasOutput assignment.2) || words.any hasOutput
        withRedirections fuel redirections shell (fun shell after =>
          assignAll fuel assignments shell fun isFine shell =>
            if isFine then after .next (if keepsStatus then shell else shell.withStatus 0)
            else stop shell) after
      | some (name :: arguments) =>
        let isSpecial := specialNames.contains name
        openAll fuel redirections shell fun saved? shell =>
          match saved? with
          | none => if isSpecial then stop shell else after .next (shell.withStatus 2)
          | some saved =>
            let put (shell : Shell) : Shell :=
              if name = bytesOf "exec" then shell else shell.restore saved
            if assignments.isEmpty then
              runCommand fuel name arguments shell fun flow shell => after flow (put shell)
            else
              let before := assignments.map fun assignment =>
                (assignment.1, shell.value? assignment.1)
              let handed := shell.exported
              assignAll fuel assignments shell fun isFine shell =>
                if !isFine then stop (put shell)
                else
                  let given := assignments.foldl (fun shell assignment =>
                    shell.handOver assignment.1) shell
                  let inner := if isSpecial then shell else given
                  runCommand fuel name arguments inner fun flow shell =>
                    let shell := put shell
                    after flow
                      (if isSpecial then shell
                        else { before.foldl Shell.putBack shell with exported := handed })

/-- Runs the parts of a pipeline: each reads what the one before has written. -/
def runParts (fuel : Nat) (checked : Bool) (parts : List Statement) (shell : Shell)
    (after : After) : Behaviour :=
  match fuel with
  | 0 => .hangs
  | fuel + 1 =>
    match parts with
    | [] => after .next shell
    | [last] =>
      runStatement fuel checked last shell fun flow part =>
        match flow with
        | .dies signal => after (.dies signal) shell
        | _ => after .next part
    | first :: rest =>
      let part := { shell with kept := [] }.redirect 1 (some .kept)
      runStatement fuel true first part fun flow part =>
        match flow with
        | .dies signal => after (.dies signal) shell
        | _ => runParts fuel checked rest (shell.redirect 0 (some (.source part.keptBytes))) after

/-- Runs the body of a loop over words. -/
def runEach (fuel : Nat) (checked : Bool) (name : Bytes) (values : List Bytes)
    (body : List Statement) (shell : Shell) (after : After) : Behaviour :=
  match fuel with
  | 0 => .hangs
  | fuel + 1 =>
    match values with
    | [] => after .next shell
    | value :: rest =>
      runStatements fuel checked body (shell.set name value) fun flow shell =>
        match flow with
        | .next => runEach fuel checked name rest body shell after
        | .repeats 1 => runEach fuel checked name rest body shell after
        | .repeats levels => after (.repeats (levels - 1)) shell
        | .leaves 1 => after .next shell
        | .leaves levels => after (.leaves (levels - 1)) shell
        | flow => after flow shell

/-- Runs a loop as long as its condition gives the status that is wanted. -/
def runLoop (fuel : Nat) (checked wanted : Bool) (condition body : List Statement) (status : Nat)
    (shell : Shell) (after : After) : Behaviour :=
  match fuel with
  | 0 => .hangs
  | fuel + 1 =>
    .sleeps 0 fun _ =>
      runStatements fuel true condition shell fun flow shell =>
        match flow with
        | .next =>
          if (shell.status == 0) != wanted then after .next (shell.withStatus status)
          else
            runStatements fuel checked body shell fun flow shell =>
              match flow with
              | .next => runLoop fuel checked wanted condition body shell.status shell after
              | .repeats 1 => runLoop fuel checked wanted condition body shell.status shell after
              | .repeats levels => after (.repeats (levels - 1)) shell
              | .leaves 1 => after .next shell
              | .leaves levels => after (.leaves (levels - 1)) shell
              | flow => after flow shell
        | flow => after flow shell

/-- Runs the body of the first case that has a pattern for a value. -/
def runCases (fuel : Nat) (checked : Bool) (value : Bytes)
    (cases : List (List (List Piece) × List Statement)) (shell : Shell) (after : After) :
    Behaviour :=
  match fuel with
  | 0 => .hangs
  | fuel + 1 =>
    match cases with
    | [] => after .next (shell.withStatus 0)
    | ([], _) :: rest => runCases fuel checked value rest shell after
    | (pattern :: patterns, body) :: rest =>
      expandPieces fuel pattern shell fun marks? shell =>
        match marks? with
        | none => after .exits (shell.withStatus 2)
        | some marks =>
          if Pattern.fits (Pattern.ofLetters (Mark.letters marks)) value then
            runStatements fuel checked body (shell.withStatus 0) after
          else runCases fuel checked value ((patterns, body) :: rest) shell after

/-- Runs a statement. With `checked`, a failure of it is looked at and does not end the script. -/
def runStatement (fuel : Nat) (checked : Bool) (statement : Statement) (shell : Shell)
    (after : After) : Behaviour :=
  match fuel with
  | 0 => .hangs
  | fuel + 1 =>
    let watched : After := fun flow shell =>
      if flow = .next && shell.stopsOnFailure && !checked && shell.status != 0 then
        after .exits shell
      else after flow shell
    match statement with
    | .simple line assignments words redirections =>
      runSimple fuel line assignments words redirections shell watched
    | .pipeline negated parts =>
      match parts with
      | [single] =>
        runStatement fuel (checked || negated) single shell fun flow shell =>
          match flow with
          | .next =>
            if negated then after .next (shell.withStatus (if shell.status = 0 then 1 else 0))
            else after .next shell
          | flow => after flow shell
      | parts =>
        runParts fuel checked parts shell fun flow part =>
          watched flow (if flow = .next then shell.afterPart part else shell)
    | .both first second =>
      runStatement fuel true first shell fun flow shell =>
        if flow = .next && shell.status = 0 then runStatement fuel checked second shell after
        else after flow shell
    | .either first second =>
      runStatement fuel true first shell fun flow shell =>
        if flow = .next && shell.status != 0 then runStatement fuel checked second shell after
        else after flow shell
    | .group body redirections =>
      withRedirections fuel redirections shell
        (fun shell after => runStatements fuel checked body shell after) after
    | .apart body redirections =>
      withRedirections fuel redirections shell
        (fun shell after =>
          runStatements fuel checked body shell fun flow part =>
            match flow with
            | .dies signal => after (.dies signal) shell
            | _ => after .next (shell.afterPart part)) watched
    | .conditional condition yes no redirections =>
      withRedirections fuel redirections shell
        (fun shell after =>
          runStatements fuel true condition shell fun flow shell =>
            match flow with
            | .next =>
              if shell.status = 0 then runStatements fuel checked yes shell after
              else runStatements fuel checked no (shell.withStatus 0) after
            | flow => after flow shell) after
    | .loop wanted condition body redirections =>
      withRedirections fuel redirections shell
        (fun shell after => runLoop fuel checked wanted condition body 0 shell after) after
    | .each name words? body redirections =>
      withRedirections fuel redirections shell
        (fun shell after =>
          match words? with
          | none => runEach fuel checked name shell.arguments body (shell.withStatus 0) after
          | some words =>
            expandWords fuel words shell fun values? shell =>
              match values? with
              | none => after .exits (shell.withStatus 2)
              | some values =>
                runEach fuel checked name values body (shell.withStatus 0) after) after
    | .choice word cases redirections =>
      withRedirections fuel redirections shell
        (fun shell after =>
          expandWord fuel word shell fun value? shell =>
            match value? with
            | none => after .exits (shell.withStatus 2)
            | some value => runCases fuel checked value cases shell after) after
    | .definition name body =>
      after .next { shell with functions := (name, body) :: shell.functions, status := 0 }
    | .malformed line =>
      { shell with line }.report (bytesOf "Syntax error") fun shell =>
        after .exits (shell.withStatus 2)

/-- Runs statements one after the other. -/
def runStatements (fuel : Nat) (checked : Bool) (statements : List Statement) (shell : Shell)
    (after : After) : Behaviour :=
  match fuel with
  | 0 => .hangs
  | fuel + 1 =>
    match statements with
    | [] => after .next shell
    | statement :: rest =>
      runStatement fuel checked statement shell fun flow shell =>
        match flow with
        | .next => runStatements fuel checked rest shell after
        | flow => after flow shell

end

end CalcBuild.Script

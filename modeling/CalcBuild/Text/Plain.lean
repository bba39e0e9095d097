/-
**Text without control sequences.**

Terminals take some bytes as commands: single control characters, and sequences that an escape
character begins. The texts of the command line are shown without them; blanks such as the tabulator
stay.

* `ControlScan`: which part of a sequence has been read;
* `ControlScan.next`: the part that a byte leads to;
* `plain`: a text without its control characters and sequences.
-/

import CalcBuild.Text.Utf8

namespace CalcBuild.Text

/-- Which part of a control sequence has been read. -/
inductive ControlScan where
  /-- No sequence is open. -/
  | outside
  /-- Directly after an escape character. -/
  | escape
  | escapeMore
  /-- A sequence with parameters that ends with a letter. -/
  | controlStart
  | controlParameter
  | controlMore
  | controlBad
  /-- The head of a string for a device. -/
  | deviceStart
  | deviceParameter
  | deviceMore
  | deviceBad
  | deviceString
  /-- A string for the program that runs the terminal. -/
  | privateString
  /-- A string for the system that runs the terminal, such as a title. -/
  | systemString
  deriving DecidableEq, Repr

namespace ControlScan

/-- The part that a byte from the space on leads to, after an escape character. -/
def afterEscape (byte : UInt8) : ControlScan :=
  if byte < 0x30 then .escapeMore
  else if byte = 0x50 then .deviceStart
  else if byte = 0x58 || byte = 0x5E || byte = 0x5F then .privateString
  else if byte = 0x5B then .controlStart
  else if byte = 0x5D then .systemString
  else .outside

/-- The part that a byte from the space on leads to, among the parameters of a sequence; `isFirst` is
set directly at their beginning. -/
def afterParameter (isFirst : Bool) (byte : UInt8) (parameter more bad done : ControlScan) : ControlScan :=
  if byte < 0x30 then more
  else if byte < 0x3C then parameter
  else if byte < 0x40 then (if isFirst then parameter else bad)
  else done

/-- The part that a byte leads to. -/
def next (scan : ControlScan) (byte : UInt8) : ControlScan :=
  if byte = 0x18 || byte = 0x1A then .outside
  else if byte = 0x1B then .escape
  else
    let isPlain := 0x20 ≤ byte && byte < 0x7F
    match scan with
    | .outside => .outside
    | .escape => if isPlain then afterEscape byte else scan
    | .escapeMore => if isPlain && 0x30 ≤ byte then .outside else scan
    | .controlStart =>
      if isPlain then
        afterParameter true byte .controlParameter .controlMore .controlBad .outside
      else scan
    | .controlParameter =>
      if isPlain then
        afterParameter false byte .controlParameter .controlMore .controlBad .outside
      else scan
    | .controlMore =>
      if !isPlain || byte < 0x30 then scan else if byte < 0x40 then .controlBad else .outside
    | .controlBad => if isPlain && 0x40 ≤ byte then .outside else scan
    | .deviceStart =>
      if isPlain then
        afterParameter true byte .deviceParameter .deviceMore .deviceBad .deviceString
      else scan
    | .deviceParameter =>
      if isPlain then
        afterParameter false byte .deviceParameter .deviceMore .deviceBad .deviceString
      else scan
    | .deviceMore =>
      if !isPlain || byte < 0x30 then scan else if byte < 0x40 then .deviceBad else .deviceString
    | .deviceBad | .deviceString | .privateString => if byte = 0x9C then .outside else scan
    | .systemString => if byte = 0x07 then .outside else scan

/-- Whether control characters keep their own effect in a part. -/
def obeys : ControlScan → Bool
  | .outside | .escape | .escapeMore => true
  | .controlStart | .controlParameter | .controlMore | .controlBad => true
  | _ => false

/-- Whether a byte is a blank that is kept: a tabulator, or the end of a line or a page. -/
def isKeptBlank (byte : UInt8) : Bool :=
  byte = 0x09 || byte = 0x0A || byte = 0x0C || byte = 0x0D

/-- The number of bytes after the first one of a character. -/
def owed (byte : UInt8) : Nat :=
  if byte < 0xC2 then 0 else if byte < 0xE0 then 1 else if byte < 0xF0 then 2
  else if byte < 0xF5 then 3 else 0

/-- Whether a byte is shown where no sequence is open. -/
def isShown (byte : UInt8) : Bool :=
  (0x20 ≤ byte && byte < 0x7F) || isKeptBlank byte || owed byte != 0

end ControlScan

/-- The bytes that are shown. All bytes are shown where no sequence is open, and also after a blank
that interrupts one, until a control character lets the sequence go on; `shows` is set while bytes
are shown. `due` counts the bytes that the character being shown still lacks. -/
def plainBytes (scan : ControlScan) (shows : Bool) (due : Nat) : Bytes → Bytes
  | [] => []
  | byte :: rest =>
    if due != 0 then byte :: plainBytes .outside true (due - 1) rest
    else
      let isKept :=
        if shows || scan = .outside then ControlScan.isShown byte
        else scan.obeys && ControlScan.isKeptBlank byte
      if isKept then byte :: plainBytes scan true (ControlScan.owed byte) rest
      else plainBytes (scan.next byte) false 0 rest

/-- A text without its control characters and sequences. -/
def plain (text : String) : String :=
  Utf8.lossy (plainBytes .outside false 0 (Bytes.ofText text))

end CalcBuild.Text

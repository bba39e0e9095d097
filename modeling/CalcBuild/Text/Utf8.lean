/-
**Text held in bytes.**

A byte string is cut into *pieces*: the well-formed characters it holds and, between them, the
maximal ill-formed subparts. The cut is made by a machine that reads one byte at a time and knows
which bytes may come next.

* `pieces`: the cut itself; every byte belongs to exactly one piece;
* `decode?`: the characters, if no piece is broken;
* `lossy`: the characters, with one replacement character for every broken piece;
* `encode`: the bytes of a list of characters.
-/

namespace CalcBuild

/-- Paths, arguments and file contents are byte strings. -/
abbrev Bytes := List UInt8

namespace Text.Utf8

/-- A part of a byte string: a character, or bytes that no character begins with. -/
inductive Piece where
  | char (c : Char)
  | broken (bytes : Bytes)
  deriving DecidableEq, Repr

/-- An unfinished character: the bytes read so far (the last one first), the value they spell, how
many bytes are still owed, and the range of the next one. -/
structure Partial where
  seen : Bytes
  value : Nat
  owed : Nat
  low : UInt8
  high : UInt8
  deriving DecidableEq, Repr

/-- What a byte does where a character may begin. -/
inductive Lead where
  | whole (c : Char)
  | opens (rest : Partial)
  | stray
  deriving DecidableEq, Repr

/-- The lead byte fixes the length of the character and the range of the second byte; the narrowed
ranges exclude overlong forms, surrogates and values above U+10FFFF. -/
def lead (byte : UInt8) : Lead :=
  if byte < 0x80 then .whole (Char.ofNat byte.toNat)
  else if byte < 0xC2 then .stray
  else if byte < 0xE0 then .opens ⟨[byte], byte.toNat - 0xC0, 1, 0x80, 0xBF⟩
  else if byte = 0xE0 then .opens ⟨[byte], 0, 2, 0xA0, 0xBF⟩
  else if byte = 0xED then .opens ⟨[byte], 0xD, 2, 0x80, 0x9F⟩
  else if byte < 0xF0 then .opens ⟨[byte], byte.toNat - 0xE0, 2, 0x80, 0xBF⟩
  else if byte = 0xF0 then .opens ⟨[byte], 0, 3, 0x90, 0xBF⟩
  else if byte < 0xF4 then .opens ⟨[byte], byte.toNat - 0xF0, 3, 0x80, 0xBF⟩
  else if byte = 0xF4 then .opens ⟨[byte], 4, 3, 0x80, 0x8F⟩
  else .stray

/-- The machine between two bytes: the pieces cut so far (the last one first) and the character
that is being read, if any. -/
structure Scan where
  done : List Piece
  reading : Option Partial
  deriving DecidableEq, Repr

/-- Reads a byte where a character may begin. -/
def Scan.start (done : List Piece) (byte : UInt8) : Scan :=
  match lead byte with
  | .whole c => ⟨.char c :: done, none⟩
  | .opens rest => ⟨done, some rest⟩
  | .stray => ⟨.broken [byte] :: done, none⟩

/-- Reads one byte. A byte that cannot continue the character being read closes a broken piece and
is then read as the beginning of the next one. -/
def Scan.step (scan : Scan) (byte : UInt8) : Scan :=
  match scan.reading with
  | none => Scan.start scan.done byte
  | some part =>
    if part.low ≤ byte ∧ byte ≤ part.high then
      let value := part.value * 64 + (byte.toNat - 0x80)
      if part.owed ≤ 1 then ⟨.char (Char.ofNat value) :: scan.done, none⟩
      else ⟨scan.done, some ⟨byte :: part.seen, value, part.owed - 1, 0x80, 0xBF⟩⟩
    else Scan.start (.broken part.seen.reverse :: scan.done) byte

/-- Closes the scan: an unfinished character is a broken piece. -/
def Scan.finish (scan : Scan) : List Piece :=
  match scan.reading with
  | none => scan.done.reverse
  | some part => (.broken part.seen.reverse :: scan.done).reverse

/-- The pieces of a byte string, in order. -/
def pieces (bytes : Bytes) : List Piece :=
  (bytes.foldl Scan.step ⟨[], none⟩).finish

/-- The character that stands for a broken piece. -/
def replacement : Char := Char.ofNat 0xFFFD

/-- The character shown for a piece. -/
def Piece.shown : Piece → Char
  | .char c => c
  | .broken _ => replacement

/-- Whether a piece is a well-formed character. -/
def Piece.isChar : Piece → Bool
  | .char _ => true
  | .broken _ => false

/-- The characters of a byte string, one replacement character for each broken piece. -/
def lossyChars (bytes : Bytes) : List Char :=
  (pieces bytes).map Piece.shown

/-- The text of a byte string, one replacement character for each broken piece. -/
def lossy (bytes : Bytes) : String :=
  String.ofList (lossyChars bytes)

/-- The characters of a well-formed byte string. -/
def decode? (bytes : Bytes) : Option (List Char) :=
  let cut := pieces bytes
  if cut.all Piece.isChar then some (cut.map Piece.shown) else none

/-- The bytes of a list of characters. -/
def encode (chars : List Char) : Bytes :=
  chars.flatMap String.utf8EncodeChar

end Text.Utf8

/-- The bytes of a text. -/
def Bytes.ofText (text : String) : Bytes :=
  Text.Utf8.encode text.toList

end CalcBuild

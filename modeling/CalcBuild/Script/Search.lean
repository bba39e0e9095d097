/-
**Searching lines.**

A search expression describes parts of lines: bytes stand for themselves, a point for any byte,
brackets for one of several; a star after one of these lets it occur any number of times. A caret
and a dollar sign stand for the start and the end of the line.

* `Search.ofBytes`: reads an expression;
* `Search.isFound`: whether a line has a part that it describes.
-/

import CalcBuild.Script.Pattern

namespace CalcBuild.Script

/-- One element of a search expression. -/
inductive Search.Item where
  | once (glyph : Glyph)
  | repeated (glyph : Glyph) (least : Nat)
  | optional (glyph : Glyph)
  | atEnd
  deriving DecidableEq, Repr

/-- A search expression: whether it has to begin where the line does, and its elements. -/
structure Search where
  fromStart : Bool
  items : List Search.Item
  deriving DecidableEq, Repr

namespace Search

/-- The expression that finds a byte string. -/
def literal (bytes : Bytes) : Search :=
  ⟨false, bytes.map fun byte => .once (.exactly byte)⟩

/-- The element that the next bytes spell, and what follows. -/
def glyph? (bytes : Bytes) : Option (Glyph × Bytes) :=
  match bytes with
  | [] => none
  | 0x2E :: rest => some (.one, rest)
  | 0x5C :: byte :: rest => some (.exactly byte, rest)
  | 0x5B :: rest =>
    match Pattern.bracket? (rest.map fun byte => ⟨byte, false⟩) with
    | some (glyph, after) => some (glyph, after.map (·.byte))
    | none => some (.exactly 0x5B, rest)
  | byte :: rest => some (.exactly byte, rest)

/-- The elements that bytes spell; in an extended expression a plus sign and a question mark have a
meaning too. -/
def itemsOf (steps : Nat) (extended : Bool) (bytes : Bytes) : List Item :=
  match steps with
  | 0 => []
  | more + 1 =>
    if bytes = [0x24] then [.atEnd]
    else
      match glyph? bytes with
      | none => []
      | some (glyph, rest) =>
        match rest with
        | 0x2A :: after => .repeated glyph 0 :: itemsOf more extended after
        | 0x2B :: after =>
          if extended then .repeated glyph 1 :: itemsOf more extended after
          else .once glyph :: itemsOf more extended rest
        | 0x3F :: after =>
          if extended then .optional glyph :: itemsOf more extended after
          else .once glyph :: itemsOf more extended rest
        | _ => .once glyph :: itemsOf more extended rest

/-- Reads an expression. -/
def ofBytes (extended : Bool) (bytes : Bytes) : Search :=
  match bytes with
  | 0x5E :: rest => ⟨true, itemsOf rest.length extended rest⟩
  | _ => ⟨false, itemsOf bytes.length extended bytes⟩

/-- Whether a text begins with a part that elements describe; with `whole`, the part has to be all
of it. -/
def fitsHere (whole : Bool) (items : List Item) (text : Bytes) : Bool :=
  match items, text with
  | [], text => !whole || text.isEmpty
  | .atEnd :: _, text => text.isEmpty
  | .once _ :: _, [] => false
  | .once glyph :: rest, byte :: after =>
    Pattern.Glyph.covers glyph byte && fitsHere whole rest after
  | .optional _ :: rest, [] => fitsHere whole rest []
  | .optional glyph :: rest, byte :: after =>
    fitsHere whole rest (byte :: after) ||
      (Pattern.Glyph.covers glyph byte && fitsHere whole rest after)
  | .repeated _ least :: rest, [] => least = 0 && fitsHere whole rest []
  | .repeated glyph least :: rest, byte :: after =>
    (least = 0 && fitsHere whole rest (byte :: after)) ||
      (Pattern.Glyph.covers glyph byte &&
        fitsHere whole (.repeated glyph (least - 1) :: rest) after)
termination_by items.length + text.length

/-- Whether a part of a line that starts at one of the next `starts` places fits. -/
def isFoundWithin (whole : Bool) (search : Search) (starts : Nat) (line : Bytes) : Bool :=
  fitsHere whole search.items line ||
    match starts with
    | 0 => false
    | more + 1 => isFoundWithin whole search more (line.drop 1)

/-- Whether a line has a part that the expression describes; with `whole`, the line itself has to be
described. -/
def isFound (whole : Bool) (search : Search) (line : Bytes) : Bool :=
  isFoundWithin whole search (if search.fromStart || whole then 0 else line.length) line

end Search

end CalcBuild.Script

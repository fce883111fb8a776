/-
Module: PlaybookServer.Text.LineMap
Purpose: Points (line and UTF-16 column, both from 0) against byte offsets. Lines end at line feeds; a
  column past the end of a line means its end, before any carriage return.
Main exports: Point, Range, LineMap, LineMap.ofText, offsetToPoint, pointToOffset?, spanToRange
-/
import PlaybookServer.Text.Span

namespace PlaybookServer.Text

/-- The largest line or column number. -/
def maxCoordinate : Nat := 4294967295

/-- A place in a text as editors name it. -/
structure Point where
  line : Nat
  col : Nat
deriving DecidableEq, Repr, Inhabited, Hashable

/-- Order of points: by line, then by column. -/
def Point.le (a b : Point) : Bool := a.line < b.line || (a.line = b.line && a.col ≤ b.col)

/-- Strict order of points. -/
def Point.lt (a b : Point) : Bool := a.line < b.line || (a.line = b.line && a.col < b.col)

/-- A half-open range of points. -/
structure Range where
  start : Point
  stop : Point
deriving DecidableEq, Repr, Inhabited, Hashable

/-- Whether a range covers nothing. -/
def Range.isEmpty (r : Range) : Bool := r.start = r.stop

/-- The range from a point to the end of its line. -/
def Range.toLineEnd (p : Point) : Range := ⟨p, ⟨p.line, maxCoordinate⟩⟩

/-- The empty range at a point. -/
def Range.point (p : Point) : Range := ⟨p, p⟩

/-- UTF-16 code units of a character. -/
def units (c : Char) : Nat := if c.toNat < 0x10000 then 1 else 2

/-- UTF-16 code units of a text. -/
def unitLength : List Char → Nat
  | [] => 0
  | c :: cs => units c + unitLength cs

/-- Byte offsets at which the lines of a text start. -/
structure LineMap where
  starts : List Nat
deriving DecidableEq, Repr, Inhabited

/-- Starts of the lines after the first, for a text that begins at `offset`. -/
def lineStartsFrom (offset : Nat) : List Char → List Nat
  | [] => []
  | c :: cs =>
    let next := offset + c.utf8Size
    if c = '\n' then next :: lineStartsFrom next cs else lineStartsFrom next cs

/-- The line map of a text. -/
def LineMap.ofText (text : List Char) : LineMap := ⟨0 :: lineStartsFrom 0 text⟩

/-- How many lines there are; a final line feed opens one more. -/
def LineMap.lineCount (m : LineMap) : Nat := m.starts.length

/-- Where a line starts. -/
def LineMap.lineStart? (m : LineMap) (line : Nat) : Option Nat := m.starts[line]?

/-- The line an offset is on: the number of lines that start at or before it, less one. -/
def LineMap.lineOf (m : LineMap) (offset : Nat) : Nat :=
  (m.starts.takeWhile (· ≤ offset)).length - 1

/-- The point of a byte offset; offsets past the end mean the end. An offset inside a character gives
    column 0. -/
def LineMap.offsetToPoint (m : LineMap) (text : List Char) (offset : Nat) : Point :=
  let offset := min offset (byteLength text)
  let line := m.lineOf offset
  let start := m.starts.getD line 0
  let rest := dropBytes start text
  let col := if isBoundary (offset - start) rest then unitLength (takeBytes (offset - start) rest) else 0
  ⟨line, col⟩

/-- The range of a byte span. -/
def LineMap.spanToRange (m : LineMap) (text : List Char) (span : Span) : Range :=
  ⟨m.offsetToPoint text span.start, m.offsetToPoint text span.stop⟩

/-- Bytes of the characters before column `col` of a line, or before its end. -/
def columnBytes (col : Nat) : Nat → List Char → Nat
  | _, [] => 0
  | seen, c :: cs =>
    if col ≤ seen || c = '\n' || c = '\r' then 0 else c.utf8Size + columnBytes col (seen + units c) cs

/-- The byte offset of a point. -/
def LineMap.pointToOffset? (m : LineMap) (text : List Char) (p : Point) : Option Nat :=
  (m.lineStart? p.line).map fun start => start + columnBytes p.col 0 (dropBytes start text)

end PlaybookServer.Text

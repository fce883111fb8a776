/-
Module: PlaybookServer.Text.Span
Purpose: Byte offsets into the UTF-8 form of a text. A text is a list of characters; an offset that
  falls inside a character belongs to that character.
Main exports: byteLength, dropBytes, takeBytes, Span, Span.contains, Span.slice
-/

namespace PlaybookServer.Text

/-- Length in bytes. -/
def byteLength : List Char → Nat
  | [] => 0
  | c :: cs => c.utf8Size + byteLength cs

/-- The text from a byte offset on. -/
def dropBytes : Nat → List Char → List Char
  | _, [] => []
  | n, c :: cs => if n = 0 then c :: cs else dropBytes (n - c.utf8Size) cs

/-- The text up to a byte offset. -/
def takeBytes : Nat → List Char → List Char
  | _, [] => []
  | n, c :: cs => if c.utf8Size ≤ n then c :: takeBytes (n - c.utf8Size) cs else []

/-- Whether a byte offset falls between two characters or at an end. -/
def isBoundary : Nat → List Char → Bool
  | n, [] => n = 0
  | n, c :: cs => n = 0 || (c.utf8Size ≤ n && isBoundary (n - c.utf8Size) cs)

/-- The text from a byte offset on, if the offset is a boundary. -/
def dropBytes? (n : Nat) (cs : List Char) : Option (List Char) :=
  if isBoundary n cs then some (dropBytes n cs) else none

/-- A half-open range of bytes. -/
structure Span where
  start : Nat
  stop : Nat
deriving DecidableEq, Repr, Inhabited

/-- Whether an offset lies in a span; with `inclusive` the end belongs to it. -/
def Span.contains (s : Span) (offset : Nat) (inclusive : Bool) : Bool :=
  s.start ≤ offset && (offset < s.stop || (inclusive && offset ≤ s.stop))

/-- The text under a span. -/
def Span.slice (s : Span) (text : List Char) : List Char :=
  takeBytes (s.stop - s.start) (dropBytes s.start text)

/-- The empty span at an offset. -/
def Span.empty (offset : Nat) : Span := ⟨offset, offset⟩

end PlaybookServer.Text

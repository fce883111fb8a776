/-
Module: PlaybookServer.Completion.Cursor
Purpose: A text with a placeholder at the cursor, so that a half-typed line reads as a mapping entry or a
  value, and the way back from the patched text to the text as typed.
Main exports: Prepared, Prepared.ofText?, Prepared.nodeRange?, Prepared.insideTemplate
-/
import PlaybookServer.Document.Path
import PlaybookServer.Text.LineMap
import PlaybookServer.Text.Lines

namespace PlaybookServer.Completion

open Text

/-- A text with a placeholder at the cursor. -/
structure Prepared where
  typed : List Char
  patched : List Char
  /-- Byte offset of the cursor. -/
  offset : Nat
  placeholder : List Char
  lines : LineMap
deriving Repr, Inhabited

namespace Prepared

/-- Put a placeholder at a position: a word after a colon and space, else a key. -/
def ofText? (text : List Char) (position : Point) : Option Prepared := do
  let lines := LineMap.ofText text
  let offset ← lines.pointToOffset? text position
  let lineStart ← lines.lineStart? position.line
  let before := Span.slice ⟨lineStart, offset⟩ text
  let placeholder := if contains before [':', ' '] then ['_', '_'] else ['_', ':']
  return {
    typed := text
    patched := takeBytes offset text ++ placeholder ++ dropBytes offset text
    offset, placeholder, lines }

/-- Offset in the typed text of an offset in the patched text. -/
def typedOffset (p : Prepared) (patched : Nat) : Nat :=
  let width := byteLength p.placeholder
  if patched ≤ p.offset then patched
  else if p.offset + width ≤ patched then patched - width
  else p.offset

/-- Whether the cursor is at the end of its line. -/
def atEndOfLine (p : Prepared) : Bool :=
  match dropBytes p.offset p.typed with
  | [] => true
  | c :: _ => c = '\n' || c = '\r'

/-- Range in the typed text of the scalar at the end of a path, if the cursor is in it. -/
def nodeRange? (p : Prepared) (path : Path) : Option Range := do
  let node ← path.lastNode?
  let _ ← path.doc.scalar? node
  let span := path.doc.spanOf node
  if !span.contains p.offset true then none
  return p.lines.spanToRange p.typed ⟨p.typedOffset span.start, p.typedOffset span.stop⟩

/-- Whether only a sequence marker stands before a range on its line. -/
def firstOfList (p : Prepared) (range : Option Range) : Bool :=
  match range with
  | none => false
  | some r =>
    match p.lines.lineStart? r.start.line, p.lines.pointToOffset? p.typed r.start with
    | some lineStart, some start => trim (Span.slice ⟨lineStart, start⟩ p.typed) = ['-']
    | _, _ => false

/-- The text of the cursor's line before and after the cursor. -/
def lineAround (p : Prepared) : List Char × List Char :=
  let before := takeBytes p.offset p.typed
  let after := dropBytes p.offset p.typed
  ((before.reverse.takeWhile (· ≠ '\n')).reverse, after.takeWhile (· ≠ '\n'))

end Prepared

/-- The text from the last occurrence of a pattern on. -/
def fromLast? (pattern : List Char) : List Char → Option (List Char)
  | [] => none
  | c :: cs =>
    match fromLast? pattern cs with
    | some rest => some rest
    | none => if startsWith (c :: cs) pattern then some (c :: cs) else none

/-- What opens a template expression. -/
def templateOpen : List Char := [Char.ofNat 0x7b, Char.ofNat 0x7b]

/-- What closes a template expression. -/
def templateClose : List Char := [Char.ofNat 0x7d, Char.ofNat 0x7d]

/-- Where a pattern first occurs. -/
def firstIndex? (pattern cs : List Char) : Option Nat := (cut? pattern cs).map fun c => c.1.length

/-- Whether the cursor stands inside one template expression of its line. -/
def Prepared.insideTemplate (p : Prepared) (path : Path) : Bool :=
  match path.lastNode?.bind path.doc.scalar? with
  | none => false
  | some value =>
    let (before, after) := p.lineAround
    contains value.toList templateOpen
    && (match fromLast? templateOpen before with
      | some opened => !contains opened templateClose
      | none => false)
    && (match firstIndex? templateClose after, firstIndex? templateOpen after with
      | some close, some next => close < next
      | some _, none => true
      | none, _ => false)

end PlaybookServer.Completion

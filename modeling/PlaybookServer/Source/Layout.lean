/-
Module: PlaybookServer.Source.Layout
Purpose: What the scanner remembers between two tokens: the row and column reached, where an implicit
  key on the current row would start, and the open blocks with their indentation. `SourceText` is the
  text as an array of characters together with byte offsets and row numbers, so that a position is a
  plain index. `Reader` is a moving position that also remembers the token under way.
Main exports: Block, Layout, SourceText, Reader
-/
import PlaybookServer.Source.Token

namespace PlaybookServer.Source

/-- What opened a block. -/
inductive BlockKind where
  | mapping
  | sequence
  | text
deriving DecidableEq, Repr, Inhabited

/-- An open block and the column it is indented to. -/
structure Block where
  kind : BlockKind
  column : Int
deriving DecidableEq, Repr, Inhabited

/-- Scanner memory between tokens. The outermost level, at column -1, is implicit. -/
structure Layout where
  row : Nat := 0
  col : Nat := 0
  /-- Row on which the current implicit key candidate starts; -1 when there is none. -/
  keyRow : Int := -1
  keyCol : Int := -1
  /-- The candidate is preceded by a tab. -/
  keyTab : Bool := false
  /-- Open blocks, innermost first. -/
  blocks : List Block := []
deriving DecidableEq, Repr, Inhabited

/-- Indentation of the innermost block. -/
def Layout.indent (l : Layout) : Int :=
  match l.blocks with
  | [] => -1
  | b :: _ => b.column

/-- Indentation of the block around the innermost one. -/
def Layout.outerIndent (l : Layout) : Int :=
  match l.blocks with
  | _ :: b :: _ => b.column
  | _ => -1

/-- What opened the innermost block, if any block is open. -/
def Layout.kind? (l : Layout) : Option BlockKind := l.blocks.head?.map Block.kind

/-- Open a block. -/
def Layout.push (l : Layout) (kind : BlockKind) (column : Int) : Layout :=
  { l with blocks := ⟨kind, column⟩ :: l.blocks }

/-- Close the innermost block; there must be one. -/
def Layout.pop? (l : Layout) : Option Layout :=
  match l.blocks with
  | [] => none
  | _ :: rest => some { l with blocks := rest }

/-- Note a token at `row`, `col` as the start of a possible implicit key, unless one is already known
    on that row. -/
def Layout.noteKey (l : Layout) (row col : Nat) (tab : Bool) : Layout :=
  if l.keyRow = row then l else { l with keyRow := row, keyCol := col, keyTab := tab }

/-- A text with the byte offset and the row of every character, the end included. -/
structure SourceText where
  chars : Array Char
  offsets : Array Nat
  rows : Array Nat
deriving Inhabited

/-- Index a text. -/
def SourceText.ofString (s : String) : SourceText :=
  let step := fun (acc : Array Char × Array Nat × Array Nat × Nat × Nat) (c : Char) =>
    let (chars, offsets, rows, offset, row) := acc
    let offset := offset + c.utf8Size
    let row := if c = '\n' then row + 1 else row
    (chars.push c, offsets.push offset, rows.push row, offset, row)
  let (chars, offsets, rows, _, _) := s.toList.foldl step (#[], #[0], #[0], 0, 0)
  { chars, offsets, rows }

/-- Byte offset of a character index; indices past the end count as the end. -/
def SourceText.offset (t : SourceText) (i : Nat) : Nat := t.offsets.getD i (t.offsets.getD t.chars.size 0)

/-- Row of a character index. -/
def SourceText.row (t : SourceText) (i : Nat) : Nat := t.rows.getD i (t.rows.getD t.chars.size 0)

/-- Where scanning from a character index begins: a byte order mark that opens the text is stepped
    over and takes up no column. -/
def SourceText.skipOrderMark (t : SourceText) (i : Nat) : Nat :=
  if i = 0 && (t.chars.getD 0 '\x00').toNat = 0xFEFF then 1 else i

/-- A position in the text while one token is scanned. `start` is where the token begins, `stop` the
    end marked so far. -/
structure Reader where
  text : Array Char
  pos : Nat
  start : Nat
  stop : Nat
  row : Nat
  col : Nat
  stopRow : Nat
  stopCol : Nat
  last : Char

namespace Reader

/-- The next character, NUL at the end. -/
def peek (r : Reader) : Char := r.text.getD r.pos '\x00'

/-- Take the next character into the token. -/
def advance (r : Reader) : Reader :=
  { r with col := r.col + 1, last := r.peek, pos := if r.pos < r.text.size then r.pos + 1 else r.pos }

/-- Take a line break into the token. -/
def advanceLine (r : Reader) : Reader :=
  { r with row := r.row + 1, col := 0, last := r.peek,
           pos := if r.pos < r.text.size then r.pos + 1 else r.pos }

/-- Drop the next character from the token: the token starts after it. -/
def skip (r : Reader) : Reader :=
  let r := r.advance
  { r with start := r.pos }

/-- Drop a line break from the token. -/
def skipLine (r : Reader) : Reader :=
  let r := r.advanceLine
  { r with start := r.pos }

/-- Mark the current position as the end of the token. -/
def mark (r : Reader) : Reader := { r with stop := r.pos, stopRow := r.row, stopCol := r.col }

/-- What is left to read. -/
def remaining (r : Reader) : Nat := r.text.size - r.pos

theorem remaining_advance (r : Reader) (h : r.pos < r.text.size) :
    r.advance.remaining < r.remaining := by
  simp only [remaining, advance, h, if_true]
  omega

/-- Take characters while they satisfy `p`. -/
def advanceWhile (p : Char → Bool) (r : Reader) : Reader :=
  if _ : r.pos < r.text.size then
    if p r.peek then advanceWhile p r.advance else r
  else r
termination_by r.remaining
decreasing_by exact remaining_advance r ‹_›

end Reader

end PlaybookServer.Source

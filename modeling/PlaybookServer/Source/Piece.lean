/-
Module: PlaybookServer.Source.Piece
Purpose: Pieces of a tree while a text is parsed. A piece covers a stretch of the text (with the blanks
  before it), knows what a repair inside it has cost so far, and how many visible nodes it holds.
  Costs decide between readings of a faulty text: a missing token, a skipped stretch and every skipped
  row or character have their price.
Main exports: Extent, PieceSymbol, Piece, Piece.leaf, Piece.node, Piece.compare
-/
import PlaybookServer.Source.Automaton
import PlaybookServer.Source.Layout

namespace PlaybookServer.Source

/-- A length of text in bytes, rows and characters. -/
structure Extent where
  bytes : Nat := 0
  rows : Nat := 0
  chars : Nat := 0
deriving DecidableEq, Repr, Inhabited

instance : Add Extent := ⟨fun a b => ⟨a.bytes + b.bytes, a.rows + b.rows, a.chars + b.chars⟩⟩

/-- What a piece stands for. -/
inductive PieceSymbol where
  /-- A token or form, by number. -/
  | grammar (number : Nat)
  /-- A faulty region. -/
  | fault
  /-- Tokens skipped so far in a region whose end is not known yet. -/
  | skipped
deriving DecidableEq, Repr, Inhabited

/-- Everything about a piece but its parts. -/
structure PieceInfo where
  symbol : PieceSymbol
  shape : Shape := {}
  /-- Beside the tree, as a comment is. -/
  aside : Bool := false
  missing : Bool := false
  /-- Blanks before the piece. -/
  padding : Extent := {}
  size : Extent := {}
  cost : Nat := 0
  /-- Visible nodes among the parts, hidden parts opened. -/
  visibleParts : Nat := 0
  /-- Visible nodes anywhere below. -/
  visibleBelow : Nat := 0
  /-- Scanner memory after the last token inside, if there is one. -/
  layout : Option Layout := none
  /-- Whether that token changed the scanner memory. -/
  changed : Bool := false
  /-- State in which the token was scanned. -/
  scannedIn : Nat := 0
deriving Inhabited

/-- A piece and its parts. -/
inductive Piece where
  | mk (info : PieceInfo) (parts : List Piece)
deriving Inhabited

/-- Prices of repairs. -/
structure Prices where
  fault : Nat := 500
  skippedNode : Nat := 100
  missing : Nat := 610
  skippedRow : Nat := 30
  skippedByte : Nat := 1

/-- The prices in force. -/
def prices : Prices := {}

/-- Every form as an array, for look-up by number. -/
def formArray : Array Form := Form.all.toArray

/-- The kind a symbol shows up as, if it does. -/
def PieceSymbol.shown? : PieceSymbol → Option Kind
  | .grammar n => shownSymbol? formArray n
  | .fault => some .error
  | .skipped => none

namespace Piece

/-- What is known of a piece. -/
def info : Piece → PieceInfo
  | .mk i _ => i

/-- Its parts in order. -/
def parts : Piece → List Piece
  | .mk _ ps => ps

/-- What it stands for. -/
def symbol (p : Piece) : PieceSymbol := p.info.symbol

/-- Whether it has a node of its own. -/
def visible (p : Piece) : Bool := p.symbol.shown?.isSome

/-- Its length with the blanks before it. -/
def total (p : Piece) : Extent := p.info.padding + p.info.size

/-- What the repairs inside it cost. -/
def cost (p : Piece) : Nat := if p.info.missing then prices.missing else p.info.cost

/-- Visible nodes in it, itself included; a skipped stretch counts as one. -/
def nodeCount (p : Piece) : Nat :=
  p.info.visibleBelow + (if p.visible then 1 else 0) + (if p.symbol = .skipped then 1 else 0)

/-- A token, with the scanner memory after it. The end of the text stands beside the tree. -/
def token (id : Nat) (padding size : Extent) (layout : Layout) (changed : Bool) (state : Nat) : Piece :=
  .mk { symbol := .grammar id, aside := id = endId, padding, size, layout := some layout, changed,
        scannedIn := state } []

/-- The end of the parse as a lookahead. -/
def endMark (state : Nat) (padding : Extent := {}) : Piece :=
  .mk { symbol := .grammar endId, aside := true, padding, scannedIn := state } []

/-- A token that the text should have had. -/
def absent (id : Nat) : Piece := .mk { symbol := .grammar id, missing := true, aside := id = endId } []

/-- The same piece put beside the tree or back into it. -/
def setAside (p : Piece) (aside : Bool) : Piece := .mk { p.info with aside } p.parts

/-- Fold one part into what is known of the whole. `index` counts the parts that stand in the tree. -/
def absorb (faulty : Bool) (shape : Shape) (acc : PieceInfo × Nat × Bool) (c : Piece) :
    PieceInfo × Nat × Bool :=
  let (t, index, first) := acc
  let t := if first then { t with padding := c.info.padding, size := c.info.size }
    else { t with size := t.size + c.total }
  let t := if c.symbol = .skipped then t else { t with cost := t.cost + c.cost }
  let hasParts := !c.parts.isEmpty
  let t :=
    if faulty && !c.info.aside && !(c.symbol = .fault && !hasParts) then
      if c.visible then { t with cost := t.cost + prices.skippedNode }
      else if hasParts then { t with cost := t.cost + prices.skippedNode * c.info.visibleParts }
      else t
    else t
  let t := { t with visibleBelow := t.visibleBelow + c.info.visibleBelow }
  let renamed := !c.info.aside && c.symbol ≠ .grammar endId
    && (shape.shown.getD index none).isSome
  let t :=
    if renamed || c.visible then
      { t with visibleBelow := t.visibleBelow + 1, visibleParts := t.visibleParts + 1 }
    else if hasParts then { t with visibleParts := t.visibleParts + c.info.visibleParts }
    else t
  let t := if c.info.layout.isSome then { t with layout := c.info.layout, changed := c.info.changed }
    else t
  (t, if c.info.aside then index else index + 1, false)

/-- A piece made of parts. A faulty region pays for its size. -/
def node (symbol : PieceSymbol) (shape : Shape) (parts : List Piece) : Piece :=
  let faulty := symbol = .fault || symbol = .skipped
  let (t, _, _) := parts.foldl (absorb faulty shape) ({ symbol, shape }, 0, true)
  let t :=
    if faulty then
      { t with cost := t.cost + prices.fault + prices.skippedByte * t.size.bytes
                        + prices.skippedRow * t.size.rows }
    else t
  .mk t parts

/-- The number by which pieces are ordered; regions with a fault come last. -/
def rank : PieceSymbol → Nat
  | .grammar n => n
  | .skipped => 65534
  | .fault => 65535

mutual

/-- Order of two pieces: by symbol, then by number of parts, then by the first parts that differ. -/
def compare : Piece → Piece → Ordering
  | .mk i ps, .mk j qs =>
    match Ord.compare (rank i.symbol) (rank j.symbol) with
    | .eq =>
      match Ord.compare ps.length qs.length with
      | .eq => compareAll ps qs
      | o => o
    | o => o

/-- Order of two lists of pieces of one length. -/
def compareAll : List Piece → List Piece → Ordering
  | p :: ps, q :: qs =>
    match compare p q with
    | .eq => compareAll ps qs
    | o => o
  | _, _ => .eq

end

/-- Whether `new` replaces `old` as a reading of the same text: the cheaper one stays; among readings
    of equal non-zero cost the later one, among faultless readings the smaller one. -/
def preferred (old new : Piece) : Bool :=
  if new.cost < old.cost then true
  else if old.cost < new.cost then false
  else if 0 < old.cost then true
  else compare old new == .gt

/-- Whether two pieces may share a place on the stack. -/
def interchangeable : Option Piece → Option Piece → Bool
  | none, none => true
  | some a, some b =>
    a.symbol = b.symbol
    && ((0 < a.cost && 0 < b.cost)
      || (a.info.padding.bytes = b.info.padding.bytes && a.info.size.bytes = b.info.size.bytes
        && a.parts.length = b.parts.length && a.info.aside = b.info.aside
        && (!a.parts.isEmpty || a.info.layout = b.info.layout)))
  | _, _ => false

/-- Split trailing pieces that stand beside the tree off a list. -/
def splitAside (ps : List Piece) : List Piece × List Piece :=
  let trailing := (ps.reverse.takeWhile fun p => p.info.aside).reverse
  (ps.take (ps.length - trailing.length), trailing)

end Piece

end PlaybookServer.Source

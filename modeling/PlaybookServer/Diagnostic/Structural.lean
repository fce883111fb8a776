/-
Module: PlaybookServer.Diagnostic.Structural
Purpose: Diagnostics from the faults of a parsed text. Where ranges overlap without being equal, the
  wider or earlier one shrinks to its starting point and keeps its end as related information, so that
  what an editor shows never overlaps.
Main exports: IntervalIndex, Collapsing, collapseOverlapping, structuralDiagnostics
-/
import PlaybookServer.Diagnostic.Model
import PlaybookServer.Document.Lowering

namespace PlaybookServer

open Text (Point Range LineMap)

/-- Source of structural diagnostics. -/
def structuralSource : String := "Ansible [YAML]"

/-- Message at the former end of a collapsed range. -/
def scopeEndMessage : String := "the scope of this error ends here"

/-- Severity of a fault. -/
def FaultKind.severity : FaultKind → Severity
  | .warning => .warning
  | _ => .error

/-! ### Overlapping ranges -/

/-- Closed ranges with the positions of their diagnostics, for questions about overlap. -/
structure IntervalIndex where
  /-- In the order of starts, then of ends, then of positions. -/
  entries : List (Range × Nat)
deriving Repr, Inhabited

namespace IntervalIndex

/-- Order of entries. -/
def entryLe (a b : Range × Nat) : Bool :=
  a.1.start.lt b.1.start
  || (a.1.start = b.1.start && (a.1.stop.lt b.1.stop || (a.1.stop = b.1.stop && a.2 ≤ b.2)))

/-- The index of ranges by their positions. -/
def ofRanges (ranges : List Range) : IntervalIndex := ⟨ranges.zipIdx.mergeSort entryLe⟩

/-- Positions of the ranges that have a point in common with a range. Those that start too late stand
    together at the end of the index. -/
def overlapping (x : IntervalIndex) (r : Range) : List Nat :=
  ((x.entries.takeWhile fun e => e.1.start.le r.stop).filter fun e => r.start.le e.1.stop).map Prod.snd

end IntervalIndex

/-- Visiting order: by start, and among equal starts the widest first. -/
def visitsBefore (a b : Range) : Bool :=
  a.start.lt b.start || (a.start = b.start && b.stop.le a.stop)

/-- A diagnostic shrunk to its starting point. -/
def Diagnostic.collapse (uri : Url) (d : Diagnostic) : Diagnostic :=
  { d with
    range := Range.point d.range.start
    related := d.related ++ [⟨uri, Range.point d.range.stop, scopeEndMessage⟩] }

/-- Diagnostics of which some have collapsed. -/
structure Collapsing where
  diagnostics : List Diagnostic
  /-- Positions of those that have. -/
  collapsed : List Nat := []
deriving Repr, Inhabited

namespace Collapsing

/-- Whether a diagnostic counts against a range: it has not collapsed, and its range is a different one that
    covers something. -/
def counts (c : Collapsing) (r : Range) (other : Nat) : Bool :=
  !c.collapsed.elem other && c.diagnostics[other]?.any fun e => !e.range.isEmpty && e.range ≠ r

/-- Visit a diagnostic: it collapses if it covers something and overlaps one that counts. -/
def visit (uri : Url) (index : IntervalIndex) (c : Collapsing) (current : Nat) : Collapsing :=
  match c.diagnostics[current]? with
  | none => c
  | some d =>
    if !d.range.isEmpty
        && (index.overlapping d.range).any fun other => other ≠ current && c.counts d.range other then
      { diagnostics := c.diagnostics.set current (d.collapse uri), collapsed := current :: c.collapsed }
    else c

end Collapsing

/-- Positions in the order in which they are visited. -/
def visitingOrder (ranges : List Range) : List Nat :=
  (ranges.zipIdx.mergeSort fun a b => visitsBefore a.1 b.1).map Prod.snd

/-- Collapse every diagnostic that overlaps a different range that has not collapsed before it. -/
def collapseOverlapping (uri : Url) (ds : List Diagnostic) : List Diagnostic :=
  let ranges := ds.map Diagnostic.range
  let index := IntervalIndex.ofRanges ranges
  ((visitingOrder ranges).foldl (Collapsing.visit uri index) { diagnostics := ds }).diagnostics

/-- The structural diagnostics of a text. -/
def structuralDiagnostics (uri : Url) (text : String) : List Diagnostic :=
  let cs := text.toList
  let lines := LineMap.ofText cs
  collapseOverlapping uri <| (Stream.ofText text).faults.map fun f =>
    { range := lines.spanToRange cs f.span
      severity := f.kind.severity
      message := f.message
      source := structuralSource }

end PlaybookServer

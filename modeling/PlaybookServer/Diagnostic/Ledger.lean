/-
Module: PlaybookServer.Diagnostic.Ledger
Purpose: What has been published on behalf of which document. The last full results of a document are
  kept for quick passes; for every file the ledger counts the documents that have published for it, so
  that a file is cleared when the last of them lets go.
Main exports: Ledger, Ledger.cached, Ledger.store, Ledger.track, Ledger.release
-/
import PlaybookServer.Diagnostic.Model

namespace PlaybookServer

/-- Published results by origin document. -/
structure Ledger where
  /-- Results of the last full pass of a document. -/
  results : Table Url ByFile := []
  /-- Files a document has published for, in address order. -/
  references : Table Url (List Url) := []
  /-- Number of documents that have published for a file. -/
  counts : Table Url Nat := []
deriving Repr, Inhabited

namespace Ledger

/-- The last full results of a document. -/
def cached (l : Ledger) (origin : Url) : ByFile := (l.results.get? origin).getD []

/-- Keep the full results of a document. -/
def store (l : Ledger) (origin : Url) (m : ByFile) : Ledger :=
  { l with results := l.results.set origin m }

/-- Add a reference to a file. -/
def increment (l : Ledger) (u : Url) : Ledger :=
  { l with counts := l.counts.set u ((l.counts.get? u).getD 0 + 1) }

/-- Drop a reference to a file; true when none is left. -/
def decrement (l : Ledger) (u : Url) : Bool × Ledger :=
  match l.counts.get? u with
  | some n =>
    if 1 < n then (false, { l with counts := l.counts.set u (n - 1) })
    else (true, { l with counts := l.counts.erase u })
  | none => (true, l)

/-- Drop references to several files; returns those with none left. -/
def decrementAll (l : Ledger) : List Url → List Url × Ledger
  | [] => ([], l)
  | u :: rest =>
    let (gone, l) := l.decrement u
    let (stale, l) := l.decrementAll rest
    (if gone then u :: stale else stale, l)

/-- Record the files a document has just published for. Returns the files nobody refers to any more. -/
def track (l : Ledger) (origin : Url) (published : ByFile) : List Url × Ledger :=
  let current := published.files
  let previous := (l.references.get? origin).getD []
  let l := (current.filter fun u => !previous.elem u).foldl increment l
  let (stale, l) := l.decrementAll (previous.filter fun u => !current.elem u)
  (stale, { l with references := (l.references.erase origin).set origin current })

/-- Forget a document. Returns the files nobody refers to any more. -/
def release (l : Ledger) (origin : Url) : List Url × Ledger :=
  let previous := (l.references.get? origin).getD []
  let l := { l with results := l.results.erase origin, references := l.references.erase origin }
  l.decrementAll previous

end Ledger

end PlaybookServer

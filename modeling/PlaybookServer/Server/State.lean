/-
Module: PlaybookServer.Server.State
Purpose: What the server keeps: the workspace, the texts of open documents, and which completions are still
  wanted.
Main exports: Phase, State, State.openDocument, State.closeDocument, State.newTicket, inWorkspace, publishAll,
  validateDocument, revalidateAll
-/
import PlaybookServer.Workspace.State

namespace PlaybookServer.Server

open Effect Tool

/-- How far the server is in its life. -/
inductive Phase where
  | uninitialized
  | initialized
  | shutDown
  | exited
deriving DecidableEq, Repr, Inhabited

/-- What the server keeps. -/
structure State where
  phase : Phase := .uninitialized
  workspace : Workspace.State := {}
  /-- Texts of open documents. -/
  documents : Table Url String := []
  /-- The ticket of the last completion in each document. -/
  completions : Table Url Nat := []
  /-- Tickets given so far. -/
  tickets : Nat := 0
  /-- Tickets of completions that nobody wants any more. -/
  cancelled : List Nat := []
  /-- Requests under way, by their ids. -/
  pending : List Json := []
  /-- Requests under way that the client took back. -/
  withdrawn : List Json := []
deriving Inhabited

namespace State

/-- Set the text of a document. -/
def openDocument (s : State) (doc : Url) (text : String) : State :=
  { s with documents := Table.set s.documents doc text }

/-- Take a ticket for a completion, which cancels the one before in the same document. -/
def newTicket (s : State) (doc : Url) : Nat × State :=
  (s.tickets, { s with
    tickets := s.tickets + 1
    cancelled := (Table.get? s.completions doc).toList ++ s.cancelled
    completions := Table.set s.completions doc s.tickets })

/-- Close a document. Its completion is cancelled; the files that nobody refers to any more are returned. -/
def closeDocument (s : State) (doc : Url) : List Url × State :=
  let (stale, ledger) := s.workspace.ledger.release doc
  (stale, { s with
    documents := Table.erase s.documents doc
    cancelled := (Table.get? s.completions doc).toList ++ s.cancelled
    completions := Table.erase s.completions doc
    workspace := { s.workspace with ledger } })

end State

/-- Run a program of the workspace. -/
def inWorkspace {α : Type} (p : Program Workspace.State α) : Program State α :=
  p.zoom (fun (s : State) => s.workspace) fun w (s : State) => { s with workspace := w }

/-- The number of a document's context. -/
def contextFor (doc : Url) : Program State (Option Nat) :=
  inWorkspace (changing fun (w : Workspace.State) => w.contextFor? doc)

/-- Publish the diagnostics of files. -/
def publishAll : ByFile → Program State Unit
  | [] => return ()
  | (file, ds) :: rest => do
    ask (.publish file ds)
    publishAll rest

/-- Publish that files have no diagnostics. -/
def clearAll (files : List Url) : Program State Unit := publishAll (files.map fun f => (f, []))

/-- Drop what is known about a document that was closed while it was validated. -/
def discard (doc : Url) : Program State Unit :=
  inWorkspace (change fun (w : Workspace.State) => { w with ledger := (w.ledger.release doc).2 })

/-- Record and publish the diagnostics of a document, and clear files that it no longer concerns. -/
def publishResults (doc : Url) (found : ByFile) : Program State Unit := do
  let stale ← inWorkspace (changing fun (w : Workspace.State) =>
    ((w.ledger.track doc found).1, { w with ledger := (w.ledger.track doc found).2 }))
  publishAll found
  clearAll stale

/-- Validate an open document and publish what is found, unless it is closed meanwhile. -/
def validateDocument (doc : Url) (quick : Bool) : Program State Unit := do
  match ← look fun (s : State) => Table.get? s.documents doc with
  | none => return ()
  | some text =>
    match ← contextFor doc with
    | none => return ()
    | some n =>
      let found ← inWorkspace (Workspace.validate n doc text quick)
      let stillOpen ← look fun (s : State) => (Table.get? s.documents doc).isSome
      if stillOpen then publishResults doc found else discard doc

/-- Validate documents one after another. -/
def validateEach : List Url → Program State Unit
  | [] => return ()
  | doc :: rest => do
    validateDocument doc false
    validateEach rest

/-- Validate every open document. -/
def revalidateAll : Program State Unit := do
  let docs ← look fun (s : State) => Table.keys s.documents
  validateEach docs

end PlaybookServer.Server

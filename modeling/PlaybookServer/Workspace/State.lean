/-
Module: PlaybookServer.Workspace.State
Purpose: The workspace: its folders, the context of each folder that a document was opened in, and the
  diagnostics published so far.
Main exports: State, State.setFolders, State.changeFolders, State.contextFor?, State.updateSettings,
  State.handleFileEvents, inContext, validate
-/
import PlaybookServer.Diagnostic.Ledger
import PlaybookServer.Diagnostic.Structural
import PlaybookServer.Workspace.Context

namespace PlaybookServer.Workspace

open Effect Tool

/-- What is kept for a workspace. -/
structure State where
  host : HostEnv := {}
  settings : Settings := {}
  /-- Inner folders before outer ones. -/
  folders : List Folder := []
  /-- Numbers of the contexts in use, by the address of their folder. -/
  inUse : Table Url Nat := []
  /-- Every context made so far, by number. -/
  contexts : List Context := []
  ledger : Ledger := {}
deriving Inhabited

namespace State

/-- Replace the folders. -/
def setFolders (s : State) (fs : List Folder) : State := { s with folders := sortFolders fs }

/-- The folder of a document. -/
def folderFor? (s : State) (doc : Url) : Option Folder := Workspace.folderFor? s.folders doc

/-- The number of the context of a document; a folder without one gets it. -/
def contextFor? (s : State) (doc : Url) : Option Nat × State :=
  match s.folderFor? doc with
  | none => (none, s)
  | some f =>
    match Table.get? s.inUse f.uri with
    | some n => (some n, s)
    | none =>
      (some s.contexts.length, { s with
        inUse := Table.set s.inUse f.uri s.contexts.length
        contexts := s.contexts ++ [{ folder := f, host := s.host, settings := s.settings }] })

/-- A context by number. -/
def context (s : State) (n : Nat) : Context := s.contexts.getD n default

/-- Replace a context. -/
def putContext (n : Nat) (c : Context) (s : State) : State := { s with contexts := s.contexts.set n c }

/-- Change every context in use. -/
def eachInUse (s : State) (f : Context → Context) : State :=
  s.inUse.foldl (fun (s : State) (_, n) => putContext n (f (s.context n)) s) s

/-- Folders go and come. The context of a folder that goes is given up. -/
def changeFolders (s : State) (added removed : List Folder) : State :=
  { s with
    inUse := removed.foldl (fun (t : Table Url Nat) f => t.erase f.uri) s.inUse
    folders := Workspace.changeFolders s.folders added removed }

/-- Take new settings, for contexts in use and for later ones. -/
def updateSettings (s : State) (settings : Settings) : State :=
  { s with settings }.eachInUse fun c => c.updateSettings settings

/-- Files have changed. -/
def handleFileEvents (s : State) (changed : List Url) : State :=
  s.eachInUse fun c => c.handleFileEvents changed

end State

/-- Run a program of a context. -/
def inContext {α : Type} (n : Nat) (p : Program Context α) : Program State α :=
  p.zoom (fun (s : State) => s.context n) (State.putContext n)

/-- Diagnostics of a document: those of the tools, kept from the last full pass if it must be quick, and those
    of its structure. -/
def validate (n : Nat) (doc : Url) (text : String) (quick : Bool) : Program State ByFile := do
  let settings ← look fun (s : State) => (s.context n).settings
  if !settings.validation.enabled then return [(doc, [])]
  let found ← if quick then look fun (s : State) => s.ledger.cached doc
    else do
      let found ← inContext n (fullPass doc text)
      let found := found.add doc []
      change fun (s : State) => { s with ledger := s.ledger.store doc found }
      pure found
  return found.add doc (structuralDiagnostics doc text)

end PlaybookServer.Workspace

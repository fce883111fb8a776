/-
Module: PlaybookServer.Diagnostic.Model
Purpose: Diagnostics and the maps that hold them by file. A map by file is a list in the order of the
  files' addresses, each file once.
Main exports: Severity, Related, Diagnostic, Table, ByFile
-/
import PlaybookServer.Text.LineMap
import PlaybookServer.Url.Parse

namespace PlaybookServer

open Text (Point Range)

/-- How bad a finding is. -/
inductive Severity where
  | error
  | warning
  | information
deriving DecidableEq, Repr, Inhabited

/-- A place that belongs to a diagnostic. -/
structure Related where
  uri : Url
  range : Range
  message : String
deriving DecidableEq, Repr, Inhabited

/-- A finding in a file. -/
structure Diagnostic where
  range : Range
  severity : Severity
  message : String
  source : String
  code : Option String := none
  codeUrl : Option String := none
  related : List Related := []
deriving DecidableEq, Repr, Inhabited

/-- A finite map as a list of entries; of several entries for a key the first counts. -/
abbrev Table (κ α : Type) := List (κ × α)

namespace Table

variable {κ α : Type} [DecidableEq κ]

/-- The entry of a key. -/
def get? (t : Table κ α) (k : κ) : Option α := (t.find? fun e => e.1 = k).map Prod.snd

/-- Drop the entries of a key. -/
def erase (t : Table κ α) (k : κ) : Table κ α := t.filter fun e => e.1 ≠ k

/-- Set the entry of a key: an existing entry keeps its place. -/
def set (t : Table κ α) (k : κ) (v : α) : Table κ α :=
  match t with
  | [] => [(k, v)]
  | (k', v') :: rest => if k' = k then (k, v) :: rest else (k', v') :: set rest k v

/-- The keys in order. -/
def keys (t : Table κ α) : List κ := t.map Prod.fst

end Table

/-- Diagnostics by file, in the order of the files' addresses. -/
abbrev ByFile := List (Url × List Diagnostic)

namespace ByFile

/-- The diagnostics of a file. -/
def get? (m : ByFile) (u : Url) : Option (List Diagnostic) :=
  (m.find? fun e => e.1 = u).map Prod.snd

/-- Change the diagnostics of a file; a file without an entry gets one in its place. -/
def alter (m : ByFile) (u : Url) (f : List Diagnostic → List Diagnostic) : ByFile :=
  match m with
  | [] => [(u, f [])]
  | (v, ds) :: rest =>
    if v = u then (v, f ds) :: rest
    else if u.text < v.text then (u, f []) :: (v, ds) :: rest
    else (v, ds) :: alter rest u f

/-- Add diagnostics to a file, after those it has. -/
def add (m : ByFile) (u : Url) (ds : List Diagnostic) : ByFile := m.alter u (· ++ ds)

/-- Replace the diagnostics of a file. -/
def set (m : ByFile) (u : Url) (ds : List Diagnostic) : ByFile := m.alter u fun _ => ds

/-- The files in order. -/
def files (m : ByFile) : List Url := m.map Prod.fst

end ByFile

end PlaybookServer

/-
Module: PlaybookServer.Tool.Discovery
Purpose: Asking the tools where they find modules and collections.
Main exports: discoverPaths
-/
import PlaybookServer.Tool.Lookup
import PlaybookServer.Tool.Runner

namespace PlaybookServer.Tool

open Text Files Effect Docs

variable {σ : Type}

/-- The output of a command that must succeed, or what to tell the user. -/
def runChecked (r : Runner) (executable args : String) : Program σ (Except String String) := do
  match ← r.run executable args [] with
  | .error f => return .error f.text
  | .ok o =>
    if o.success then return .ok o.stdout
    else return .error ("`" ++ executable ++ " " ++ args ++ "` failed: " ++ trimmed o.stderr)

/-- The list under a name, if there is one. -/
def listUnder? (values : Sorted String) (name : String) : Option (List String) :=
  (values.get? name).map readStringList

/-- Paths from the configuration dump. -/
def ofConfigDump (dump : String) (p : ToolPaths) : ToolPaths :=
  let values := parseConfigDump dump
  { p with
    collectionsPaths := (listUnder? values "COLLECTIONS_PATHS").getD p.collectionsPaths
    defaultHosts := (listUnder? values "DEFAULT_HOST_LIST").getD p.defaultHosts }

/-- Paths from the version report. Modules that come with the tool lie below its location. -/
def ofVersionReport (report : String) (p : ToolPaths) : ToolPaths :=
  let values := parseVersionInfo report
  let searched := (listUnder? values "configured module search path").getD p.moduleLocations
  match values.get? "ansible python module location" with
  | some location =>
    { p with moduleLocations := searched ++ [joinPath location "modules"], toolLocation := some location }
  | none => { p with moduleLocations := searched }

/-- Paths from the interpreter's search path, which are searched for collections last. -/
def ofSearchPath (listed : String) (p : ToolPaths) : ToolPaths :=
  { p with
    collectionsPaths := (readStringList listed).foldl (fun ps entry =>
      if ps.contains entry then ps else ps ++ [entry]) p.collectionsPaths }

/-- Arguments that make the interpreter print its search path. -/
def searchPathArgs : String := "-c \"import sys; print(sys.path, end=\\\"\\\")\""

/-- Ask the tools in turn. What one cannot tell is left out, and the user hears of it. -/
def discoverPaths (r : Runner) : Program σ ToolPaths := do
  let p : ToolPaths := {}
  let p ← match ← runChecked r "ansible-config" "dump" with
    | .ok dump => pure (ofConfigDump dump p)
    | .error message => do showError message; pure p
  let p ← match ← runChecked r "ansible" "--version" with
    | .ok report => pure (ofVersionReport report p)
    | .error message => do showError message; pure p
  match ← runChecked r "python3" searchPathArgs with
  | .ok listed => return ofSearchPath listed p
  | .error _ => return p

end PlaybookServer.Tool

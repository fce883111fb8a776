/-
Module: PlaybookServer.Tool.Shell
Purpose: Paths, names and words of command lines: home directories, quoting, and finding executables.
Main exports: HostEnv, expandPath, sanitizeName, quote, joinCommand, locateExecutable
-/
import PlaybookServer.Effect.Program
import PlaybookServer.Files.Path

namespace PlaybookServer.Tool

open Text Files Effect

/-- What the server knows of the process it runs in. -/
structure HostEnv where
  /-- Environment variables. -/
  bindings : List (String × String) := []
  /-- Home directory of the user's account, for when no variable names one. -/
  accountHome : Option String := none
  /-- Number of the user. -/
  userId : String := "0"
  /-- Parent directory of the documentation caches. -/
  cacheRoot : String := "/cache"
deriving DecidableEq, Repr, Inhabited

/-- A variable that is set and not empty. -/
def HostEnv.setting? (e : HostEnv) (name : String) : Option String :=
  (e.bindings.lookup name).filter (· ≠ "")

/-- The user's home directory. -/
def HostEnv.home? (e : HostEnv) : Option String := (e.setting? "HOME").or e.accountHome

/-- The directory for caches of the user: the one that is set, if it is absolute, else one below the home
    directory. -/
def HostEnv.userCache? (e : HostEnv) : Option String :=
  ((e.setting? "XDG_CACHE_HOME").filter isAbsolute).or (e.home?.map fun h => joinPath h ".cache")

/-- Replace a leading mark of the home directory. -/
def expandPath (e : HostEnv) (path : String) : String :=
  match e.home? with
  | none => path
  | some home =>
    match (afterStem? "~/" path).or (afterStem? "$HOME/" path) with
    | some rest => joinPath home rest
    | none => if path = "~" || path = "$HOME" then home else path

/-- A name in which everything but ASCII letters and digits is an underscore. -/
def sanitizeName (name : String) : String :=
  String.ofList (name.toList.map fun c => if c.isAlphanum then c else '_')

/-- A path in double quotes for a command line. -/
def quote (path : String) : String := "\"" ++ replaced "\"" "\\\"" path ++ "\""

/-- An executable with its arguments. -/
def joinCommand (executable args : String) : String :=
  if isBlankLine args.toList then executable else executable ++ " " ++ args

/-- The output of a command that could be run. -/
def output? : Except ExecFault CommandOutput → Option CommandOutput
  | .ok o => some o
  | .error _ => none

/-- The place that the first lookup names. -/
def foundPath? (result : Except ExecFault CommandOutput) : Option String := do
  let o ← output? result
  let found := trimmed o.stdout
  if o.success && found ≠ "" then some found else none

/-- The first place that the second lookup lists after its colon. -/
def listedPath? (result : Except ExecFault CommandOutput) : Option String := do
  let o ← output? result
  let (_, places) ← cutAt? ":" o.stdout
  (wordsOf places).head?

/-- Find an executable on the host by two lookups. -/
def locateExecutable {σ : Type} (name : String) : Program σ (Option String) := do
  match foundPath? (← runLine ("command -v " ++ name)) with
  | some path => return some path
  | none => return listedPath? (← runLine ("whereis " ++ name))

end PlaybookServer.Tool

/-
Module: PlaybookServer.Tool.Runner
Purpose: Running the tools of a workspace folder: on the host, with the user's interpreter, or in the
  container environment.
Main exports: Runner, Runner.resolveExecutable, Runner.withInterpreter, Runner.run, Runner.locate
-/
import PlaybookServer.Container.Environment

namespace PlaybookServer.Tool

open Text Files Effect Container

/-- What the commands of a folder need. -/
structure Runner where
  settings : Settings
  root : String
  host : HostEnv
  /-- The container environment, if it could be set up. -/
  environment : Option Environment := none
deriving DecidableEq, Repr, Inhabited

namespace Runner

/-- Whether commands run in the container environment. -/
def usesEnvironment (r : Runner) : Bool := r.settings.environment.enabled

/-- The place of an executable. Tools that come together are taken from the directory of the configured
    one, if that has a directory. -/
def resolveExecutable (r : Runner) (executable : String) : String :=
  let beside : Option String :=
    if hasStem executable "ansible" && !hasStem executable "ansible-lint" then
      (parent? (expandPath r.host r.settings.tool.path)).filter (· ≠ "")
    else none
  match beside with
  | some dir => joinPath dir executable
  | none => expandPath r.host executable

/-- A configured path, with the folder's directory and the home directory put in. -/
def configuredPath (r : Runner) (path : String) : String :=
  expandPath r.host (replaced "$\x7bworkspaceFolder\x7d" r.root path)

/-- Variables that keep the output of tools plain. -/
def plainOutput : List (String × String) :=
  [("ANSIBLE_FORCE_COLOR", "0"), ("NO_COLOR", "1"), ("PYTHONBREAKPOINT", "0")]

/-- The search path with a directory before it. -/
def searchPath (r : Runner) (bin : String) : String :=
  match r.host.setting? "PATH" with
  | some existing => bin ++ ":" ++ existing
  | none => bin

/-- Variables for the directory of an interpreter: the search path and, above it, the directory of the
    interpreter's own packages. -/
def interpreterVariables (r : Runner) (bin : String) : List (String × String) :=
  ("PATH", r.searchPath bin) ::
    (match parent? bin with
      | some top => [("VIRTUAL_ENV", top)]
      | none => [])

/-- Variables in the order of their names. -/
def ordered (vs : List (String × String)) : List (String × String) := vs.mergeSort fun a b => a.1 ≤ b.1

/-- A command on the host: through the activation script if there is one, else with the configured
    interpreter first on the search path. -/
def withInterpreter (r : Runner) (executable args : String) : CommandRequest :=
  let command := joinCommand executable args
  let i := r.settings.interpreter
  let plain : CommandRequest := { command, cwd := some r.root, env := plainOutput }
  if i.activationScript ≠ "" then
    { plain with command := "bash -c 'source " ++ r.configuredPath i.activationScript ++ " && " ++ command ++ "'" }
  else if i.interpreterPath ≠ "" then
    let vars := match parent? (r.configuredPath i.interpreterPath) with
      | some bin => r.interpreterVariables bin
      | none => []
    { plain with env := ordered (plainOutput ++ vars), envRemove := ["PYTHONHOME"] }
  else plain

/-- Run an executable. The given paths are mounted if it runs in the container environment, without which
    nothing runs once that is asked for. -/
def run {σ : Type} (r : Runner) (executable args : String) (mounts : List String) :
    Program σ (Except ExecFault CommandOutput) := do
  if r.usesEnvironment then
    match r.environment with
    | none => return .error .environmentUnavailable
    | some e =>
      let command ← e.wrapCommand (joinCommand executable args) mounts
      Effect.run { command, cwd := some r.root }
  else Effect.run (r.withInterpreter (r.resolveExecutable executable) args)

/-- Find an executable. The image of a container environment is trusted to have it. -/
def locate {σ : Type} (r : Runner) (executable : String) : Program σ (Option String) := do
  if r.usesEnvironment then return r.environment.map fun _ => executable
  let resolved := r.resolveExecutable executable
  if occursIn "/" resolved then return some resolved
  locateExecutable resolved

end Runner

end PlaybookServer.Tool

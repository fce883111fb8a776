/-
Module: PlaybookServer.Workspace.Context
Purpose: What the server keeps for a folder: settings, the container environment, where the tools find their
  parts, and the module library. Each is built when first needed and given up when what it depends on changes.
Main exports: Context, Context.updateSettings, Context.handleFileEvents, executionEnvironment, runner,
  toolPaths, library, completionRequest, fullPass
-/
import PlaybookServer.Completion.Complete
import PlaybookServer.Effect.Deferred
import PlaybookServer.Lint.Run
import PlaybookServer.Lint.SyntaxCheck
import PlaybookServer.Tool.Discovery
import PlaybookServer.Workspace.Folder
import PlaybookServer.Workspace.RoleMetadata

namespace PlaybookServer.Workspace

open Effect Tool Container Docs Lint

/-- What is kept for a folder. -/
structure Context where
  folder : Folder
  host : HostEnv
  settings : Settings := {}
  /-- The container environment; none inside when it could not be set up. -/
  environment : Deferred (Option Environment) := {}
  paths : Deferred ToolPaths := {}
  library : Deferred Library := {}
  roles : RoleMetadata := []
  lint : LintState := {}
deriving Inhabited

namespace Context

/-- The folder's directory. -/
def root (c : Context) : String := c.folder.root

/-- Give up what depends on files and tools. -/
def giveUp (c : Context) : Context :=
  { c with paths := c.paths.invalidate, library := c.library.invalidate }

/-- Take new settings. The container environment stays unless its own settings changed. -/
def updateSettings (c : Context) (settings : Settings) : Context :=
  giveUp { c with
    settings
    environment := if c.settings.environment = settings.environment then c.environment
      else c.environment.invalidate }

/-- Forget what was read from changed files; a change inside the folder also concerns the library. -/
def handleFileEvents (c : Context) (changed : List Url) : Context :=
  let c := { c with
    roles := c.roles.forget changed
    lint := { c.lint with configs := c.lint.configs.forget changed } }
  if changed.any c.folder.holds then c.giveUp else c

/-- Collections that a document's role declares. -/
def roleCollections (doc : Url) : Program Context (List String) := do
  let fs ← seeFiles
  changing fun (c : Context) =>
    let (found, roles) := c.roles.collectionsFor fs doc
    (found, { c with roles })

end Context

/-! ### What is built when needed -/

/-- Set the container environment up, or tell the user why there is none. -/
def setUpEnvironment (settings : Settings) : Program Context (Option Environment) := do
  let (root, host) ← look fun (c : Context) => (c.root, c.host)
  match ← Environment.setUp settings.environment root host with
  | .ok e => return some e
  | .error f =>
    showError (f.text ++ ". The execution environment is disabled for this session.")
    return none

/-- The container environment, if it is asked for. -/
def executionEnvironment : Program Context (Option Environment) := do
  let settings ← look fun (c : Context) => c.settings
  if !settings.environment.enabled then return none
  getOrBuild (fun (c : Context) => c.environment) (fun d (c : Context) => { c with environment := d })
    (setUpEnvironment settings)

/-- The runner of the folder's commands. -/
def runner : Program Context Runner := do
  let environment ← executionEnvironment
  look fun (c : Context) => { settings := c.settings, root := c.root, host := c.host, environment }

/-- Ask the tools for their paths. Paths inside the container environment are brought to the host. -/
def findToolPaths : Program Context ToolPaths := do
  let r ← runner
  let paths ← discoverPaths r
  match ← executionEnvironment with
  | none => return paths
  | some e =>
    match ← e.fetchPluginDocs paths with
    | .ok onHost => return onHost
    | .error f =>
      showError f.text
      return paths

/-- Where the tools find their parts. -/
def toolPaths : Program Context ToolPaths :=
  getOrBuild (fun (c : Context) => c.paths) (fun d (c : Context) => { c with paths := d }) findToolPaths

/-- Scan for modules. -/
def buildLibrary : Program Context Library := do
  let paths ← toolPaths
  let fs ← seeFiles
  return Library.index fs paths

/-- The module library. -/
def library : Program Context Library :=
  getOrBuild (fun (c : Context) => c.library) (fun d (c : Context) => { c with library := d }) buildLibrary

/-! ### Completion -/

/-- Keep the documentation of modules that were looked at. -/
def rememberModules (names : List String) : Program Context Unit := do
  let fs ← seeFiles
  change fun (c : Context) =>
    { c with library := c.library.modify fun l => names.foldl (fun (l : Library) n => l.remember fs n) l }

/-- Everything a completion needs. -/
def completionRequest (uri : Url) (text : String) (position : Text.Point) :
    Program Context Completion.Request := do
  let library ← library
  let settings ← look fun (c : Context) => c.settings
  let roleCollections ← Context.roleCollections uri
  let fs ← seeFiles
  return { uri, text, position, settings, library, roleCollections, fs }

/-- Candidates for a request. -/
def completeRequest (r : Completion.Request) : Program Context (Option (List Completion.Candidate)) := do
  rememberModules (Completion.consultedModules r)
  return Completion.complete r

/-- What is said about a module. -/
def moduleDocumentation (name : String) : Program Context (Option String) := do
  let l ← library
  let fs ← seeFiles
  rememberModules ((Completion.documentedModule? l name).map Module.fullName).toList
  return Completion.moduleDocumentation? l fs name

/-! ### Validation by the tools -/

/-- Run the linter with the folder's state. -/
def runLint (r : Runner) (settings : LintSettings) (doc : Url) : Program Context (Except LintFault ByFile) :=
  (lint r settings doc).zoom (fun (c : Context) => c.lint) fun s (c : Context) => { c with lint := s }

/-- Without the linter, playbooks have their syntax checked. -/
def checkPlaybook (r : Runner) (doc : Url) (text : String) : Program Context ByFile := do
  if !Playbook.isPlaybook text then return []
  match ← syntaxCheck r doc with
  | .ok found => return found
  | .error _ => return []

/-- Tell the user once that the linter is missing. -/
def reportMissing (tool : String) : Program Context Unit := do
  let shown ← changing fun (c : Context) =>
    (c.lint.missingToolShown, { c with lint := { c.lint with missingToolShown := true } })
  if shown then return ()
  showError (LintFault.toolNotFound tool).text

/-- Diagnostics of the tools for a document. -/
def fullPass (doc : Url) (text : String) : Program Context ByFile := do
  let settings ← look fun (c : Context) => c.settings.validation.lint
  let r ← runner
  if !settings.enabled then checkPlaybook r doc text
  else
    match ← r.locate settings.path with
    | none =>
      reportMissing settings.path
      return []
    | some _ =>
      match ← runLint r settings doc with
      | .ok found => return found
      | .error f =>
        showError f.text
        return []

end PlaybookServer.Workspace

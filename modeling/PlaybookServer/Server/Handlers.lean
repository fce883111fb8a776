/-
Module: PlaybookServer.Server.Handlers
Purpose: What the server does on each message of the client.
Main exports: handleInitialize, handleInitialized, handleOpen, handleChange, handleSave, handleClose,
  handleWatchedFiles, handleFolders, handleConfiguration, handleCompletion, handleResolve
-/
import PlaybookServer.Server.Item
import PlaybookServer.Server.State

namespace PlaybookServer.Server

open Effect

/-! ### Settings -/

/-- Settings from what the client sends: the section of the tool if that is an object, else the whole; none if
    it sent no object. -/
def settingsOf? (payload : Json) : Option (Except String Settings) :=
  match payload with
  | .object _ =>
    match payload.get? "ansible" with
    | some (.object fields) => some (Settings.ofJson (.object fields))
    | _ => some (Settings.ofJson payload)
  | _ => none

/-- Take new settings. -/
def takeSettings (settings : Settings) : Program State Unit :=
  inWorkspace (change fun (w : Workspace.State) => w.updateSettings settings)

/-! ### Start -/

/-- The name of the server. -/
def serverName : String := "playbook-ls"

/-- The version of the server. -/
def serverVersion : String := "0.3.0"

/-- What the server can do. -/
def capabilities : Json :=
  .object
    [("textDocumentSync", .object
        [("openClose", .bool true), ("change", .nat 1), ("save", .object [("includeText", .bool true)])]),
     ("completionProvider", .object [("resolveProvider", .bool true)]),
     ("workspace", .object
        [("workspaceFolders", .object [("supported", .bool true), ("changeNotifications", .bool true)])])]

/-- The reply to the first message. -/
def initialReply : Json :=
  .object [("capabilities", capabilities),
    ("serverInfo", .object [("name", .string serverName), ("version", .string serverVersion)])]

/-- Log the folders. -/
def logFolders : List Workspace.Folder → Program State Unit
  | [] => return ()
  | f :: rest => do
    ask (.log .info ("Initializing workspace folder at: " ++ f.uri.text))
    logFolders rest

/-- Start with the client's folders and settings; settings that cannot be read are ignored. -/
def handleInitialize (p : InitialParams) : Program State Json := do
  ask (.noteProgress (p.showsProgress.getD false))
  let folders := p.startFolders
  if folders.isEmpty then ask (.log .warning "No workspace folder provided!")
  logFolders folders
  inWorkspace (change fun (w : Workspace.State) => w.setFolders folders)
  match p.options.bind settingsOf? with
  | some (.ok settings) => takeSettings settings
  | _ => return initialReply
  return initialReply

/-- Ask for news of files once the client is ready. -/
def handleInitialized : Program State Unit := do
  ask .watchFiles
  ask (.log .info "Client initialized, ready to accept requests")

/-! ### Documents -/

/-- A document was opened. -/
def handleOpen (p : OpenParams) : Program State Unit := do
  change fun (s : State) => s.openDocument p.uri p.text
  validateDocument p.uri false

/-- A document was changed; its last text counts. -/
def handleChange (p : ChangeParams) : Program State Unit := do
  match p.texts.getLast? with
  | none => return ()
  | some text =>
    change fun (s : State) => s.openDocument p.uri text
    validateDocument p.uri true

/-- A document was saved. -/
def handleSave (p : SaveParams) : Program State Unit := do
  match p.text with
  | some text => change fun (s : State) => s.openDocument p.uri text
  | none => pure ()
  validateDocument p.uri false

/-- A document was closed. -/
def handleClose (doc : Url) : Program State Unit := do
  let stale ← changing fun (s : State) => s.closeDocument doc
  clearAll stale

/-! ### The workspace -/

/-- Files changed. -/
def handleWatchedFiles (changes : List WatchedChange) : Program State Unit :=
  let changed := (changes.filter WatchedChange.isKnown).map WatchedChange.uri
  inWorkspace (change fun (w : Workspace.State) => w.handleFileEvents changed)

/-- Folders changed. -/
def handleFolders (p : FolderParams) : Program State Unit :=
  inWorkspace (change fun (w : Workspace.State) => w.changeFolders p.added p.removed)

/-- Settings changed. -/
def handleConfiguration (payload : Json) : Program State Unit := do
  match settingsOf? payload with
  | some (.ok settings) =>
    takeSettings settings
    ask (.log .info "Settings updated")
    revalidateAll
  | some (.error e) => ask (.log .error ("Failed to parse updated settings: " ++ e))
  | none => return ()

/-! ### Completion -/

/-- Candidates at a position. None when the document is not open, or when a later completion or the closing of
    the document made this one unwanted. -/
def handleCompletion (p : CompletionParams) : Program State Json := do
  match ← look fun (s : State) => Table.get? s.documents p.uri with
  | none => return .null
  | some text =>
    match ← contextFor p.uri with
    | none => return .null
    | some n =>
      let ticket ← changing fun (s : State) => s.newTicket p.uri
      let r ← inWorkspace (Workspace.inContext n (Workspace.completionRequest p.uri text p.position))
      if ← look fun (s : State) => s.cancelled.contains ticket then return .null
      match ← inWorkspace (Workspace.inContext n (Workspace.completeRequest r)) with
      | some cs => return .array (cs.map (itemObject p.uri))
      | none => return .null

/-- An item with the documentation of its module. -/
def handleResolve (i : Item) : Program State Json := do
  match i.origin? with
  | none => return i.toJson
  | some o =>
    match ← contextFor o.doc with
    | none => return i.toJson
    | some n =>
      match ← inWorkspace (Workspace.inContext n (Workspace.moduleDocumentation o.moduleName)) with
      | some text => return (i.withDocumentation text).toJson
      | none => return i.toJson

end PlaybookServer.Server

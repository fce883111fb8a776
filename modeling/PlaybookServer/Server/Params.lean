/-
Module: PlaybookServer.Server.Params
Purpose: The parameters of the client's messages, as far as the server uses them, and how they are read.
Main exports: InitialParams, OpenParams, ChangeParams, SaveParams, CompletionParams, WatchedChange, FolderParams
-/
import PlaybookServer.Server.Capabilities
import PlaybookServer.Server.Requests
import PlaybookServer.Text.LineMap
import PlaybookServer.Workspace.Folder

namespace PlaybookServer.Server

open Json Text
open Workspace (Folder)

/-- A value that is looked at no further. -/
def decodeAny (j : Json) : Except String Json := .ok j

/-- Read a field that must be there and use nothing of it. -/
def ignore {σ α : Type} (name : String) (decode : Json → Except String α) : Slot σ :=
  .needed name decode fun r _ => r

/-- Read a field that may be missing and use nothing of it. -/
def ignorePerhaps {σ α : Type} (name : String) (decode : Json → Except String α) : Slot σ :=
  .perhaps name (decodeOptional decode) fun r _ => r

/-! ### Positions -/

/-- A position. -/
def decodePosition : Json → Except String Point :=
  decodeRecord "Position"
    [.needed "line" decodeUnsigned32 fun (p : Point) v => { p with line := v },
     .needed "character" decodeUnsigned32 fun p v => { p with col := v }] default

/-- A range. -/
def decodeRange : Json → Except String Range :=
  decodeRecord "Range"
    [.needed "start" decodePosition fun (r : Range) v => { r with start := v },
     .needed "end" decodePosition fun r v => { r with stop := v }] default

/-! ### Documents -/

/-- The address of a document. -/
def decodeDocument : Json → Except String Url :=
  decodeRecord "TextDocumentIdentifier" [.needed "uri" decodeUrl fun _ v => v] default

/-- A document that was opened. -/
structure OpenParams where
  uri : Url
  text : String
deriving DecidableEq, Repr, Inhabited

/-- A document with its text. -/
def decodeItem : Json → Except String OpenParams :=
  decodeRecord "TextDocumentItem"
    [.needed "uri" decodeUrl fun (p : OpenParams) v => { p with uri := v },
     ignore "languageId" decodeText, ignore "version" decodeSigned32,
     .needed "text" decodeText fun p v => { p with text := v }] default

/-- Parameters of an opened document. -/
def OpenParams.ofJson : Json → Except String OpenParams :=
  decodeRecord "DidOpenTextDocumentParams" [.needed "textDocument" decodeItem fun _ v => v] default

/-- A document that changed: its address and its whole texts, oldest first. -/
structure ChangeParams where
  uri : Url
  texts : List String
deriving DecidableEq, Repr, Inhabited

/-- The address of a document at a version. -/
def decodeVersioned : Json → Except String Url :=
  decodeRecord "VersionedTextDocumentIdentifier"
    [.needed "uri" decodeUrl fun _ v => v, ignore "version" decodeSigned32] default

/-- A change of a document's text. -/
def decodeChange : Json → Except String String :=
  decodeRecord "TextDocumentContentChangeEvent"
    [ignorePerhaps "range" decodeRange, ignorePerhaps "rangeLength" decodeUnsigned32,
     .needed "text" decodeText fun _ v => v] default

/-- Parameters of a changed document. -/
def ChangeParams.ofJson : Json → Except String ChangeParams :=
  decodeRecord "DidChangeTextDocumentParams"
    [.needed "textDocument" decodeVersioned fun (p : ChangeParams) v => { p with uri := v },
     .needed "contentChanges" (decodeList decodeChange) fun p v => { p with texts := v }] default

/-- A document that was saved, with its text if the client sends it. -/
structure SaveParams where
  uri : Url
  text : Option String
deriving DecidableEq, Repr, Inhabited

/-- Parameters of a saved document. -/
def SaveParams.ofJson : Json → Except String SaveParams :=
  decodeRecord "DidSaveTextDocumentParams"
    [.needed "textDocument" decodeDocument fun (p : SaveParams) v => { p with uri := v },
     .perhaps "text" (decodeOptional decodeText) fun p v => { p with text := v }] default

/-- Parameters of a closed document. -/
def decodeClosed : Json → Except String Url :=
  decodeRecord "DidCloseTextDocumentParams" [.needed "textDocument" decodeDocument fun _ v => v] default

/-! ### The workspace -/

/-- A folder. -/
def decodeFolder : Json → Except String Folder :=
  decodeRecord "WorkspaceFolder"
    [.needed "uri" decodeUrl fun (f : Folder) v => { f with uri := v },
     .needed "name" decodeText fun f v => { f with name := v }] default

/-- Folders that came and went. -/
structure FolderParams where
  added : List Folder := []
  removed : List Folder := []
deriving DecidableEq, Repr, Inhabited

/-- A change of folders. -/
def decodeFolderEvent : Json → Except String FolderParams :=
  decodeRecord "WorkspaceFoldersChangeEvent"
    [.needed "added" (decodeList decodeFolder) fun (p : FolderParams) v => { p with added := v },
     .needed "removed" (decodeList decodeFolder) fun p v => { p with removed := v }] default

/-- Parameters of a change of folders. -/
def FolderParams.ofJson : Json → Except String FolderParams :=
  decodeRecord "DidChangeWorkspaceFoldersParams" [.needed "event" decodeFolderEvent fun _ v => v] default

/-- A file that changed, and the number for how. -/
structure WatchedChange where
  uri : Url
  kind : Int
deriving DecidableEq, Repr, Inhabited

/-- Whether a change is a creation, a change or a deletion. -/
def WatchedChange.isKnown (c : WatchedChange) : Bool := 1 ≤ c.kind && c.kind ≤ 3

/-- A change of a file. -/
def decodeWatched : Json → Except String WatchedChange :=
  decodeRecord "FileEvent"
    [.needed "uri" decodeUrl fun (c : WatchedChange) v => { c with uri := v },
     .needed "type" decodeSigned32 fun c v => { c with kind := v }] default

/-- Parameters of changed files. -/
def decodeWatchedFiles : Json → Except String (List WatchedChange) :=
  decodeRecord "DidChangeWatchedFilesParams" [.needed "changes" (decodeList decodeWatched) fun _ v => v] []

/-- Parameters of changed settings. -/
def decodeConfiguration : Json → Except String Json :=
  decodeRecord "DidChangeConfigurationParams" [.needed "settings" decodeAny fun _ v => v] default

/-! ### Completion -/

/-- Where completion is asked for. -/
structure CompletionParams where
  uri : Url
  position : Point
deriving DecidableEq, Repr, Inhabited

/-- A position in a document, among other fields. -/
def decodePlace : Json → Except String CompletionParams :=
  decodeRecord "TextDocumentPositionParams"
    [.needed "textDocument" decodeDocument fun (p : CompletionParams) v => { p with uri := v },
     .needed "position" decodePosition fun p v => { p with position := v }] default

/-- Parameters of a completion. -/
def CompletionParams.ofJson (j : Json) : Except String CompletionParams := do
  decodePlace (← Protocol.completionParams.read j)

/-! ### The start -/

/-- What a client says about itself and its workspace. -/
structure InitialParams where
  rootUri : Option Url := none
  folders : Option (List Folder) := none
  options : Option Json := none
  showsProgress : Option Bool := none
deriving Repr, Inhabited

/-- What the client can do: whether its windows show progress, if it says so. -/
def decodeCapabilities (j : Json) : Except String (Option Bool) := do
  let window := (← Protocol.capabilities.read j).get? "window"
  return match window.bind (·.get? "workDoneProgress") with
    | some (.bool b) => some b
    | _ => none

/-- The client's name and version. -/
def decodeClientInfo : Json → Except String Unit :=
  decodeRecord "ClientInfo" [ignore "name" decodeText, ignorePerhaps "version" decodeText] ()

/-- Parameters of the first message. -/
def InitialParams.ofJson : Json → Except String InitialParams :=
  decodeRecord "InitializeParams"
    [ignorePerhaps "processId" decodeUnsigned32, ignorePerhaps "rootPath" decodeText,
     .of "rootUri" (decodeOptional decodeUrl) fun (p : InitialParams) v => { p with rootUri := v },
     .perhaps "initializationOptions" (decodeOptional decodeAny) fun p v => { p with options := v },
     .needed "capabilities" decodeCapabilities fun p v => { p with showsProgress := v },
     .of "trace" (decodeOptional (decodeChoice [("off", ()), ("messages", ()), ("verbose", ())])) fun p _ => p,
     .perhaps "workspaceFolders" (decodeOptional (decodeList decodeFolder)) fun p v => { p with folders := v },
     ignorePerhaps "clientInfo" decodeClientInfo, ignorePerhaps "locale" decodeText] {}

/-- The folders to start with: those that are given, else the root under its own name. -/
def InitialParams.startFolders (p : InitialParams) : List Folder :=
  match p.folders, p.rootUri with
  | some fs, _ => fs
  | none, some uri =>
    let segments := if hasStem uri.path "/" then (pieces '/' uri.path).filter (· ≠ "") else []
    [⟨uri, segments.getLast?.getD ""⟩]
  | none, none => []

end PlaybookServer.Server

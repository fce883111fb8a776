/-
Module: PlaybookServer.Server.Outgoing
Purpose: What the server sends to the client: notifications, requests and replies, as JSON.
Main exports: rangeObject, diagnosticObject, notification, request, logMessage, showMessage, publishDiagnostics,
  registerWatcher, createProgress, beginProgress, endProgress, ReplyFault, replyOk, replyError
-/
import PlaybookServer.Diagnostic.Model
import PlaybookServer.Effect.Query
import PlaybookServer.Json.Value

namespace PlaybookServer.Server

open Text (Point Range)
open Effect (Level)

/-- A field that is left out when there is nothing to send. -/
def sentIf (name : String) (v : Option Json) : List (String × Json) := v.toList.map (name, ·)

/-! ### Diagnostics -/

/-- A position. -/
def positionObject (p : Point) : Json := .object [("line", .nat p.line), ("character", .nat p.col)]

/-- A range. -/
def rangeObject (r : Range) : Json := .object [("start", positionObject r.start), ("end", positionObject r.stop)]

/-- The number of a severity. -/
def severityNumber : Severity → Nat
  | .error => 1
  | .warning => 2
  | .information => 3

/-- A related place. -/
def relatedObject (r : Related) : Json :=
  .object [("location", .object [("uri", .string r.uri.text), ("range", rangeObject r.range)]),
    ("message", .string r.message)]

/-- The address that explains a code, if it is one. -/
def codeAddress? (d : Diagnostic) : Option Json := do
  let text ← d.codeUrl
  match Url.parse text with
  | .ok u => some (.object [("href", .string u.text)])
  | .error _ => none

/-- A diagnostic. -/
def diagnosticObject (d : Diagnostic) : Json :=
  .object ([("range", rangeObject d.range), ("severity", .nat (severityNumber d.severity))]
    ++ sentIf "code" (d.code.map .string) ++ sentIf "codeDescription" (codeAddress? d)
    ++ [("source", .string d.source), ("message", .string d.message)]
    ++ sentIf "relatedInformation"
      (if d.related.isEmpty then none else some (.array (d.related.map relatedObject))))

/-! ### Messages -/

/-- A message that has no reply. -/
def notification (method : String) (params : Json) : Json :=
  .object [("jsonrpc", .string "2.0"), ("method", .string method), ("params", params)]

/-- A message that the client replies to. -/
def request (id : Nat) (method : String) (params : Json) : Json :=
  .object [("jsonrpc", .string "2.0"), ("method", .string method), ("params", params), ("id", .nat id)]

/-- The number of a level. -/
def levelNumber : Level → Nat
  | .error => 1
  | .warning => 2
  | .info => 3

/-- A text with its level. -/
def leveledText (level : Level) (message : String) : Json :=
  .object [("type", .nat (levelNumber level)), ("message", .string message)]

/-- A line of the client's log. -/
def logMessage (level : Level) (message : String) : Json :=
  notification "window/logMessage" (leveledText level message)

/-- A text that the user sees. -/
def showMessage (level : Level) (message : String) : Json :=
  notification "window/showMessage" (leveledText level message)

/-- The diagnostics of a file. -/
def publishDiagnostics (file : Url) (ds : List Diagnostic) : Json :=
  notification "textDocument/publishDiagnostics"
    (.object [("uri", .string file.text), ("diagnostics", .array (ds.map diagnosticObject))])

/-- Ask for news of all files. -/
def registerWatcher (id : Nat) : Json :=
  let watcher : Json := .object [("globPattern", .string "**/*")]
  let registration : Json := .object
    [("id", .string "playbook-ls/watched-files"), ("method", .string "workspace/didChangeWatchedFiles"),
     ("registerOptions", .object [("watchers", .array [watcher])])]
  request id "client/registerCapability" (.object [("registrations", .array [registration])])

/-- The name of the n-th progress indicator. -/
def progressToken (n : Nat) : String := "playbook-ls/" ++ toString n

/-- Ask for a progress indicator. -/
def createProgress (id : Nat) (token : String) : Json :=
  request id "window/workDoneProgress/create" (.object [("token", .string token)])

/-- News of a progress indicator. -/
def progressNews (token : String) (value : List (String × Json)) : Json :=
  notification "$/progress" (.object [("token", .string token), ("value", .object value)])

/-- A progress indicator starts. -/
def progressBegin (token title message : String) : Json :=
  progressNews token [("kind", .string "begin"), ("title", .string title), ("cancellable", .bool false),
    ("message", .string message)]

/-- A progress indicator ends. -/
def progressEnd (token : String) : Json := progressNews token [("kind", .string "end")]

/-! ### Replies -/

/-- Why a request has no result. -/
inductive ReplyFault where
  | invalidRequest
  | methodNotFound (data : Option String)
  | invalidParams (reason : String)
  | notInitialized
  | canceled
deriving DecidableEq, Repr, Inhabited

/-- The number of a fault. -/
def ReplyFault.code : ReplyFault → Int
  | .invalidRequest => -32600
  | .methodNotFound _ => -32601
  | .invalidParams _ => -32602
  | .notInitialized => -32002
  | .canceled => -32800

/-- The text of a fault. -/
def ReplyFault.text : ReplyFault → String
  | .invalidRequest => "Invalid request"
  | .methodNotFound _ => "Method not found"
  | .invalidParams reason => reason
  | .notInitialized => "Server not initialized"
  | .canceled => "Canceled"

/-- A fault. -/
def ReplyFault.toJson (f : ReplyFault) : Json :=
  .object ([("code", .number (.int f.code)), ("message", .string f.text)]
    ++ (match f with
      | .methodNotFound data => sentIf "data" (data.map .string)
      | _ => []))

/-- A reply with a result. -/
def replyOk (id result : Json) : Json :=
  .object [("jsonrpc", .string "2.0"), ("result", result), ("id", id)]

/-- A reply with a fault. -/
def replyError (id : Json) (f : ReplyFault) : Json :=
  .object [("jsonrpc", .string "2.0"), ("error", f.toJson), ("id", id)]

end PlaybookServer.Server

/-
Module: PlaybookServer.Server.Dispatch
Purpose: From a message of the client to what the server does and replies, by method and by how far the server is
  in its life.
Main exports: Incoming, Reply, receive, withdrawnReply?
-/
import PlaybookServer.Json.Printer
import PlaybookServer.Server.Handlers

namespace PlaybookServer.Server

open Effect

/-- A message of the client. With an id it is a request. -/
structure Incoming where
  method : String
  params : Option Json := none
  id : Option Json := none
deriving Repr, Inhabited

/-- What comes back. -/
inductive Reply where
  | silence
  | message (j : Json)
  /-- The server is gone. -/
  | gone
deriving Repr, Inhabited

/-- A reply with a fault, if there is someone to reply to. -/
def refuse (id : Option Json) (f : ReplyFault) : Reply :=
  match id with
  | some id => .message (replyError id f)
  | none => .silence

/-- Read parameters, which must be given. -/
def readParams {α : Type} (decode : Json → Except String α) : Option Json → Except ReplyFault α
  | none => .error (.invalidParams "Missing params field")
  | some j => (decode j).mapError ReplyFault.invalidParams

/-- Handle a request. One that nobody wants a reply to is ignored. -/
def answering {α : Type} (m : Incoming) (decode : Json → Except String α) (run : α → Program State Json) :
    Program State Reply := do
  match m.id with
  | none => return .silence
  | some id =>
    match readParams decode m.params with
    | .error f => return .message (replyError id f)
    | .ok p => return .message (replyOk id (← run p))

/-- Handle a notification. One that asks for a reply is refused, and one whose parameters cannot be read is
    ignored. -/
def noticing {α : Type} (m : Incoming) (decode : Json → Except String α) (run : α → Program State Unit) :
    Program State Reply := do
  match m.id, readParams decode m.params with
  | none, .ok p =>
    run p
    return .silence
  | id, _ => return refuse id .invalidRequest

/-! ### Life -/

/-- The fault of a message that comes too early or too late. -/
def Phase.fault : Phase → ReplyFault
  | .uninitialized => .notInitialized
  | _ => .invalidRequest

/-- The first message starts the server; parameters that cannot be read leave it as it is. -/
def start (m : Incoming) : Program State Reply := do
  match ← look fun (s : State) => s.phase with
  | .uninitialized =>
    answering m InitialParams.ofJson fun p => do
      let result ← handleInitialize p
      change fun (s : State) => { s with phase := .initialized }
      return result
  | _ => return refuse m.id .invalidRequest

/-- Shut the server down. -/
def stop (m : Incoming) : Program State Reply := do
  match ← look fun (s : State) => s.phase with
  | .initialized =>
    change fun (s : State) => { s with phase := .shutDown }
    match m.id, m.params with
    | none, _ => return .silence
    | some id, none => return .message (replyOk id .null)
    | some id, some j => return .message (replyError id (.invalidParams ("Unexpected params: " ++ j.render)))
  | phase => return refuse m.id phase.fault

/-- Leave. -/
def leave : Program State Reply := do
  change fun (s : State) => { s with phase := .exited }
  return .silence

/-! ### Requests under way -/

/-- The id of a request that the client takes back. -/
def decodeWithdrawal : Json → Except String Json :=
  Json.decodeRecord "CancelParams" [.needed "id" (Json.Shape.read Protocol.numberOrText) fun _ v => v] default

/-- Whether two ids are the same. -/
def sameId (a b : Json) : Bool := a.render = b.render

/-- Take a request back, if it is under way. -/
def withdraw (id : Json) : Program State Unit :=
  change fun (s : State) =>
    if s.pending.any (sameId id) then { s with withdrawn := id :: s.withdrawn } else s

/-- Run a request as one that is under way. Two of the same id cannot be. -/
def underWay (m : Incoming) (p : Program State Reply) : Program State Reply := do
  match m.id with
  | none => p
  | some id =>
    if ← look fun (s : State) => s.pending.any (sameId id) then return refuse m.id .invalidRequest
    change fun (s : State) => { s with pending := id :: s.pending }
    let reply ← p
    change fun (s : State) => { s with pending := s.pending.filter fun x => !sameId id x }
    return reply

/-- The reply to a request that was taken back while it was under way. -/
def withdrawnReply? (s : State) (m : Incoming) : Option Reply := do
  let id ← m.id
  if s.withdrawn.any (sameId id) then some (refuse m.id .canceled) else none

/-! ### Methods -/

/-- Refuse a request that is known but not served, unless its parameters cannot be read. -/
def unserved {α : Type} (m : Incoming) (decode : Json → Except String α) : Program State Reply :=
  match readParams decode m.params with
  | .error f => return refuse m.id f
  | .ok _ => return refuse m.id (.methodNotFound none)

/-- Parameters without fields. -/
def decodeNothing : Json → Except String Unit := Json.decodeRecord "InitializedParams" [] ()

/-- The program of a message, by its method; none if the method is not known. -/
def methodProgram? (m : Incoming) : Option (Program State Reply) :=
  match m.method with
  | "initialized" => some (noticing m decodeNothing fun _ => handleInitialized)
  | "textDocument/didOpen" => some (noticing m OpenParams.ofJson handleOpen)
  | "textDocument/didChange" => some (noticing m ChangeParams.ofJson handleChange)
  | "textDocument/didSave" => some (noticing m SaveParams.ofJson handleSave)
  | "textDocument/didClose" => some (noticing m decodeClosed handleClose)
  | "workspace/didChangeWatchedFiles" => some (noticing m decodeWatchedFiles handleWatchedFiles)
  | "workspace/didChangeWorkspaceFolders" => some (noticing m FolderParams.ofJson handleFolders)
  | "workspace/didChangeConfiguration" => some (noticing m decodeConfiguration handleConfiguration)
  | "textDocument/completion" => some (answering m CompletionParams.ofJson handleCompletion)
  | "completionItem/resolve" => some (answering m Item.ofJson handleResolve)
  | method =>
    if let some shape := unservedRequests.lookup method then some (unserved m shape.read)
    else if unusedNotifications.contains method then some (noticing m decodeAny fun _ => return ())
    else none

/-- Handle a message. -/
def receive (m : Incoming) : Program State Reply := do
  let phase ← look fun (s : State) => s.phase
  if phase = .exited then return .gone
  match m.method with
  | "initialize" => start m
  | "shutdown" => stop m
  | "exit" => leave
  | "$/cancelRequest" => noticing m decodeWithdrawal withdraw
  | method =>
    match methodProgram? m with
    | some p => if phase = .initialized then underWay m p else return refuse m.id phase.fault
    | none =>
      if Text.hasStem method "$/" then return .silence
      return refuse m.id (.methodNotFound (some method))

end PlaybookServer.Server

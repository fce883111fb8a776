/-
Module: PlaybookServer.Simulation.Client
Purpose: A client beside a disk and a script or shell: it records what the server sends, and commands of the
  script can be held until they are let go.
Main exports: ClientWorld, ClientWorld.answers, Dialogue, Dialogue.send, Dialogue.release
-/
import PlaybookServer.Server.Dispatch
import PlaybookServer.Simulation.Script
import PlaybookServer.Simulation.Shell.Run

namespace PlaybookServer.Simulation

open Effect Files Server

/-- A client and the host that the server runs on. -/
structure ClientWorld where
  disk : Disk := {}
  bindings : List (String × String) := []
  rules : List Rule := []
  /-- Commands are run by a shell and not by the rules. -/
  usesShell : Bool := false
  /-- The client refuses every request. -/
  refuses : Bool := false
  /-- Commands of gated rules are held. -/
  holds : Bool := false
  showsProgress : Bool := false
  /-- Progress indicators asked for so far. -/
  indicators : Nat := 0
  /-- Requests sent so far. -/
  requests : Nat := 0
  messages : List Json := []
  commands : List String := []
deriving Inhabited

namespace ClientWorld

/-- Send a message to the client. -/
def send (w : ClientWorld) (j : Json) : ClientWorld := { w with messages := w.messages ++ [j] }

/-- Send a request to the client. -/
def sendRequest (w : ClientWorld) (make : Nat → Json) : ClientWorld :=
  { w.send (make w.requests) with requests := w.requests + 1 }

/-- Write files without regard to faults. -/
def writeAll (d : Disk) (files : List (String × String)) : Disk :=
  files.foldl (fun (d : Disk) (path, text) =>
    match d.write path (Text.encodeUtf8 text.toList) with
    | .ok d => d
    | .error _ => d) d

/-- Run a command by the shell. -/
def runShell (w : ClientWorld) (r : CommandRequest) : Except ExecFault CommandOutput × ClientWorld :=
  match Shell.execute w.disk w.bindings r with
  | .ok (o, disk) => (.ok o, { w with disk })
  | .error f => (.error f, w)

/-- Run a command by the rules; none if it is held. -/
def runRules (w : ClientWorld) (r : CommandRequest) : Option (Except ExecFault CommandOutput) × ClientWorld :=
  let w := { w with commands := w.commands ++ [r.command] }
  let gated : Bool := (ruleFor? w.rules r.command).any Rule.gated
  if gated && w.holds then (none, w)
  else (some (outcomeOf w.rules r.command), { w with disk := writeAll w.disk (writesOf w.rules r.command) })

/-- Show a progress indicator, if the client shows such and does not refuse this one. -/
def showProgress (w : ClientWorld) (title message : String) : Option String × ClientWorld :=
  if !w.showsProgress then (none, w)
  else
    let token := progressToken w.indicators
    let w := { w.sendRequest fun id => createProgress id token with indicators := w.indicators + 1 }
    if w.refuses then (none, w) else (some token, w.send (progressBegin token title message))

/-- Answer every question. -/
def answers : Answers ClientWorld
  | .run r, w =>
    if w.usesShell then
      let (o, w) := w.runShell r
      (some o, w)
    else w.runRules r
  | .showError message, w => (some (), w.send (showMessage .error message))
  | .showInfo message, w => (some (), w.send (showMessage .info message))
  | .beginProgress title message, w =>
    let (token, w) := w.showProgress title message
    (some token, w)
  | .endProgress token, w => (some (), w.send (progressEnd token))
  | .noteProgress shown, w => (some (), { w with showsProgress := shown })
  | .seeFiles, w => (some w.disk.view, w)
  | .createDirs path, w =>
    match w.disk.createDirs path with
    | .ok disk => (some (.ok ()), { w with disk })
    | .error e => (some (.error e), w)
  | .write path text, w =>
    match w.disk.write path (Text.encodeUtf8 text.toList) with
    | .ok disk => (some (.ok ()), { w with disk })
    | .error e => (some (.error e), w)
  | .freshName, w => (some "UUID", w)
  | .log level message, w => (some (), w.send (logMessage level message))
  | .publish file ds, w => (some (), w.send (publishDiagnostics file ds))
  | .watchFiles, w => (some (), w.sendRequest registerWatcher)

end ClientWorld

/-- A message whose command is held. -/
structure Held where
  message : Incoming
  /-- What the command will come to. -/
  outcome : Except ExecFault CommandOutput
  next : Except ExecFault CommandOutput → Program Server.State Reply

/-- A server and its client. -/
structure Dialogue where
  server : Server.State := {}
  world : ClientWorld := {}
  held : Option Held := none

namespace Dialogue

/-- Where a message got to. -/
def settle (d : Dialogue) (m : Incoming) : Outcome Server.State ClientWorld Reply → Reply × Dialogue
  | .finished reply server world => (reply, { d with server, world })
  | .held r next server world =>
    (.silence, { server, world, held := some ⟨m, outcomeOf world.rules r.command, next⟩ })
  | .blocked _ server world => (.silence, { d with server, world })

/-- Send a message to the server. With `mayHold` it stays at the first command that is held. -/
def send (d : Dialogue) (m : Incoming) (mayHold : Bool) : Reply × Dialogue :=
  d.settle m ((receive m).run ClientWorld.answers d.server { d.world with holds := mayHold })

/-- Let the held command go, and finish its message, unless the client took that back. -/
def release (d : Dialogue) : Reply × Dialogue :=
  match d.held with
  | none => (.silence, d)
  | some h =>
    let d := { d with held := none }
    match withdrawnReply? d.server h.message with
    | some reply => (reply, d)
    | none => d.settle h.message ((h.next h.outcome).run ClientWorld.answers d.server { d.world with holds := false })

end Dialogue

end PlaybookServer.Simulation

/-
Module: PlaybookServer.Main
Purpose: The server on standard input and output. It serves what needs no tools of the host: structure and
  keywords; every command is answered as one that is not there.
Main exports: main
-/
import PlaybookServer.Server.Frame
import PlaybookServer.Simulation.Client

open PlaybookServer PlaybookServer.Server PlaybookServer.Simulation

/-- Read the headers of a message, up to the empty line. -/
partial def readHeaders (input : IO.FS.Stream) (headers : List String) : IO (Option (List String)) := do
  let line ← input.getLine
  if line.isEmpty then return none
  else if (Text.trimmed line).isEmpty then return some headers
  else readHeaders input (headers ++ [line])

/-- Read the bytes of a message. -/
partial def readBody (input : IO.FS.Stream) (length : Nat) (body : ByteArray) : IO ByteArray := do
  if length ≤ body.size then return body
  let more ← input.read (length - body.size).toUSize
  if more.isEmpty then return body
  readBody input length (body ++ more)

/-- Write messages. -/
def writeMessages (output : IO.FS.Stream) (messages : List Json) : IO Unit := do
  for j in messages do
    output.putStr (frame j)
  output.flush

/-- Serve messages until the client leaves. -/
partial def serve (input output : IO.FS.Stream) (d : Dialogue) : IO Unit := do
  match ← readHeaders input [] with
  | none => return
  | some headers =>
    let bytes ← readBody input ((contentLength? headers).getD 0) ByteArray.empty
    let text := String.ofList (Text.decodeLossy (bytes.toList.map UInt8.toNat))
    match incoming? text with
    | none => serve input output d
    | some m =>
      let (reply, d) := d.send m false
      let replies := match reply with
        | .message j => [j]
        | _ => []
      writeMessages output (d.world.messages ++ replies)
      if d.server.phase = .exited then return
      serve input output { d with world := { d.world with messages := [], commands := [] } }

/-- Run the server. -/
def main : IO Unit := do
  serve (← IO.getStdin) (← IO.getStdout) {}

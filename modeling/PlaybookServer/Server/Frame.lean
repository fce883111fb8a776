/-
Module: PlaybookServer.Server.Frame
Purpose: Messages on a stream of bytes: headers that give the length, an empty line, and the message.
Main exports: contentLength?, frame, incoming?
-/
import PlaybookServer.Json.Cursor
import PlaybookServer.Json.Printer
import PlaybookServer.Server.Dispatch
import PlaybookServer.Text.Digit

namespace PlaybookServer.Server

open Text

/-- The length that a header gives, if it is the header for it. -/
def headerLength? (line : String) : Option Nat := do
  let (name, value) ← cutAt? ":" line
  if (trimmed name).toLower = "content-length" then decimalValue? (trimmed value).toList else none

/-- The length that the headers give. -/
def contentLength? (headers : List String) : Option Nat := headers.findSome? headerLength?

/-- A message with its headers. -/
def frame (j : Json) : String :=
  let body := j.render
  "Content-Length: " ++ toString body.utf8ByteSize ++ "\r\n\r\n" ++ body

/-- The message that a text holds, if it has a method. -/
def incoming? (text : String) : Option Incoming :=
  match Json.ofText text with
  | .error _ => none
  | .ok j => do
    let method ← (j.get? "method").bind Json.asString?
    return { method, params := j.get? "params", id := (j.get? "id").filter fun id => !id.isNull }

end PlaybookServer.Server

/-
Module: PlaybookServer.Effect.Query
Purpose: What the server asks of the world around it, and the type of each answer: commands to run,
  messages for the user, files to see and write, and what is sent to the client.
Main exports: CommandRequest, CommandOutput, ExecFault, Level, Query, Query.Answer
-/
import PlaybookServer.Diagnostic.Model
import PlaybookServer.Files.View

namespace PlaybookServer.Effect

open Files

/-- A shell command line and the changes to the environment it runs in. -/
structure CommandRequest where
  command : String
  cwd : Option String := none
  /-- Variables to set, in the order of their names. -/
  env : List (String × String) := []
  /-- Variables to remove before. -/
  envRemove : List String := []
deriving DecidableEq, Repr, Inhabited

/-- What a command leaves behind. -/
structure CommandOutput where
  /-- Exit code; none when a signal ended the command. -/
  status : Option Int := some 0
  stdout : String := ""
  stderr : String := ""
deriving DecidableEq, Repr, Inhabited

/-- Whether a command succeeded. -/
def CommandOutput.success (o : CommandOutput) : Bool := o.status = some 0

/-- Why a command could not be run. -/
inductive ExecFault where
  | spawn (command : String) (cause : IoFault)
  /-- Tools run in a container that could not be set up. -/
  | environmentUnavailable
deriving DecidableEq, Repr, Inhabited

/-- The text of a fault. -/
def ExecFault.text : ExecFault → String
  | .spawn command cause => "Failed to run `" ++ command ++ "`: " ++ cause.text
  | .environmentUnavailable => "The execution environment is not available"

/-- How much a message matters. -/
inductive Level where
  | error
  | warning
  | info
deriving DecidableEq, Repr, Inhabited

/-- A question to the world. -/
inductive Query where
  /-- Run a command to its end. -/
  | run (request : CommandRequest)
  | showError (message : String)
  | showInfo (message : String)
  /-- Start a progress indicator. -/
  | beginProgress (title message : String)
  | endProgress (token : String)
  /-- Note whether the client shows progress. -/
  | noteProgress (supported : Bool)
  /-- See the files as they are now. -/
  | seeFiles
  | createDirs (path : String)
  | write (path text : String)
  /-- A name that was never given before. -/
  | freshName
  /-- Write to the client's log. -/
  | log (level : Level) (message : String)
  /-- Publish the diagnostics of a file. -/
  | publish (file : Url) (diagnostics : List Diagnostic)
  /-- Ask the client to watch the workspace's files. -/
  | watchFiles

/-- The answers to a question. -/
def Query.Answer : Query → Type
  | .run _ => Except ExecFault CommandOutput
  | .beginProgress _ _ => Option String
  | .seeFiles => FileView
  | .createDirs _ => Except IoFault Unit
  | .write _ _ => Except IoFault Unit
  | .freshName => String
  | _ => Unit

end PlaybookServer.Effect

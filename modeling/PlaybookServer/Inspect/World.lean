/-
Module: PlaybookServer.Inspect.World
Purpose: Commands, their outcomes, faults and notes as JSON, for a look at what a simulated world recorded.
Main exports: ofRequest, ofOutput, ofNote, fault, ofExec, ofEnvironmentFault, ofIoFault, ofLint, describe
-/
import PlaybookServer.Inspect.Library
import PlaybookServer.Lint.Run
import PlaybookServer.Simulation.World
import PlaybookServer.Text.Escaped

namespace PlaybookServer.Inspect

open Effect Simulation Container

/-- A fault by its kind and text. -/
def fault (kind message : String) : Json := .object [("error", .string kind), ("message", .string message)]

/-- A command as it was asked for. -/
def ofRequest (r : CommandRequest) : Json :=
  .object ([("command", .string r.command)] ++ given "cwd" (r.cwd.map .string)
    ++ given "env" (if r.env.isEmpty then none else some (.object (r.env.map fun (k, v) => (k, .string v))))
    ++ given "env_remove" (if r.envRemove.isEmpty then none else some (Json.strings r.envRemove)))

/-- What the user was told. -/
def ofNote : Note → Json
  | .error m => Json.strings ["error", m]
  | .info m => Json.strings ["info", m]
  | .beginProgress t m n => .array [.string "begin", .string t, .string m, .nat n]
  | .endProgress t => Json.strings ["end", t]

/-- What a command left behind. -/
def ofOutput (o : CommandOutput) : Json :=
  .object [("status", Json.ofOption (fun n => .number (.int n)) o.status), ("stdout", .string o.stdout),
    ("stderr", .string o.stderr), ("success", .bool o.success)]

/-- The outcome of a command. -/
def ofExec : Except ExecFault CommandOutput → Json
  | .ok o => ofOutput o
  | .error f => fault "Exec" f.text

/-- The word for a fault of the container environment. -/
def environmentWord : EnvironmentFault → String
  | .engineNotFound => "EngineNotFound"
  | .engineMissing _ => "EngineMissing"
  | .imagePull _ _ => "ImagePull"
  | .imageId _ => "ImageId"
  | .containerStart _ _ => "ContainerStart"
  | .exec _ => "Exec"
  | .io _ => "Io"

/-- A result that the container environment may fail to give. -/
def ofEnvironmentResult {α : Type} (f : α → Json) : Except EnvironmentFault α → Json
  | .ok v => f v
  | .error e => fault (environmentWord e) e.text

/-- The word for a fault of the file system. -/
def ioWord : Files.IoFault → String
  | .notFound => "NotFound"
  | .permissionDenied | .noPermission => "PermissionDenied"
  | .notADirectory => "NotADirectory"
  | .isADirectory => "IsADirectory"
  | .alreadyExists => "AlreadyExists"
  | .tooManyLinks => "FilesystemLoop"
  | .invalidText => "InvalidData"
  | .nameTooLong => "InvalidFilename"
  | .nulInPath | .nulInData => "InvalidInput"

/-- A result that the file system may fail to give. -/
def ofIoResult {α : Type} (f : α → Json) : Except Files.IoFault α → Json
  | .ok v => f v
  | .error e => fault (ioWord e) e.text

/-- The findings of a tool. -/
def ofLint : Except Lint.LintFault ByFile → Json
  | .ok m => ofByFile m
  | .error f => fault "Lint" f.text

/-- A container environment in one line. -/
def describe (e : Environment) : String :=
  let engine := match e.engine with
    | .podman => "Podman"
    | .docker => "Docker"
  "ExecutionEnvironment \x7b engine: " ++ engine ++ ", image: " ++ Text.escaped e.image ++ " \x7d"

/-- What a world has on record, with the result of what was done in it. -/
def ofRecord (result : Json) (w : World) : Json :=
  .object [("r", result), ("commands", .array (w.commands.map ofRequest)), ("notes", .array (w.notes.map ofNote))]

end PlaybookServer.Inspect

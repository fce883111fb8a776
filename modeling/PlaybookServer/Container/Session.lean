/-
Module: PlaybookServer.Container.Session
Purpose: A throwaway container: started under a name made from its image, asked for paths, copied from,
  and removed.
Main exports: Session, Session.start, Session.pathExists, Session.copyOut, removeContainer
-/
import PlaybookServer.Container.Engine

namespace PlaybookServer.Container

open Text Effect Tool

/-- A running container. -/
structure Session where
  engine : Engine
  name : String
deriving DecidableEq, Repr, Inhabited

/-- Stop and remove a container; that it is gone already does not matter. -/
def removeContainer {σ : Type} (engine : Engine) (name : String) : Program σ Unit := do
  let _ ← runLine (engine.name ++ " stop " ++ name)
  let _ ← runLine (engine.name ++ " rm -f " ++ name)
  return ()

/-- Why a command did not succeed. -/
def failure? : Except ExecFault CommandOutput → Option String
  | .ok o => if o.success then none else some (trimmed o.stderr)
  | .error f => some f.text

namespace Session

/-- Start a container, after removing one of the same name. -/
def start {σ : Type} (engine : Engine) (image : String) : Program σ (Except EnvironmentFault Session) := do
  let name := sanitizeName image
  removeContainer engine name
  let result ← runLine (engine.name ++ " run -i --rm -d --name " ++ name ++ " " ++ image ++ " bash")
  match failure? result with
  | none => return .ok ⟨engine, name⟩
  | some reason => do
    removeContainer engine name
    return .error (.containerStart name reason)

/-- Whether a path exists inside the container. -/
def pathExists {σ : Type} (s : Session) (path : String) : Program σ Bool := do
  let result ← runLine (s.engine.name ++ " exec " ++ s.name ++ " ls " ++ quote path)
  return (failure? result).isNone

/-- Copy a path out of the container into a directory of the host. -/
def copyOut {σ : Type} (s : Session) (src dest : String) : Program σ (Except EnvironmentFault Unit) := do
  let result ← runLine (s.engine.name ++ " cp " ++ s.name ++ ":" ++ src ++ " " ++ quote dest)
  match result with
  | .error f => return .error (.exec f)
  | .ok o =>
    if o.success then return .ok ()
    else return .error (.io ("copy of " ++ src ++ " failed: " ++ trimmed o.stderr))

/-- Stop and remove the container. -/
def teardown {σ : Type} (s : Session) : Program σ Unit := removeContainer s.engine s.name

end Session

end PlaybookServer.Container

/-
Module: PlaybookServer.Container.Engine
Purpose: Container engines and images: which engine to use, and whether an image must be pulled.
Main exports: Engine, EnvironmentFault, detectEngine, imageTag, determinePull
-/
import PlaybookServer.Settings.Model
import PlaybookServer.Tool.Shell

namespace PlaybookServer.Container

open Text Effect Tool

/-- A container engine. -/
inductive Engine where
  | podman
  | docker
deriving DecidableEq, Repr, Inhabited

/-- The name of an engine's executable. -/
def Engine.name : Engine → String
  | .podman => "podman"
  | .docker => "docker"

/-- Why the container cannot be used. -/
inductive EnvironmentFault where
  | engineNotFound
  | engineMissing (name : String)
  | imagePull (image reason : String)
  | imageId (image : String)
  | containerStart (name reason : String)
  | exec (fault : ExecFault)
  | io (reason : String)
deriving DecidableEq, Repr, Inhabited

/-- The text of a fault. -/
def EnvironmentFault.text : EnvironmentFault → String
  | .engineNotFound =>
    "Container engine not found. Install podman or docker, or disable the execution environment"
  | .engineMissing name => "Container engine '" ++ name ++ "' is not available on this host"
  | .imagePull image reason => "Failed to pull image " ++ image ++ ": " ++ reason
  | .imageId image => "Failed to resolve the id of image " ++ image
  | .containerStart name reason => "Failed to start container " ++ name ++ ": " ++ reason
  | .exec fault => fault.text
  | .io reason => "Plugin doc cache error: " ++ reason

/-- Engines that a choice allows, in the order they are tried. -/
def candidateEngines : EngineChoice → List Engine
  | .auto => [.podman, .docker]
  | .podman => [.podman]
  | .docker => [.docker]

/-- The first engine of a list that is installed. -/
def firstInstalled {σ : Type} : List Engine → Program σ (Option Engine)
  | [] => return none
  | e :: rest => do
    match ← locateExecutable e.name with
    | some _ => return some e
    | none => firstInstalled rest

/-- The fault of a choice of which nothing is installed. -/
def missingEngine : EngineChoice → EnvironmentFault
  | .auto => .engineNotFound
  | .podman => .engineMissing Engine.podman.name
  | .docker => .engineMissing Engine.docker.name

/-- Pick the engine. -/
def detectEngine {σ : Type} (choice : EngineChoice) : Program σ (Except EnvironmentFault Engine) := do
  match ← firstInstalled (candidateEngines choice) with
  | some e => return .ok e
  | none => return .error (missingEngine choice)

/-- The tag of an image; `latest` when none is given. -/
def imageTag (image : String) : String :=
  match cutLast? ':' image with
  | some (_, tag) => if occursIn "/" tag then "latest" else tag
  | none => "latest"

/-- Whether an image must be pulled before use. -/
def determinePull (policy : PullPolicy) (present : Bool) (tag : String) : Bool :=
  match policy with
  | .always => true
  | .never => false
  | .missing => !present
  | .tag => tag = "latest" || !present

end PlaybookServer.Container

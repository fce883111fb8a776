/-
Module: PlaybookServer.Container.Environment
Purpose: The container that tools run in instead of the host: setting it up, running commands in it, and
  bringing its documentation to the host.
Main exports: Environment, Environment.setUp, Environment.pluginCacheDir, fetchPluginDocs, wrapCommand
-/
import PlaybookServer.Container.Cache

namespace PlaybookServer.Container

open Text Files Effect Docs Tool

/-- A container environment that is ready. -/
structure Environment where
  engine : Engine
  settings : EnvironmentSettings
  root : String
  host : HostEnv
deriving DecidableEq, Repr, Inhabited

namespace Environment

/-- The image. -/
def image (e : Environment) : String := e.settings.image

/-- Whether the image is on the host. -/
def imagePresent {σ : Type} (e : Environment) : Program σ Bool := do
  let result ← runLine (e.engine.name ++ " image inspect " ++ e.image)
  return (failure? result).isNone

/-- The command that pulls the image. -/
def pullCommand (e : Environment) : String :=
  let args := trimmed e.settings.pull.arguments
  e.engine.name ++ " pull" ++ (if args = "" then "" else " " ++ args) ++ " " ++ e.image

/-- Make sure that the image is on the host, as the pull policy says. -/
def setupImage {σ : Type} (e : Environment) : Program σ (Except EnvironmentFault Unit) := do
  let present ← e.imagePresent
  if determinePull e.settings.pull.policy present (imageTag e.image) then
    let progress ← beginProgress "Execution environment" ("Pulling " ++ e.image)
    let result ← runLine e.pullCommand
    endProgress progress
    match failure? result with
    | none => return .ok ()
    | some reason => return .error (.imagePull e.image reason)
  else if present then return .ok ()
  else
    return .error (.imagePull e.image
      "the image is not available locally and the pull policy is 'never'")

/-- Detect the engine and make sure that the image is available. -/
def setUp {σ : Type} (settings : EnvironmentSettings) (root : String) (host : HostEnv) :
    Program σ (Except EnvironmentFault Environment) := do
  match ← detectEngine settings.engine with
  | .error f => return .error f
  | .ok engine =>
    let e : Environment := { engine, settings, root, host }
    match ← e.setupImage with
    | .error f => return .error f
    | .ok _ => return .ok e

/-- The id of the image. -/
def imageId {σ : Type} (e : Environment) : Program σ (Except EnvironmentFault String) := do
  let command := e.engine.name ++ " images " ++ e.image ++ " --format \"\x7b\x7b.ID\x7d\x7d\""
  match ← runLine command with
  | .error f => return .error (.exec f)
  | .ok o =>
    match ((linesOf o.stdout).map trimmed).find? (· ≠ "") with
    | some id => if o.success then return .ok id else return .error (.imageId e.image)
    | none => return .error (.imageId e.image)

/-- The cache directory of the image as it is now. -/
def pluginCacheDir {σ : Type} (e : Environment) : Program σ (Except EnvironmentFault String) := do
  match ← e.imageId with
  | .error f => return .error f
  | .ok id =>
    return .ok (joinPath (joinPath e.host.cacheRoot (sanitizeName e.image)) (sanitizeName id))

/-- Fill the cache from a container that is removed afterwards, whatever happens. -/
def fillCache {σ : Type} (e : Environment) (paths : ToolPaths) (dir : String) :
    Program σ (Except EnvironmentFault Unit) := do
  match ← Session.start e.engine e.image with
  | .error f => return .error f
  | .ok session => do
    let progress ← beginProgress "Execution environment"
      ("Copying plugin docs from " ++ e.image ++ " to the host cache")
    let populated ← populate session paths dir
    session.teardown
    endProgress progress
    return populated

/-- Paths found inside the container as paths of the host, after filling the cache unless it is
    complete. -/
def fetchPluginDocs {σ : Type} (e : Environment) (paths : ToolPaths) :
    Program σ (Except EnvironmentFault ToolPaths) := do
  match ← e.pluginCacheDir with
  | .error f => return .error f
  | .ok dir => do
    let fs ← seeFiles
    if fs.isThere (joinPath dir successMarker) then return .ok (relocateToCache fs paths dir)
    match ← e.fillCache paths dir with
    | .error f => return .error f
    | .ok _ => do
      let fs ← seeFiles
      return .ok (relocateToCache fs paths dir)

/-! ### Running a command in the container -/

/-- Add a volume that is not there yet. -/
def addVolume (args : List String) (volume : String) : List String :=
  if args.contains volume then args else args ++ ["-v", volume]

/-- Mount host paths that exist at their own places. -/
def mountPaths (fs : FileView) (args : List String) (paths : List String) : List String :=
  (paths.filter fs.isThere).foldl (fun args p => addVolume args (p ++ ":" ++ p)) args

/-- The volume of a configured mount. -/
def volumeOf (host : HostEnv) (m : VolumeMount) : String :=
  expandPath host m.src ++ ":" ++ m.dest ++ (if m.options = "" then "" else ":" ++ m.options)

/-- Mount the configured volumes whose sources exist. -/
def mountVolumes (e : Environment) (fs : FileView) (args : List String) : List String :=
  (e.settings.volumeMounts.filter fun m => fs.isThere (expandPath e.host m.src)).foldl
    (fun args m => addVolume args (volumeOf e.host m)) args

/-- Variables that the container gets from the host, by name. -/
def forwardedNames (host : HostEnv) : List String :=
  ((host.bindings.map Prod.fst).filter fun k => hasStem k "ANSIBLE_" && k ≠ "ANSIBLE_FORCE_COLOR").mergeSort
    fun a b => a ≤ b

/-- Flags that an engine needs. -/
def engineFlags (e : Environment) : List String :=
  match e.engine with
  | .podman => ["--group-add=root", "--ipc=host", "--quiet"]
  | .docker => ["--user=" ++ e.host.userId]

/-- Add the configured options that are not there yet. -/
def addOptions (args : List String) (options : String) : List String :=
  (wordsOf options).foldl (fun args o => if args.contains o then args else args ++ [o]) args

/-- The words of a command that runs in a one-shot container under a given name. -/
def wrappedArgs (e : Environment) (fs : FileView) (name command : String) (mounts : List String) :
    List String :=
  let args := [e.engine.name, "run", "--rm", "--workdir", e.root, "-v", e.root ++ ":" ++ e.root]
  let args := mountVolumes e fs (mountPaths fs args mounts)
  let args := args ++ (forwardedNames e.host).flatMap fun k => ["-e", k]
  let args := args ++ ["-e", "ANSIBLE_FORCE_COLOR=0"] ++ engineFlags e
  addOptions args e.settings.containerOptions ++ ["--name", "als_" ++ name, e.image, command]

/-- A command line that runs in a one-shot container with the folder and the given paths mounted. -/
def wrapCommand {σ : Type} (e : Environment) (command : String) (mounts : List String) : Program σ String := do
  let fs ← seeFiles
  let name ← ask .freshName
  return join " " (wrappedArgs e fs name command mounts)

end Environment

end PlaybookServer.Container

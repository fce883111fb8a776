/-
Module: PlaybookServer.Container.Cache
Purpose: The host's copy of the documentation inside an image. A marker file says that it is complete.
Main exports: successMarker, cachePath, builtinPluginDir, relocateToCache, populate
-/
import PlaybookServer.Container.Session
import PlaybookServer.Docs.Library

namespace PlaybookServer.Container

open Text Files Effect Docs

/-- Name of the file that marks a complete cache. -/
def successMarker : String := "SUCCESS"

/-- A path without slashes at its end. -/
def withoutSlashes (path : String) : String := String.ofList (dropEndWhile (· = '/') path.toList)

/-- Where a path of the container lies inside a cache directory. -/
def cachePath (dir path : String) : String := joinPath dir (String.ofList (path.toList.dropWhile (· = '/')))

/-- The plugin directory next to a directory of builtin modules. -/
def builtinPluginDir (location : String) : String :=
  let base := withoutSlashes location
  match cutLast? '/' base with
  | some (parent, "modules") => parent ++ "/plugins"
  | _ => base ++ "/plugins"

/-- The cached copies of paths, without those that are not cached. -/
def cachedPaths (fs : FileView) (dir : String) (paths : List String) : List String :=
  (paths.map (cachePath dir)).filter fs.isThere

/-- Container paths as their cached copies. -/
def relocateToCache (fs : FileView) (paths : ToolPaths) (dir : String) : ToolPaths :=
  { collectionsPaths := cachedPaths fs dir paths.collectionsPaths
    moduleLocations := cachedPaths fs dir paths.moduleLocations
    toolLocation := (paths.toolLocation.map (cachePath dir)).filter fs.isThere
    defaultHosts := paths.defaultHosts }

/-- Copy one path if it is not cached and the probed path exists in the container. What fails is left
    out. -/
def copyPath {σ : Type} (s : Session) (dir src probe : String) : Program σ Unit := do
  if src = "" then return ()
  let dest := cachePath dir src
  let fs ← seeFiles
  if fs.isThere dest then return ()
  if !(← s.pathExists probe) then return ()
  match parent? dest with
  | none => return ()
  | some parent =>
    match ← ask (.createDirs parent) with
    | .error (_ : IoFault) => return ()
    | .ok _ => do
      let _ ← s.copyOut src parent
      return ()

/-- Copy paths one after another, each with the path to probe. -/
def copyPaths {σ : Type} (s : Session) (dir : String) : List (String × String) → Program σ Unit
  | [] => return ()
  | (src, probe) :: rest => do
    copyPath s dir src probe
    copyPaths s dir rest

/-- Fill a cache directory from the container and mark it complete. -/
def populate {σ : Type} (s : Session) (paths : ToolPaths) (dir : String) :
    Program σ (Except EnvironmentFault Unit) := do
  match ← ask (.createDirs dir) with
  | .error (e : IoFault) => return .error (.io e.text)
  | .ok _ => do
    copyPaths s dir (paths.collectionsPaths.map fun p => (p, withoutSlashes p ++ "/ansible_collections"))
    copyPaths s dir (paths.moduleLocations.map fun p => (builtinPluginDir p, builtinPluginDir p))
    copyPaths s dir (paths.moduleLocations.map fun p => (p, p))
    match paths.toolLocation with
    | some location => copyPaths s dir [(withoutSlashes location ++ "/config", withoutSlashes location ++ "/config")]
    | none => pure ()
    match ← ask (.write (joinPath dir successMarker) "") with
    | .error (e : IoFault) => return .error (.io e.text)
    | .ok _ => return .ok ()

end PlaybookServer.Container

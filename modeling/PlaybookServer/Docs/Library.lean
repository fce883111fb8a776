/-
Module: PlaybookServer.Docs.Library
Purpose: The index of every module a workspace folder can see, and how a name in a playbook finds one:
  through the collections in scope, and through routes that redirect names.
Main exports: ToolPaths, Library, Library.index, Library.names, candidateNames, Library.find,
  Library.followRedirect?, Library.findProvided?, Library.documentation?
-/
import PlaybookServer.Docs.Source
import PlaybookServer.Playbook.Structure

namespace PlaybookServer.Docs

open Text Files

/-- Where the tool finds its parts. -/
structure ToolPaths where
  collectionsPaths : List String := []
  moduleLocations : List String := []
  toolLocation : Option String := none
  defaultHosts : List String := []
deriving DecidableEq, Repr, Inhabited

/-- The modules a workspace folder can see. -/
structure Library where
  modules : Sorted Module := []
  /-- Names that may be offered: indexed modules and redirects that lead on. -/
  offered : Sorted Unit := []
  routing : Routing := []
deriving Repr, Inhabited

namespace Library

/-- Add a module. -/
def insertModule (l : Library) (m : Module) : Library :=
  { l with modules := l.modules.insert m.fullName m, offered := l.offered.insert m.fullName () }

/-- Add a route. -/
def insertRoute (l : Library) (collection name : String) (r : Route) : Library :=
  { l with
    offered := if r.isLive then l.offered.insert (collection ++ "." ++ name) () else l.offered
    routing := l.routing.insert collection (((l.routing.get? collection).getD []).insert name r) }

/-- Add the routes of several collections. -/
def mergeRouting (l : Library) (routing : Routing) : Library :=
  routing.foldl (fun l (collection, routes) =>
    routes.foldl (fun (l : Library) (name, r) => l.insertRoute collection name r) l) l

/-- Add several modules. -/
def insertModules (l : Library) (ms : List Module) : Library := ms.foldl insertModule l

/-- Scan the places where the tool finds its parts. -/
def index (fs : FileView) (paths : ToolPaths) : Library :=
  let l := paths.moduleLocations.foldl (fun (l : Library) dir => l.insertModules (builtinModules fs dir)) {}
  let l := match paths.toolLocation with
    | some location => l.mergeRouting (builtinRouting fs location)
    | none => l
  paths.collectionsPaths.foldl (fun (l : Library) path =>
    (l.insertModules (collectionModules fs path)).mergeRouting (collectionRouting fs path)) l

/-- Every name that may be offered, in order. -/
def names (l : Library) : List String := l.offered.names

/-- The module of a fully qualified name. -/
def module? (l : Library) (name : String) : Option Module := l.modules.get? name

/-- The route of a fully qualified name. -/
def route? (l : Library) (name : String) : Option Route := do
  let (collection, short) ← cutLast? '.' name
  if !occursIn "." collection then none
  (← l.routing.get? collection).get? short

/-- The documentation of a module: what is kept, else what its source says now. -/
def documentation? (fs : FileView) (m : Module) : Option ModuleDoc :=
  m.doc.getD (loadDocumentation? fs m.source)

/-- Keep the documentation of a module from now on. -/
def remember (l : Library) (fs : FileView) (name : String) : Library :=
  match l.module? name with
  | some m =>
    if m.doc.isSome then l
    else { l with modules := l.modules.insert name { m with doc := some (documentation? fs m) } }
  | none => l

end Library

/-- Fully qualified names that a name may stand for, most specific first: itself if it is one, else the
    builtin module, then the collections of the role and those that the document declares. -/
def candidateNames (name : String) (context : Option Path) (roleCollections : List String) : List String :=
  if 3 ≤ (pieces '.' name).length then [name]
  else
    let declared := match context with
      | some path => Playbook.declaredCollections path
      | none => []
    ("ansible.builtin." ++ name) :: (roleCollections ++ declared).map fun c => c ++ "." ++ name

namespace Library

/-- How many names of a chain of redirects are looked at. -/
def redirectLimit : Nat := 8

/-- Follow redirects to an indexed module. -/
def chase (l : Library) : Nat → String → Option Module
  | 0, _ => none
  | fuel + 1, name =>
    match l.module? name with
    | some m => some m
    | none => ((l.route? name).bind Route.redirect).bind (l.chase fuel)

/-- The module at the end of a chain of redirects. -/
def followRedirect? (l : Library) (target : String) : Option Module := l.chase redirectLimit target

/-- Resolve a name: the module, if one is indexed, and the candidate name that matched. A route counts
    before a module, whichever candidate it belongs to. -/
def find (l : Library) (name : String) (context : Option Path) (roleCollections : List String) :
    Option Module × Option String :=
  let candidates := candidateNames name context roleCollections
  let found := candidates.findSome? fun c => (l.module? c).map (c, ·)
  match candidates.findSome? fun c => (l.route? c).map (c, ·) with
  | some (hit, r) =>
    match r.redirect with
    | some target => (l.followRedirect? target, some hit)
    | none => (found.map Prod.snd, some hit)
  | none =>
    match found with
    | some (hit, m) => (some m, some hit)
    | none => (none, none)

/-- The module of the task that owns a parameter. -/
def findProvided? (l : Library) (path : Path) (roleCollections : List String) : Option Module :=
  (Playbook.providedModuleNames path).findSome? fun name => (l.find name (some path) roleCollections).1

end Library

end PlaybookServer.Docs

/-
Module: PlaybookServer.Workspace.RoleMetadata
Purpose: Collections that a role attaches to its task files through its metadata file, and a cache of what
  was read.
Main exports: metaPathFor?, declaredIn, RoleMetadata
-/
import PlaybookServer.Diagnostic.Model
import PlaybookServer.Files.Path
import PlaybookServer.Files.View
import PlaybookServer.Url.File
import PlaybookServer.Yaml.Decode

namespace PlaybookServer.Workspace

open Files

/-- The metadata file that belongs to a file below a `tasks` directory. -/
def metaPathFor? (path : String) : Option String :=
  let cs := components path
  if cs.contains (.name "tasks") then
    let role := ofComponents (cs.takeWhile (· ≠ .name "tasks"))
    some (joinPath (joinPath role "meta") "main.yml")
  else none

/-- The collections of a metadata value. -/
def collectionsIn (v : Yaml.Value) : List String :=
  (((v.get? "collections").bind Yaml.Value.asSequence?).getD []).filterMap Yaml.Value.asString?

/-- The collections of the documents up to the first that cannot be read. -/
def collectionsOfDocuments : List Yaml.YamlDocument → List String
  | [] => []
  | d :: ds =>
    match d.value with
    | .ok v => collectionsIn v ++ collectionsOfDocuments ds
    | .error _ => []

/-- The collections of a metadata text. -/
def declaredIn (text : String) : List String := collectionsOfDocuments (Yaml.documents text.toList)

/-- Collections by metadata file. -/
abbrev RoleMetadata := Table (List Component) (List String)

namespace RoleMetadata

/-- The metadata file of a document and its collections; a file that cannot be read has none. -/
def get? (cache : RoleMetadata) (fs : FileView) (uri : Url) : Option (String × List String) × RoleMetadata :=
  match metaPathFor? (uriToPath uri) with
  | none => (none, cache)
  | some path =>
    match Table.get? cache (components path) with
    | some cs => (some (path, cs), cache)
    | none =>
      let cs := match fs.read path with
        | .ok text => declaredIn text
        | .error _ => []
      (some (path, cs), Table.set cache (components path) cs)

/-- The collections of a document's role. -/
def collectionsFor (cache : RoleMetadata) (fs : FileView) (uri : Url) : List String × RoleMetadata :=
  let (found, cache) := cache.get? fs uri
  ((found.map Prod.snd).getD [], cache)

/-- Forget the files that changed. -/
def forget (cache : RoleMetadata) (changed : List Url) : RoleMetadata :=
  changed.foldl (fun (c : RoleMetadata) u => Table.erase c (components (uriToPath u))) cache

end RoleMetadata

end PlaybookServer.Workspace

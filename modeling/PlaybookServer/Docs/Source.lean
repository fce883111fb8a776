/-
Module: PlaybookServer.Docs.Source
Purpose: Modules as they are found on disk: where their sources and routing files lie, and the
  documentation text inside a source.
Main exports: Module, extractDocumentation?, loadDocumentation?, builtinModules, collectionModules,
  builtinRouting, collectionRouting
-/
import PlaybookServer.Docs.Schema
import PlaybookServer.Docs.Routing
import PlaybookServer.Files.Path
import PlaybookServer.Files.View

namespace PlaybookServer.Docs

open Text Files

/-- An indexed module. Its documentation is read on first use and kept. -/
structure Module where
  nameSpace : String
  collection : String
  name : String
  source : String := ""
  /-- The documentation once it has been looked for. -/
  doc : Option (Option ModuleDoc) := none
deriving Repr, Inhabited

/-- The fully qualified name. -/
def Module.fullName (m : Module) : String := m.nameSpace ++ "." ++ m.collection ++ "." ++ m.name

/-! ### Documentation inside a source -/

/-- The text in triple quotes of one kind, if it starts here and ends. -/
def tripleQuoted? (quote : Char) (cs : List Char) : Option (List Char) :=
  (stripStem? [quote, quote, quote] cs).bind fun rest => (cut? [quote, quote, quote] rest).map Prod.fst

/-- The text assigned to the name that was just read. -/
def assignedText? (cs : List Char) : Option (List Char) :=
  match trimStart cs with
  | '=' :: rest =>
    let rest := trimStart rest
    let rest := match rest with
      | 'r' :: more => more
      | rest => rest
    (tripleQuoted? '\'' rest).orElse fun _ => tripleQuoted? '"' rest
  | _ => none

/-- The first text assigned to the documentation name. -/
def documentationText? : List Char → Option (List Char)
  | [] => none
  | c :: cs =>
    match (stripStem? "DOCUMENTATION".toList (c :: cs)).bind assignedText? with
    | some text => some text
    | none => documentationText? cs

/-- The documentation text of a module source, without a line feed and document marker at its start. -/
def extractDocumentation? (source : String) : Option String :=
  (documentationText? source.toList).map fun body =>
    let body := (stripStem? ['\n'] body).getD body
    String.ofList ((stripStem? "---\n".toList body).getD body)

/-- The documentation of a module source. -/
def loadDocumentation? (fs : FileView) (path : String) : Option ModuleDoc := do
  let contents ← (fs.read path).toOption
  let body ← extractDocumentation? contents
  let raw ← (Yaml.Value.ofText body).toOption
  ModuleDoc.ofValue? raw

/-! ### Where modules lie -/

/-- Sources whose names start with an underscore are not offered. -/
def isModuleSource (path : String) : Bool := (fileName? path).any fun n => !hasStem n "_"

/-- The modules of one collection below a directory. -/
def modulesBelow (fs : FileView) (nameSpace collection dir : String) : List Module :=
  ((fs.listFiles dir "py").filter isModuleSource).filterMap fun source =>
    (fileStem? source).map fun name => { nameSpace, collection, name, source }

/-- Builtin modules below a search path. -/
def builtinModules (fs : FileView) (dir : String) : List Module := modulesBelow fs "ansible" "builtin" dir

/-- The collections installed below a path: namespace, name and directory. -/
def collectionDirs (fs : FileView) (path : String) : List (String × String × String) :=
  (fs.listDirs (joinPath path "ansible_collections")).flatMap fun nameSpaceDir =>
    match fileName? nameSpaceDir with
    | none => []
    | some nameSpace =>
      (fs.listDirs nameSpaceDir).filterMap fun dir => (fileName? dir).map fun c => (nameSpace, c, dir)

/-- Modules of every collection installed below a path. -/
def collectionModules (fs : FileView) (path : String) : List Module :=
  (collectionDirs fs path).flatMap fun (nameSpace, collection, dir) =>
    modulesBelow fs nameSpace collection (joinPath (joinPath dir "plugins") "modules")

/-- Routes by collection. -/
abbrev Routing := Sorted (Sorted Route)

/-- Routing of the builtin collection, which comes with the tool. -/
def builtinRouting (fs : FileView) (location : String) : Routing :=
  match fs.read (joinPath (joinPath location "config") "ansible_builtin_runtime.yml") with
  | .ok text => [("ansible.builtin", parseRouting text)]
  | .error _ => []

/-- Routing of every collection installed below a path. -/
def collectionRouting (fs : FileView) (path : String) : Routing :=
  (collectionDirs fs path).foldl (fun (routing : Routing) (nameSpace, collection, dir) =>
    match fs.read (joinPath (joinPath dir "meta") "runtime.yml") with
    | .ok text => routing.insert (nameSpace ++ "." ++ collection) (parseRouting text)
    | .error _ => routing) []

end PlaybookServer.Docs

/-
Module: PlaybookServer.Inspect.Library
Purpose: YAML values, documentation, routes and modules as JSON, for a look at what is known about modules.
Main exports: ofYaml, ofOptionDoc, ofModuleDoc, ofRoute, ofModule, ofToolPaths, summary
-/
import PlaybookServer.Docs.Library
import PlaybookServer.Inspect.Findings

namespace PlaybookServer.Inspect

open Docs

mutual

/-- A YAML value. Numbers are shown by their text, mappings in their order. -/
def ofYaml : Yaml.Value → Json
  | .null => .null
  | .bool b => .bool b
  | .string s => .string s
  | .number n => .object [("number", .string n.text)]
  | .sequence vs => .array (ofYamls vs)
  | .mapping es => .object [("map", .array (ofYamlEntries es))]
  | .tagged t v => .object [("tag", .string ("!" ++ t)), ("value", ofYaml v)]

/-- The items of a sequence. -/
def ofYamls : List Yaml.Value → List Json
  | [] => []
  | v :: vs => ofYaml v :: ofYamls vs

/-- The entries of a mapping. -/
def ofYamlEntries : List (Yaml.Value × Yaml.Value) → List Json
  | [] => []
  | (k, v) :: es => .array [ofYaml k, ofYaml v] :: ofYamlEntries es

end

mutual

/-- An option under the name it can be given by. -/
def ofOptionDoc (key : String) : OptionDoc → Json
  | ⟨name, description, required, default, choices, typeName, elements, aliases, versionAdded, suboptions⟩ =>
    .object
      [("key", .string key), ("name", .string name), ("description", Json.strings description),
       ("required", .bool required), ("default", Json.ofOption ofYaml default),
       ("choices", .array (ofYamls choices)), ("type", textOrNull typeName), ("elements", textOrNull elements),
       ("label", textOrNull (OptionDoc.typeLabel? { name, typeName, elements })),
       ("aliases", Json.strings aliases), ("version_added", textOrNull versionAdded),
       ("suboptions", .array (ofOptionDocs suboptions))]

/-- Options in order. -/
def ofOptionDocs : List (String × OptionDoc) → List Json
  | [] => []
  | (key, o) :: rest => ofOptionDoc key o :: ofOptionDocs rest

end

/-- The documentation of a module. -/
def ofModuleDoc (d : ModuleDoc) : Json :=
  .object
    [("module", .string d.name), ("short_description", textOrNull d.shortDescription),
     ("description", Json.strings d.description), ("version_added", textOrNull d.versionAdded),
     ("deprecated", .bool d.deprecated), ("options", .array (ofOptionDocs d.options))]

/-- A notice. -/
def ofNotice (n : Notice) : Json :=
  .object
    [("removal_version", textOrNull n.removalVersion), ("removal_date", textOrNull n.removalDate),
     ("warning_text", textOrNull n.warningText)]

/-- A route. -/
def ofRoute (r : Route) : Json :=
  .object
    [("redirect", textOrNull r.redirect), ("deprecation", Json.ofOption ofNotice r.deprecation),
     ("tombstone", Json.ofOption ofNotice r.tombstone)]

/-- A module. -/
def ofModule (m : Module) : Json :=
  .object
    [("fqcn", .string m.fullName), ("namespace", .string m.nameSpace), ("collection", .string m.collection),
     ("name", .string m.name), ("source", .string m.source)]

/-- Where the tools find their parts. -/
def ofToolPaths (p : ToolPaths) : Json :=
  .object
    [("collections_paths", Json.strings p.collectionsPaths), ("module_locations", Json.strings p.moduleLocations),
     ("ansible_location", textOrNull p.toolLocation), ("default_host_list", Json.strings p.defaultHosts)]

/-- The sizes of a library in one line. -/
def summary (l : Library) : String :=
  "DocsLibrary \x7b modules: " ++ toString l.modules.length ++ ", names: " ++ toString l.offered.length ++ " \x7d"

end PlaybookServer.Inspect

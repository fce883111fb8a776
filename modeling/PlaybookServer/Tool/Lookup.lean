/-
Module: PlaybookServer.Tool.Lookup
Purpose: What the tools say about themselves: where they find modules and collections.
Main exports: readStringList, parseConfigDump, parseVersionInfo
-/
import PlaybookServer.Docs.Library
import PlaybookServer.Json.Cursor

namespace PlaybookServer.Tool

open Text Docs

/-- The texts of a list literal. Single quotes count as double ones; empty texts are dropped, and what is
    no list of texts has none. -/
def readStringList (text : String) : List String :=
  match Json.ofText (replaced "'" "\"" (trimmed text)) with
  | .ok (.array items) =>
    match items.mapM Json.asString? with
    | some texts => texts.filter (· ≠ "")
    | none => []
  | _ => []

/-- The lines that assign a value: what stands before and after the first ` = `. -/
def assignments (output : String) : List (String × String) := (linesOf output).filterMap (cutAt? " = ")

/-- The last value of each name, in the order of the names. -/
def byName (entries : List (String × String)) : Sorted String :=
  entries.foldl (fun (m : Sorted String) (k, v) => m.insert k v) []

/-- The values of a configuration dump by name, without where they come from. -/
def parseConfigDump (output : String) : Sorted String :=
  byName ((assignments output).map fun (key, value) =>
    (trimmed ((pieces '(' key).headD key), trimmed value))

/-- The values of a version report by name. -/
def parseVersionInfo (output : String) : Sorted String :=
  byName ((assignments output).map fun (key, value) => (trimmed key, trimmed value))

end PlaybookServer.Tool

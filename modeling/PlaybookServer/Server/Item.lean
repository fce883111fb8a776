/-
Module: PlaybookServer.Server.Item
Purpose: Completion items as the client sees them, and items that the client sends back to have their
  documentation filled in.
Main exports: itemObject, Item, Item.ofJson, Item.withDocumentation, ItemOrigin
-/
import PlaybookServer.Completion.Candidate
import PlaybookServer.Server.Outgoing
import PlaybookServer.Server.Params

namespace PlaybookServer.Server

open Json Text
open Completion (Candidate CandidateKind)

/-! ### Items for the client -/

/-- The number of a kind. -/
def kindNumber : CandidateKind → Nat
  | .keyword => 14
  | .indexedModule => 7
  | .redirectedModule => 18
  | .option => 10
  | .alternateName => 18
  | .value => 12
  | .templateVariable => 6

/-- Text with marks for emphasis. -/
def markdownObject (text : String) : Json := .object [("kind", .string "markdown"), ("value", .string text)]

/-- The module of an item and the document it was offered in. -/
def originObject (name : String) (doc : Url) : Json :=
  .object [("module", .string name), ("uri", .string doc.text)]

/-- What an item does to the text: an edit, or else a text to insert. -/
def insertion (c : Candidate) : List (String × Json) :=
  match c.edit with
  | some e => [("textEdit", .object [("range", rangeObject e.range), ("newText", .string e.newText)])]
  | none => [("insertText", .string c.insertText)]

/-- The item of a candidate. -/
def itemObject (doc : Url) (c : Candidate) : Json :=
  .object ([("label", .string c.label), ("kind", .nat (kindNumber c.kind))]
    ++ sentIf "detail" (c.detail.map .string) ++ sentIf "documentation" (c.documentation.map markdownObject)
    ++ [("sortText", .string c.sortText)] ++ sentIf "filterText" (c.filterText.map .string)
    ++ insertion c ++ sentIf "insertTextFormat" (if c.isSnippet then some (.nat 2) else none)
    ++ sentIf "data" (c.moduleName.map fun name => originObject name doc))

/-! ### Items that come back -/

/-- An item as the client sent it, with the fields that items have. -/
structure Item where
  fields : List (String × Json) := []
deriving Repr, Inhabited

/-- Set a field of an item. -/
def Item.put (i : Item) (name : String) (v : Json) : Item := ⟨setField name v i.fields⟩

/-- Read an item. Fields that items do not have are dropped. -/
def Item.ofJson (j : Json) : Except String Item := do
  match ← Protocol.completionItem.read j with
  | .object fields => return ⟨fields⟩
  | _ => return {}

/-- An item as JSON. -/
def Item.toJson (i : Item) : Json := .object i.fields

/-- An item with documentation. -/
def Item.withDocumentation (i : Item) (text : String) : Item := i.put "documentation" (markdownObject text)

/-- Where an item comes from. -/
structure ItemOrigin where
  moduleName : String
  doc : Url
deriving DecidableEq, Repr, Inhabited

/-- The origin of an item, if it has one. -/
def Item.origin? (i : Item) : Option ItemOrigin := do
  let data ← i.fields.lookup "data"
  (decodeRecord "ModuleItemData"
    [.needed "module" decodeText fun (o : ItemOrigin) v => { o with moduleName := v },
     .needed "uri" decodeUrl fun o v => { o with doc := v }] default data).toOption

end PlaybookServer.Server

/-
Module: PlaybookServer.Docs.Schema
Purpose: What the documentation of a module says about the module and its options.
Main exports: OptionDoc, OptionSet, ModuleDoc, ModuleDoc.ofValue?
-/
import PlaybookServer.Yaml.Value

namespace PlaybookServer.Docs

open Yaml (Value)

/-- Documentation of one option. Sub-options are entries under the names they can be given by. -/
structure OptionDoc where
  name : String
  description : List String := []
  required : Bool := false
  default : Option Value := none
  choices : List Value := []
  typeName : Option String := none
  elements : Option String := none
  aliases : List String := []
  versionAdded : Option String := none
  suboptions : List (String × OptionDoc) := []
deriving Repr, Inhabited

/-- Type label shown next to an option. -/
def OptionDoc.typeLabel? (o : OptionDoc) : Option String :=
  o.typeName.map fun t =>
    match t, o.elements with
    | "list", some e => "list(" ++ e ++ ")"
    | t, _ => t

/-- Options in schema order. Every alias is an entry of its own after the option it stands for. -/
abbrev OptionSet := List (String × OptionDoc)

/-- The option that a name stands for. -/
def OptionSet.get? (os : OptionSet) (name : String) : Option OptionDoc := os.lookup name

/-- Documentation of a module. -/
structure ModuleDoc where
  name : String
  shortDescription : Option String := none
  description : List String := []
  versionAdded : Option String := none
  deprecated : Bool := false
  options : OptionSet := []
deriving Repr, Inhabited

/-- The value of a field of a mapping. -/
def field? (entries : List (Value × Value)) (name : String) : Option Value :=
  Value.get? (.mapping entries) name

/-- A text field. -/
def textField? (entries : List (Value × Value)) (name : String) : Option String :=
  (field? entries name).bind Value.asString?

/-- The strings of a list field. -/
def listField (entries : List (Value × Value)) (name : String) : List String :=
  (((field? entries name).bind Value.asSequence?).getD []).filterMap Value.asString?

/-- A field that holds one text or a list of texts. -/
def textsField (entries : List (Value × Value)) (name : String) : List String :=
  match field? entries name with
  | some (.string s) => [s]
  | some (.sequence items) => items.filterMap Value.asString?
  | _ => []

mutual

/-- Number of levels of a value. -/
def depth : Value → Nat
  | .sequence items => depthOfItems items + 1
  | .mapping entries => depthOfEntries entries + 1
  | .tagged _ v => depth v + 1
  | _ => 0

/-- The greatest number of levels of the items. -/
def depthOfItems : List Value → Nat
  | [] => 0
  | v :: vs => max (depth v) (depthOfItems vs)

/-- The greatest number of levels of the entries' values. -/
def depthOfEntries : List (Value × Value) → Nat
  | [] => 0
  | (_, v) :: es => max (depth v) (depthOfEntries es)

end

mutual

/-- Options of a raw mapping; entries that are no mapping with a text key are left out. The fuel bounds
    the levels of sub-options. -/
def optionsWithin : Nat → Value → OptionSet
  | 0, _ => []
  | fuel + 1, raw =>
    match raw.asMapping? with
    | none => []
    | some entries =>
      entries.flatMap fun (key, value) =>
        match key.asString?, value.asMapping? with
        | some name, some option =>
          let doc := optionWithin fuel name option
          (name, doc) :: doc.aliases.map fun a => (a, doc)
        | _, _ => []

/-- One option. -/
def optionWithin : Nat → String → List (Value × Value) → OptionDoc
  | fuel, name, raw =>
    { name
      description := textsField raw "description"
      required := ((field? raw "required").bind Value.asBool?).getD false
      default := (field? raw "default").filter fun v => !v.isNull
      choices := ((field? raw "choices").bind Value.asSequence?).getD []
      typeName := textField? raw "type"
      elements := textField? raw "elements"
      aliases := listField raw "aliases"
      versionAdded := textField? raw "version_added"
      suboptions := match fuel with
        | 0 => []
        | fuel + 1 => match field? raw "suboptions" with
          | some v => optionsWithin fuel v
          | none => [] }

end

/-- Options of a raw mapping. -/
def OptionSet.ofValue (raw : Value) : OptionSet := optionsWithin (2 * depth raw + 2) raw

/-- Documentation of a module; none unless it names the module. -/
def ModuleDoc.ofValue? (raw : Value) : Option ModuleDoc := do
  let entries ← raw.asMapping?
  let name ← textField? entries "module"
  return {
    name
    shortDescription := textField? entries "short_description"
    description := textsField entries "description"
    versionAdded := textField? entries "version_added"
    deprecated := (field? entries "deprecated").any fun v => !v.isNull && v.asBool? ≠ some false
    options := match field? entries "options" with
      | some v => OptionSet.ofValue v
      | none => [] }

end PlaybookServer.Docs

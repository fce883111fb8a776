/-
Module: PlaybookServer.Docs.Routing
Purpose: Routes of modules: where a name leads to, and notices that a module is going away or gone.
Main exports: Notice, Route, Route.ofValue?, Sorted, parseRouting
-/
import PlaybookServer.Json.Decode
import PlaybookServer.Yaml.Decode

namespace PlaybookServer.Docs

open Yaml

/-- A notice about a module's removal. -/
structure Notice where
  removalVersion : Option String := none
  removalDate : Option String := none
  warningText : Option String := none
deriving DecidableEq, Repr, Inhabited

/-- The route of a module name. -/
structure Route where
  redirect : Option String := none
  deprecation : Option Notice := none
  tombstone : Option Notice := none
deriving DecidableEq, Repr, Inhabited

/-- Whether a route leads to another module that is still there. -/
def Route.isLive (r : Route) : Bool := r.redirect.isSome && r.tombstone.isNone

/-! ### Maps in the order of their names -/

/-- A map in ascending order of its names. -/
abbrev Sorted (α : Type) := List (String × α)

namespace Sorted

variable {α : Type}

/-- Set the value of a name. -/
def insert (m : Sorted α) (name : String) (value : α) : Sorted α :=
  match m with
  | [] => [(name, value)]
  | (n, v) :: rest =>
    if n = name then (name, value) :: rest
    else if name < n then (name, value) :: (n, v) :: rest
    else (n, v) :: insert rest name value

/-- The value of a name. -/
def get? (m : Sorted α) (name : String) : Option α := m.lookup name

/-- The names in order. -/
def names (m : Sorted α) : List String := m.map Prod.fst

end Sorted

/-! ### Routes as JSON -/

/-- A text that may be null. -/
def textOrNull : Json → Except String (Option String) := Json.decodeOptional Json.decodeText

/-- Read a notice. -/
def Notice.ofJson : Json → Except String Notice :=
  Json.decodeRecord "RouteNotice"
    [.of "removal_version" textOrNull fun n v => { n with removalVersion := v },
     .of "removal_date" textOrNull fun n v => { n with removalDate := v },
     .of "warning_text" textOrNull fun n v => { n with warningText := v }] {}

/-- Read a route. -/
def Route.ofJson : Json → Except String Route :=
  Json.decodeRecord "PluginRoute"
    [.of "redirect" textOrNull fun r v => { r with redirect := v },
     .of "deprecation" (Json.decodeOptional Notice.ofJson) fun r v => { r with deprecation := v },
     .of "tombstone" (Json.decodeOptional Notice.ofJson) fun r v => { r with tombstone := v }] {}

/-! ### Reading routes -/

/-- The fields of a record; null is a record without fields, and every key must be text. -/
def recordFields? (v : Value) : Option (List (String × Value)) :=
  match v.untagged with
  | .mapping entries => entries.mapM fun (k, v) => k.asString?.map (·, v)
  | .null => some []
  | _ => none

/-- A text field that may be null or missing. -/
def optionalText? (fields : List (String × Value)) (name : String) : Option (Option String) :=
  match fields.lookup name with
  | none | some .null => some none
  | some v => v.asString?.map some

/-- A notice from its record. -/
def Notice.ofValue? (v : Value) : Option Notice := do
  let fields ← recordFields? v
  return {
    removalVersion := ← optionalText? fields "removal_version"
    removalDate := ← optionalText? fields "removal_date"
    warningText := ← optionalText? fields "warning_text" }

/-- A notice that may be null or missing. -/
def optionalNotice? (fields : List (String × Value)) (name : String) : Option (Option Notice) :=
  match fields.lookup name with
  | none | some .null => some none
  | some v => (Notice.ofValue? v).map some

/-- A route from its record. -/
def Route.ofValue? (v : Value) : Option Route := do
  let fields ← recordFields? v
  return {
    redirect := ← optionalText? fields "redirect"
    deprecation := ← optionalNotice? fields "deprecation"
    tombstone := ← optionalNotice? fields "tombstone" }

/-- Read a map of values with text keys. -/
def readValueMap (d : YamlDocument) : Scope → Cursor → Except YamlFault (Sorted Value × Cursor) :=
  readFields d "a map" "a string" [] fun name m s k => do
    let (v, k) ← readValue d d.stepLimit false s k
    return (m.insert name v, k)

/-- Read the routing section: a map of maps by kind of plugin. -/
def readKinds (d : YamlDocument) : Scope → Cursor → Except YamlFault (Sorted (Sorted Value) × Cursor) :=
  readFields d "a map" "a string" [] fun name m s k => do
    let (v, k) ← readValueMap d s k
    return (m.insert name v, k)

/-- Read a runtime file, of which only the routing section counts; it may stand there once. -/
def readRuntime (d : YamlDocument) : Scope → Cursor → Except YamlFault (Option (Sorted (Sorted Value)) × Cursor) :=
  readFields d "struct RuntimeFile" "field identifier" none fun name seen s k => do
    if name = "plugin_routing" then
      if seen.isSome then .error (mismatch "duplicate field `plugin_routing`")
      else
        let (m, k) ← readKinds d s k
        return (some m, k)
    else return (seen, ← d.skip k)

/-- Routes of modules in a runtime file. A file that cannot be read has none, and a route that cannot is
    left out. -/
def parseRouting (text : String) : Sorted Route :=
  match readSingle text readRuntime with
  | .error _ => []
  | .ok none => []
  | .ok (some kinds) =>
    match kinds.get? "modules" with
    | none => []
    | some routes => routes.filterMap fun (name, raw) => (Route.ofValue? raw).map (name, ·)

end PlaybookServer.Docs

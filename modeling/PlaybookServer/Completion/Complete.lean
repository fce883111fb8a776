/-
Module: PlaybookServer.Completion.Complete
Purpose: What can be completed at a position. The path to the cursor decides the context: a key of a play,
  block, role entry or task, a template expression, an option of a module, or a value of one.
Main exports: Request, Context, classify?, possibleOptions?, candidates, complete
-/
import PlaybookServer.Completion.Candidate
import PlaybookServer.Completion.Cursor
import PlaybookServer.Completion.Variables
import PlaybookServer.Settings.Model

namespace PlaybookServer.Completion

open Text Docs Playbook
open Yaml (Value)

/-- Everything a completion needs. -/
structure Request where
  uri : Url
  text : String
  position : Point
  settings : Settings
  library : Library
  roleCollections : List String
  fs : Files.FileView

/-! ### Options of a module -/

/-- Descend into sub-options, outermost key first. Each key must name an option whose type agrees with
    the nesting and which has sub-options. -/
def descendOptions : OptionSet → List (String × Nesting) → Option OptionSet
  | options, [] => some options
  | options, (name, nesting) :: rest => do
    let option ← options.get? name
    if option.typeName ≠ some nesting.typeName || option.suboptions.isEmpty then none
    descendOptions option.suboptions rest

/-- The module that a task parameter belongs to: `args` belongs to the task's module. -/
def ownerModule? (r : Request) (taskParam : Path) : Option Module := do
  let key ← taskParam.keyName?
  if key = "args" then r.library.findProvided? taskParam r.roleCollections
  else (r.library.find key (some taskParam) r.roleCollections).1

/-- The module whose options may stand at the key at the end of a path, with the keys in between,
    outermost first. -/
def optionOwner? (r : Request) (path : Path) : Option (Module × List (String × Nesting)) := do
  let (taskParam, trace) ← taskParamWithTrace? path
  let (_, nesting) ← trace.getLast?
  if nesting ≠ .dict then none
  let m ← ownerModule? r taskParam
  return (m, trace.dropLast.reverse)

/-- Options that may stand in the mapping of the key at the end of a path. -/
def possibleOptions? (r : Request) (path : Path) : Option OptionSet := do
  let (m, trace) ← optionOwner? r path
  let doc ← Library.documentation? r.fs m
  descendOptions doc.options trace

/-! ### Contexts -/

/-- What the cursor stands at. -/
inductive Context where
  | playKey
  | blockKey
  | roleKey
  /-- A task's key; `openPlay` when the mapping may still become a play. -/
  | taskKey (openPlay : Bool)
  | template
  | optionKey (options : OptionSet)
  | optionValue (option : OptionDoc)
deriving Repr, Inhabited

/-- Path to the key whose value the cursor is in. A key without a value owns the mapping typed below it. -/
def valueKey? (path : Path) : Option Path :=
  let owner := path.ancestry.parent (some .mapping)
  match owner.value? with
  | some none => (owner.parent (some .mapping)).keyPath?
  | _ => owner.keyPath?

/-- The option whose value the cursor is in. -/
def valueOption? (r : Request) (path : Path) : Option OptionDoc := do
  let keyPath ← valueKey? path
  let key ← keyPath.keyName?
  let options ← possibleOptions? r keyPath
  options.get? key

/-- The context of a path. -/
def classify? (r : Request) (p : Prepared) (path : Path) : Option Context :=
  let play := isPlayParam? path (some r.uri.text)
  if play = some true then some .playKey
  else if isBlockParam path then some .blockKey
  else if isRoleParam path then some .roleKey
  else if isTaskParam path then some (.taskKey play.isNone)
  else if isPlaybook r.text && p.insideTemplate path then some .template
  else
    match possibleOptions? r path with
    | some options => some (.optionKey options)
    | none => (valueOption? r path).map .optionValue

/-! ### Candidates -/

/-- Keys of the mapping that the candidates at a path would join. -/
def siblingKeys (path : Path) : List String :=
  match (path.ancestry.parent (some .mapping)).node? with
  | some map => path.doc.keys map
  | none => []

/-- Keywords that the mapping does not have yet; `name` ranks first. -/
def keywordCandidates (p : Prepared) (path : Path) (keywords : List String) : List Candidate :=
  let given := siblingKeys path
  (keywords.filter fun k => !given.elem k).map fun k =>
    .make k .keyword (if k = "name" then 1 else 4) (if p.atEndOfLine then k ++ ":" else k) (p.nodeRange? path)

/-- Whether a short name leads to a fully qualified one, given the collections in scope. -/
def shortNameResolves (r : Request) (path : Path) (fullName short : String) : Bool :=
  (candidateNames short (some path) r.roleCollections).find?
    (fun c => (r.library.module? c).isSome || (r.library.route? c).isSome) = some fullName

/-- Words by which a module is found in a list. -/
def moduleFilter (short : Bool) (collection name fullName : String) : String :=
  if short then name ++ " " ++ fullName
  else
    let (nameSpace, coll) := (cutAt? "." collection).getD (collection, "")
    name ++ " " ++ fullName ++ " " ++ coll ++ " " ++ nameSpace

/-- The candidate of a module, under the name the document can use for it. -/
def moduleCandidate? (r : Request) (p : Prepared) (path : Path) (fullName : String) : Option Candidate := do
  let route := r.library.route? fullName
  let redirected : Bool := route.any fun x => x.redirect.isSome
  if redirected && !r.settings.completion.redirectModules then none
  let (collection, name) ← cutLast? '.' fullName
  let demoted : Bool := redirected || route.any fun x => x.deprecation.isSome
  let range := p.nodeRange? path
  let short : Bool := !r.settings.tool.useFullNames && shortNameResolves r path fullName name
  let label := if short then name else fullName
  let insert := if p.atEndOfLine then label ++ ":" ++ insertionSuffix (some "dict") (p.firstOfList range)
    else label
  return { Candidate.make label (if demoted then .redirectedModule else .indexedModule)
      (if demoted then 3 else 2) insert range with
    detail := some collection
    moduleName := some fullName
    filterText := some (moduleFilter short collection name fullName) }

/-- Every module that may be offered. -/
def moduleCandidates (r : Request) (p : Prepared) (path : Path) : List Candidate :=
  r.library.names.filterMap (moduleCandidate? r p path)

/-- Candidates at a key of a task. While no module is given, blocks and modules are offered. -/
def taskCandidates (r : Request) (p : Prepared) (path : Path) (openPlay : Bool) : List Candidate :=
  keywordCandidates p path taskKeywords
  ++ (if openPlay then keywordCandidates p path playWithoutTaskKeywords else [])
  ++ (if (r.library.findProvided? path r.roleCollections).isNone then
        keywordCandidates p path ["block"] ++ moduleCandidates r p path
      else [])

/-- Options that the mapping of the cursor's key does not give yet. -/
def optionCandidates (r : Request) (p : Prepared) (path : Path) (options : OptionSet) : List Candidate :=
  let given := match path.ancestry.parentOfKey.node? with
    | some map => path.doc.keys map
    | none => []
  let range := p.nodeRange? path
  options.filterMap fun (name, option) =>
    let alternate : Bool := name ≠ option.name
    if given.elem option.name || (alternate && !r.settings.completion.optionAliases) then none
    else
      let insert := if p.atEndOfLine then
          name ++ ":" ++ insertionSuffix option.typeName (p.firstOfList range)
        else name
      some { Candidate.make name (if alternate then .alternateName else .option)
          (if alternate then 3 else if option.required then 1 else 2) insert range with
        detail := some (optionDetail option)
        documentation := some (optionDocumentation option) }

/-- Words that mean true as the default of a truth value. -/
def isTrueWord (s : String) : Bool :=
  ["yes", "true", "on", "1"].contains (String.ofList (s.toList.map Char.toLower))

/-- The default of an option; a word as the default of a truth value stands for that value. -/
def effectiveDefault? (o : OptionDoc) : Option Value :=
  match o.default with
  | some (.string s) => some (if o.typeName = some "bool" then .bool (isTrueWord s) else .string s)
  | d => d

/-- Values an option may take: its choices, else the truth values, else its default. -/
def possibleValues (o : OptionDoc) : List Value :=
  if !o.choices.isEmpty then o.choices
  else if o.typeName = some "bool" then [.bool true, .bool false]
  else (effectiveDefault? o).toList

/-- Candidates for the value of an option; its default ranks first. -/
def valueCandidates (p : Prepared) (path : Path) (o : OptionDoc) : List Candidate :=
  let range := p.nodeRange? path
  (possibleValues o).map fun v =>
    let isDefault : Bool := (effectiveDefault? o).any (Value.same v)
    let label := valueLabel v
    { Candidate.make label .value (if isDefault then 1 else 2) label range with
      detail := if isDefault then some "default" else none }

/-- Variables; inner scopes rank first. -/
def variableCandidates (vars : List (String × Nat)) : List Candidate :=
  vars.map fun (name, scope) => .make name .templateVariable scope name none

/-- The candidates of a context, as they come. -/
def contextCandidates (r : Request) (p : Prepared) (path : Path) : Context → List Candidate
  | .playKey => keywordCandidates p path playKeywords
  | .blockKey => keywordCandidates p path blockKeywords
  | .roleKey => keywordCandidates p path roleKeywords
  | .taskKey openPlay => taskCandidates r p path openPlay
  | .template => variableCandidates (visibleVariables path r.uri r.fs)
  | .optionKey options => optionCandidates r p path options
  | .optionValue option => valueCandidates p path option

/-- The path to the cursor in the patched text. -/
def cursorPath? (p : Prepared) : Option Path := do
  let path ← pathAt? (Stream.ofText (String.ofList p.patched)) p.offset true
  let _ ← path.lastNode?
  return path

/-- Candidates at a position, best first; none when the cursor is in no known context. -/
def complete (r : Request) : Option (List Candidate) := do
  let p ← Prepared.ofText? r.text.toList r.position
  let path ← cursorPath? p
  let context ← classify? r p path
  return rank (contextCandidates r p path context)

/-- Names of the modules whose documentation a completion looks at. -/
def consultedModules (r : Request) : List String :=
  let found : Option (List String) := do
    let p ← Prepared.ofText? r.text.toList r.position
    let path ← cursorPath? p
    if isPlayParam? path (some r.uri.text) = some true || isBlockParam path || isRoleParam path
        || isTaskParam path || (isPlaybook r.text && p.insideTemplate path) then none
    let first := (optionOwner? r path).map fun o => o.1.fullName
    let second := if (possibleOptions? r path).isSome then none
      else (valueKey? path).bind fun k =>
        if k.keyName?.isSome then (optionOwner? r k).map fun o => o.1.fullName else none
    return first.toList ++ second.toList
  found.getD []

end PlaybookServer.Completion

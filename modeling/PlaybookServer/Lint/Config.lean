/-
Module: PlaybookServer.Lint.Config
Purpose: Configuration files of the linter: which one applies to a document, the rules it turns into
  warnings, and a cache of what was read.
Main exports: WarnList.parse, configFromArguments?, findConfigFile?, ConfigCache
-/
import PlaybookServer.Diagnostic.Model
import PlaybookServer.Files.Path
import PlaybookServer.Files.View
import PlaybookServer.Url.File
import PlaybookServer.Yaml.Decode

namespace PlaybookServer.Lint

open Text Files Yaml

/-- Insert into an ascending list without repetition. -/
def insertSorted (s : String) : List String → List String
  | [] => [s]
  | t :: rest => if s = t then t :: rest else if s < t then s :: t :: rest else t :: insertSorted s rest

/-- Rule names and categories that are warnings, in ascending order. -/
abbrev WarnList := List String

/-- Read a configuration document, of which only the warn list counts; it may stand there once. -/
def readConfig (d : YamlDocument) : Scope → Cursor → Except YamlFault (Option (List Value) × Cursor) :=
  readFields d "struct RawLintConfig" "field identifier" none fun name seen s k => do
    if name = "warn_list" then
      if seen.isSome then .error (mismatch "duplicate field `warn_list`")
      else
        let (items, k) ← readSequence d s k
        return (some items, k)
    else return (seen, ← d.skip k)

/-- The warn list of one document; an empty document has none. -/
def documentWarnings (d : YamlDocument) : Except YamlFault (List String) := do
  let config ← d.read (readOptional d (readConfig d) d.stepLimit)
  return (config.join.getD []).filterMap Value.asString?

/-- The warn list of a configuration text, over all its documents. -/
def WarnList.parse (text : String) : Except YamlFault WarnList :=
  (documents text.toList).foldlM (fun (list : WarnList) d => do
    return (← documentWarnings d).foldl (fun l s => insertSorted s l) list) []

/-! ### The configuration named in the arguments -/

/-- Text in quotes of one kind, at least one character. -/
def quotedValue? (quote : Char) : List Char → Option (List Char)
  | c :: rest =>
    let body := rest.takeWhile (· ≠ quote)
    if c = quote && !body.isEmpty && body.length < rest.length then some body else none
  | [] => none

/-- The value after the option: in quotes, or up to the next blank. -/
def optionValue? (cs : List Char) : Option (List Char) :=
  let cs := trimStart cs
  (quotedValue? '"' cs).orElse fun _ => (quotedValue? '\'' cs).orElse fun _ =>
    let word := cs.takeWhile fun c => !isBlank c
    if word.isEmpty then none else some word

/-- The value of the first option `-c` that starts a word and has one. -/
def configOption? (startsWord : Bool) : List Char → Option (List Char)
  | [] => none
  | c :: cs =>
    let here := if startsWord then (stripStem? ['-', 'c'] (c :: cs)).bind optionValue? else none
    here.orElse fun _ => configOption? (isBlank c) cs

/-- The configuration file that the arguments name. -/
def configFromArguments? (arguments : String) : Option String :=
  (configOption? true arguments.toList).map String.ofList

/-! ### The nearest configuration -/

/-- Names of configuration files; the first that exists counts. -/
def configNames : List String := [".ansible-lint", ".ansible-lint.yml", ".ansible-lint.yaml"]

/-- The configuration file in a directory. -/
def configIn? (isThere : String → Bool) (dir : String) : Option String :=
  (configNames.map (joinPath dir)).find? isThere

/-- The nearest configuration file in the directories from the document's up to the folder's root. -/
def findConfigFile? (isThere : String → Bool) (docPath root : String) : Option String :=
  match parent? docPath with
  | none => none
  | some dir => ((ancestors dir).takeWhile fun d => isUnder d root).findSome? (configIn? isThere)

/-! ### Cache -/

/-- Warn lists by configuration file. -/
abbrev ConfigCache := Table (List Component) WarnList

namespace ConfigCache

/-- Read a configuration file, or say why it cannot be read. -/
def load (fs : FileView) (path : String) : Except String WarnList :=
  match fs.read path with
  | .error e => .error e.text
  | .ok text => (WarnList.parse text).mapError YamlFault.text

/-- The warn list of a file. One that cannot be read is kept as empty, and why is told once. -/
def get (cache : ConfigCache) (fs : FileView) (path : String) : WarnList × Option String × ConfigCache :=
  match Table.get? cache (components path) with
  | some list => (list, none, cache)
  | none =>
    match load fs path with
    | .ok list => (list, none, Table.set cache (components path) list)
    | .error reason =>
      ([], some ("Could not load lint config " ++ path ++ ": " ++ reason),
        Table.set cache (components path) [])

/-- Forget the files that changed. -/
def forget (cache : ConfigCache) (changed : List Url) : ConfigCache :=
  changed.foldl (fun (c : ConfigCache) u => Table.erase c (components (uriToPath u))) cache

end ConfigCache

end PlaybookServer.Lint

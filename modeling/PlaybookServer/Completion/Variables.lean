/-
Module: PlaybookServer.Completion.Variables
Purpose: Variables visible inside a template expression, innermost scope first: those of the task, its
  blocks and its play, then the prompts of the play, then the files it names.
Main exports: visibleVariables
-/
import PlaybookServer.Files.Path
import PlaybookServer.Files.View
import PlaybookServer.Playbook.Structure
import PlaybookServer.Url.File
import PlaybookServer.Yaml.Decode

namespace PlaybookServer.Completion

open Files

/-- Keys of a mapping, or of the mappings in a sequence. -/
def keysOfVars (d : Document) (node : NodeId) : List String :=
  if d.isMapping node then d.keys node else (d.items node).flatMap d.keys

/-- Variables of the mapping that holds the key at the end of a path. -/
def scopedVars (path : Path) : List String :=
  match path.ancestry.parentOfKey.node?.bind fun map => path.doc.get? map "vars" with
  | some vars => keysOfVars path.doc vars
  | none => []

/-- Path to the key of the next entry around: through a mapping value, else through a sequence item. -/
def enclosingEntry? (path : Path) : Option Path :=
  let map := path.ancestry.parent (some .mapping)
  let named := fun (p : Path) => p.keyName?.isSome
  ((map.parent (some .mapping)).keyPath?.filter named).or
    (((map.parent (some .sequence)).parent (some .mapping)).keyPath?.filter named)

/-- The number of the last scope that is told apart. -/
def scopeLimit : Nat := 255

/-- The next scope outward. -/
def nextScope (scope : Nat) : Nat := min (scope + 1) scopeLimit

/-- Variables of the entries around a path up to its play, with the path and scope reached. Every step
    makes the path shorter; the fuel bounds their number. -/
def enclosingVars : Nat → Path → Nat → List (String × Nat) × Path × Nat
  | 0, path, scope => ([], path, scope)
  | fuel + 1, path, scope =>
    if Playbook.isPlayParam? path none = some true then ([], path, scope)
    else
      match enclosingEntry? path with
      | none => ([], path, scope)
      | some outer =>
        let scope := nextScope scope
        let (vars, last, reached) := enclosingVars fuel outer scope
        ((scopedVars outer).map (·, scope) ++ vars, last, reached)

/-- Text keys of a mapping. -/
def textKeys (v : Yaml.Value) : List String :=
  (v.asMapping?.getD []).filterMap fun (k, _) => k.asString?

/-- Variables a file defines: keys of its mapping, or of the mappings in its list. -/
def fileVariables (fs : FileView) (path : String) : List String :=
  match fs.read path with
  | .error _ => []
  | .ok text =>
    match Yaml.Value.ofText text with
    | .error _ => []
    | .ok (.sequence items) => items.flatMap textKeys
    | .ok v => textKeys v

/-- Names that a play prompts for. -/
def promptedNames (d : Document) (play : NodeId) : List String :=
  match d.get? play "vars_prompt" with
  | none => []
  | some prompts => (d.items prompts).filterMap fun p => (d.get? p "name").bind d.scalar?

/-- Variables of the files that a play names, relative to the document's directory. -/
def playFileVariables (fs : FileView) (uri : Url) (d : Document) (play : NodeId) : List String :=
  match d.get? play "vars_files" with
  | none => []
  | some files =>
    let base := (parent? (uriToPath uri)).getD "/"
    ((d.items files).filterMap d.scalar?).flatMap fun name => fileVariables fs (joinPath base name)

/-- Variables visible at a path, with the number of their scope, innermost first. -/
def visibleVariables (path : Path) (uri : Url) (fs : FileView) : List (String × Nat) :=
  let (vars, last, scope) := enclosingVars (path.length + 1) path 0
  match last.ancestry.parentOfKey.node? with
  | none => vars
  | some play =>
    let prompts := nextScope scope
    let files := nextScope prompts
    vars ++ (promptedNames last.doc play).map (·, prompts)
      ++ (playFileVariables fs uri last.doc play).map (·, files)

end PlaybookServer.Completion

/-
Module: PlaybookServer.Playbook.Structure
Purpose: What a path means in a playbook: whether the key it ends at belongs to a play, a block, a role
  entry or a task, which task parameter an option belongs to, and which collections are in force.
Main exports: isPlayParam?, isBlockParam, isRoleParam, isTaskParam, taskParamWithTrace?,
  declaredCollections, providedModuleNames, isPlaybook
-/
import PlaybookServer.Document.Lowering
import PlaybookServer.Document.Path
import PlaybookServer.Playbook.Keywords

namespace PlaybookServer.Playbook

open Text

/-- How an option is nested under the option around it. -/
inductive Nesting where
  | dict
  | list
deriving DecidableEq, Repr, Inhabited

/-- The option type that allows this nesting. -/
def Nesting.typeName : Nesting → String
  | .dict => "dict"
  | .list => "list"

/-- Whether an address has the form `.../roles/<name>/tasks/...`. -/
def isRoleTasksAddress : List String → Bool
  | part :: rest =>
    (part = "roles" && (match rest with
      | name :: "tasks" :: _ :: _ => name ≠ ""
      | _ => false))
    || isRoleTasksAddress rest
  | [] => false

/-- Whether the key at the end of a path is one of a play. Without an answer, the key stands in a
    top-level mapping that could be a play or a task; the address of the document may decide. -/
def isPlayParam? (path : Path) (address : Option String) : Option Bool :=
  let map := path.ancestry.parentOfKey
  let list := map.parent (some .sequence)
  if list.path?.map Path.length ≠ some 1 then some false
  else
    map.node?.bind fun node =>
      if (path.doc.keys node).any playExclusiveKeywords.elem then some true
      else
        match address with
        | some uri => if isRoleTasksAddress (pieces '/' uri) then some false else none
        | none => none

/-- Whether the key at the end of a path is one of a block. -/
def isBlockParam (path : Path) : Bool :=
  let map := path.ancestry.parentOfKey
  match map.node?, (map.parent (some .sequence)).node? with
  | some node, some _ => path.doc.isMapping node && (path.doc.keys node).elem "block"
  | _, _ => false

/-- Whether the key at the end of a path is one of an entry of a role list. -/
def isRoleParam (path : Path) : Bool :=
  ((path.ancestry.parentOfKey.parent (some .sequence)).parent (some .mapping)).stringKey? = some "roles"

/-- Whether the key at the end of a path is one of a task. -/
def isTaskParam (path : Path) : Bool :=
  match (path.ancestry.parentOfKey.parent (some .sequence)).path? with
  | none => false
  | some list =>
    if isPlayParam? path none = some true || isBlockParam path || isRoleParam path then false
    else if list.length = 1 then true
    else
      match (list.ancestry.parent (some .mapping)).stringKey? with
      | some key => taskListKeys.elem key
      | none => false

/-- The key one level up: the mapping that holds the current key is the value of a pair, or an item of
    a sequence that is. -/
def enclosingKey? (path : Path) : Option (Path × String × Nesting) :=
  let map := path.ancestry.parentOfKey
  let named := fun (p : Option Path) (nesting : Nesting) =>
    p.bind fun q => q.keyName?.map fun key => (q, key, nesting)
  (named (map.parent (some .mapping)).keyPath? .dict).or
    (named ((map.parent (some .sequence)).parent (some .mapping)).keyPath? .list)

/-- Walk up to the task parameter; the fuel bounds the number of levels. -/
def traceWithin : Nat → Path → List (String × Nesting) → Option (Path × List (String × Nesting))
  | 0, _, _ => none
  | fuel + 1, path, trace =>
    if isTaskParam path then some (path, trace)
    else
      match enclosingKey? path with
      | some (outer, key, nesting) => traceWithin fuel outer (trace ++ [(key, nesting)])
      | none => none

/-- Walk up from an option key to the task parameter that owns it, with the keys passed on the way,
    innermost first. Every level makes the path shorter. -/
def taskParamWithTrace? (path : Path) : Option (Path × List (String × Nesting)) :=
  traceWithin (path.length + 1) path []

/-- The scalar items of the `collections` list of a mapping. -/
def collectionsOf (d : Document) (map : Option NodeId) : List String :=
  match map.bind fun m => d.get? m "collections" with
  | some list => (d.items list).filterMap d.scalar?
  | none => []

/-- Collections of the blocks around a mapping and of the mapping around those; the fuel bounds the
    number of blocks. -/
def outerCollections : Nat → Path → List String
  | 0, _ => []
  | fuel + 1, current =>
    let up := (current.ancestry.parent (some .sequence)).parent (some .mapping)
    let here := collectionsOf current.doc up.node?
    match up.stringKey?, up.path? with
    | some key, some block =>
      if key = "block" || key = "rescue" || key = "always" then here ++ outerCollections fuel block
      else here
    | _, _ => here

/-- Collections declared by the task that owns a module key, its blocks and its play. -/
def declaredCollections (path : Path) : List String :=
  let task := if path.length < 3 then none else path.steps[path.length - 3]?.bind Step.node?
  collectionsOf path.doc task
  ++ match (path.ancestry.parent (some .mapping)).path? with
    | some current => outerCollections (path.length + 1) current
    | none => []

/-- Keys of the task mapping that are no keywords: usually one module name. -/
def providedModuleNames (path : Path) : List String :=
  match (path.ancestry.parent (some .mapping)).node? with
  | some map => (path.doc.keys map).filter fun k => !isTaskKeyword k
  | none => []

/-- Whether a key makes a list entry a play. -/
def marksPlay (key : String) : Bool :=
  playWithoutTaskKeywords.elem key || key = "import_playbook" || key = "ansible.builtin.import_playbook"

/-- Whether a text looks like a playbook: its first document is a list with a play. -/
def isPlaybook (text : String) : Bool :=
  if isBlankLine text.toList then false
  else
    match (Stream.ofText text).documents.head? with
    | some d =>
      match d.root with
      | some root => d.isSequence root && (d.items root).any fun x => (d.keys x).any marksPlay
      | none => false
    | none => false

end PlaybookServer.Playbook

/-
Module: PlaybookServer.Inspect.Tree
Purpose: Documents and paths in them as JSON, for a look at how a text was understood.
Main exports: ofStream, ofPath, ofAncestry, walkFrom
-/
import PlaybookServer.Document.Lowering
import PlaybookServer.Inspect.Findings
import PlaybookServer.Playbook.Structure

namespace PlaybookServer.Inspect

/-- The word for a style. -/
def styleWord : ScalarStyle → String
  | .plain => "Plain"
  | .singleQuoted => "SingleQuoted"
  | .doubleQuoted => "DoubleQuoted"
  | .literal => "Literal"
  | .folded => "Folded"

/-- A node with what is below it. A node has a larger number than those below it, which bounds the depth. -/
def ofNode (d : Document) : Nat → NodeId → Json
  | 0, _ => .null
  | fuel + 1, id =>
    let place := ("at", ofSpan (d.spanOf id))
    match d.kind id with
    | .mapping ps =>
      .object [place, ("map", .array (ps.map fun p =>
        match d.pair? p with
        | some (k, v) => .array [ofSpan (d.spanOf p), ofNode d fuel k, Json.ofOption (ofNode d fuel) v]
        | none => .null))]
    | .sequence xs => .object [place, ("seq", .array (xs.map (ofNode d fuel)))]
    | .scalar v style => .object [place, ("str", .string v), ("style", .string (styleWord style))]
    | .reference name => .object [place, ("alias", .string name)]
    | .null => .object [place, ("null", .bool true)]
    | .pair _ _ => .object [place]

/-- The word for a kind of fault. -/
def faultWord : FaultKind → String
  | .syntactic => "Syntax"
  | .semantic => "Semantic"
  | .reference => "Reference"
  | .warning => "Warning"

/-- The documents of a text and its faults. -/
def ofStream (s : Stream) : Json :=
  .object
    [("documents", .array (s.documents.map fun d => .object
        [("span", ofSpan d.span),
         ("root", Json.ofOption (fun r => ofNode d (r + 1) r) d.root),
         ("json", Json.ofOption d.toJson d.root)])),
     ("errors", .array (s.faults.map fun f => .array
        [.string (faultWord f.kind), .string f.message, .nat f.span.start, .nat f.span.stop]))]

/-- The word for a kind of node. -/
def nodeWord : NodeKind → String
  | .mapping _ => "map"
  | .sequence _ => "seq"
  | .pair _ _ => "pair"
  | .scalar _ _ => "str"
  | .reference _ => "alias"
  | .null => "null"

/-- A node on a path. -/
def ofNodeStep (d : Document) (id : NodeId) : Json :=
  .array [.string (nodeWord (d.kind id)), .nat (d.spanOf id).start, .nat (d.spanOf id).stop]

/-- A step of a path. -/
def ofStep (d : Document) : Step → Json
  | .node id => ofNodeStep d id
  | .empty => .string "empty"

/-- A place on the way up from the end of a path. -/
def ofAncestry (a : Ancestry) : Json :=
  let d := a.path.doc
  .object
    [("at", Json.ofOption (ofStep d) a.get?),
     ("key", textOrNull a.stringKey?),
     ("value", match a.value? with
        | none => .null
        | some none => .string "none"
        | some (some v) => ofNodeStep d v),
     ("len", Json.ofOption (fun p : Path => .nat p.length) a.path?),
     ("key_path", Json.ofOption (fun p : Path => .array [.nat p.length, textOrNull p.keyName?]) a.keyPath?)]

/-- Move up by the word for a move. -/
def moveBy (a : Ancestry) : String → Ancestry
  | "map" => a.parent (some .mapping)
  | "seq" => a.parent (some .sequence)
  | "pair" => a.parent (some .pair)
  | "key" => a.parentOfKey
  | _ => a.parent none

/-- The places that moves lead to, one after another. -/
def placesFrom (a : Ancestry) : List String → List Json
  | [] => []
  | m :: ms => ofAncestry (moveBy a m) :: placesFrom (moveBy a m) ms

/-- A path: its steps, what may stand at its end, and walks up from there. -/
def ofPath (address : Option String) (walks : List (List String)) (p : Path) : Json :=
  .object
    [("steps", .array (p.steps.map (ofStep p.doc))),
     ("key_name", textOrNull p.keyName?),
     ("play", Json.ofOption .bool (Playbook.isPlayParam? p none)),
     ("play_in", Json.ofOption .bool (Playbook.isPlayParam? p address)),
     ("block", .bool (Playbook.isBlockParam p)),
     ("role", .bool (Playbook.isRoleParam p)),
     ("task", .bool (Playbook.isTaskParam p)),
     ("trace", Json.ofOption (fun (q, trace) => .object
        [("task_param", textOrNull q.keyName?), ("len", .nat q.length),
         ("trace", .array (trace.map fun (k, n) => .array [.string k, .string n.typeName])),
         ("modules", Json.strings (Playbook.providedModuleNames q))]) (Playbook.taskParamWithTrace? p)),
     ("collections", Json.strings (Playbook.declaredCollections p)),
     ("modules", Json.strings (Playbook.providedModuleNames p)),
     ("walks", .array (walks.map fun w => .array (placesFrom p.ancestry w)))]

end PlaybookServer.Inspect

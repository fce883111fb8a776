/-
Module: PlaybookServer.Document.Node
Purpose: Parsed YAML documents. The nodes of a document live in one array and refer to each other by
  index; a mapping holds pairs, a pair holds a key and perhaps a value. Faults found on the way are
  kept beside the documents.
Main exports: ScalarStyle, NodeKind, Node, Document, FaultKind, Fault, Stream
-/
import PlaybookServer.Json.Value
import PlaybookServer.Text.Span

namespace PlaybookServer

open Text (Span)

/-- Index of a node in its document. -/
abbrev NodeId := Nat

/-- How a scalar is written. -/
inductive ScalarStyle where
  | plain
  | singleQuoted
  | doubleQuoted
  | literal
  | folded
deriving DecidableEq, Repr, Inhabited

/-- What a node is. -/
inductive NodeKind where
  /-- The pairs in document order. -/
  | mapping (pairs : List NodeId)
  | sequence (items : List NodeId)
  | pair (key : NodeId) (value : Option NodeId)
  | scalar (value : String) (style : ScalarStyle)
  | reference (name : String)
  /-- An entry without content. -/
  | null
deriving DecidableEq, Repr, Inhabited

/-- The nodes a node refers to. -/
def NodeKind.children : NodeKind → List NodeId
  | .mapping ps => ps
  | .sequence xs => xs
  | .pair k v => k :: v.toList
  | _ => []

/-- A node with the bytes it covers. -/
structure Node where
  kind : NodeKind
  span : Span
deriving DecidableEq, Repr, Inhabited

/-- One document of a stream. -/
structure Document where
  nodes : Array Node := #[]
  root : Option NodeId := none
  span : Span := ⟨0, 0⟩
deriving DecidableEq, Repr, Inhabited

/-- Classes of faults. -/
inductive FaultKind where
  | syntactic
  | semantic
  | reference
  | warning
deriving DecidableEq, Repr, Inhabited

/-- A fault and the bytes it is reported at. -/
structure Fault where
  kind : FaultKind
  message : String
  span : Span
deriving DecidableEq, Repr, Inhabited

/-- A parsed stream. -/
structure Stream where
  documents : List Document := []
  faults : List Fault := []
deriving Repr, Inhabited

namespace Document

/-- A node by index. -/
def node (d : Document) (id : NodeId) : Node := d.nodes.getD id { kind := .null, span := ⟨0, 0⟩ }

/-- What a node is. -/
def kind (d : Document) (id : NodeId) : NodeKind := (d.node id).kind

/-- The bytes a node covers. -/
def spanOf (d : Document) (id : NodeId) : Span := (d.node id).span

/-- Whether a node is a mapping. -/
def isMapping (d : Document) (id : NodeId) : Bool :=
  match d.kind id with
  | .mapping _ => true
  | _ => false

/-- Whether a node is a sequence. -/
def isSequence (d : Document) (id : NodeId) : Bool :=
  match d.kind id with
  | .sequence _ => true
  | _ => false

/-- Whether a node is a pair. -/
def isPair (d : Document) (id : NodeId) : Bool :=
  match d.kind id with
  | .pair _ _ => true
  | _ => false

/-- The text of a scalar. -/
def scalar? (d : Document) (id : NodeId) : Option String :=
  match d.kind id with
  | .scalar v _ => some v
  | _ => none

/-- The key and value of a pair. -/
def pair? (d : Document) (id : NodeId) : Option (NodeId × Option NodeId) :=
  match d.kind id with
  | .pair k v => some (k, v)
  | _ => none

/-- The pairs of a mapping. -/
def pairs (d : Document) (mapping : NodeId) : List NodeId :=
  match d.kind mapping with
  | .mapping ps => ps
  | _ => []

/-- The items of a sequence. -/
def items (d : Document) (sequence : NodeId) : List NodeId :=
  match d.kind sequence with
  | .sequence xs => xs
  | _ => []

/-- The scalar keys of a mapping in document order. -/
def keys (d : Document) (mapping : NodeId) : List String :=
  (d.pairs mapping).filterMap fun p => (d.pair? p).bind fun (k, _) => d.scalar? k

/-- The value under the first pair with a scalar key. -/
def get? (d : Document) (mapping : NodeId) (key : String) : Option NodeId :=
  (((d.pairs mapping).filterMap d.pair?).find? fun (k, _) => d.scalar? k = some key).bind Prod.snd

/-- Plain data view of a node; scalars stay strings, and of two pairs with one key the later counts.
    The fuel bounds the depth. -/
def toJsonWithin (d : Document) : Nat → NodeId → Json
  | 0, _ => .null
  | fuel + 1, id =>
    match d.kind id with
    | .mapping ps =>
      .object (ps.foldl (fun fields p =>
        match d.pair? p with
        | some (k, v) =>
          Json.setField ((d.scalar? k).getD "") ((v.map (d.toJsonWithin fuel)).getD .null) fields
        | none => fields) [])
    | .sequence xs => .array (xs.map (d.toJsonWithin fuel))
    | .scalar v _ => .string v
    | _ => .null

/-- Plain data view of a node. Children come before their parents, so the depth below a node is at
    most its index. -/
def toJson (d : Document) (id : NodeId) : Json := d.toJsonWithin (id + 1) id

end Document

end PlaybookServer

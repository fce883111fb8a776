/-
Module: PlaybookServer.Document.Path
Purpose: Where a cursor sits in a document: the nodes from the root down to it. A path ends in a node
  without children, or in the empty slot the cursor is in. `Ancestry` walks a path upward; once a step
  fails every later step fails too.
Main exports: Step, Path, pathAt?, Expect, Ancestry, Ancestry.parent, Ancestry.parentOfKey
-/
import PlaybookServer.Document.Node

namespace PlaybookServer

/-- One element of a path. -/
inductive Step where
  | node (id : NodeId)
  /-- The slot the cursor is in holds nothing. -/
  | empty
deriving DecidableEq, Repr, Inhabited

/-- The node of a step. -/
def Step.node? : Step → Option NodeId
  | .node id => some id
  | .empty => none

/-- Nodes from the root of a document down to the cursor. -/
structure Path where
  doc : Document
  steps : List Step
deriving DecidableEq, Inhabited

namespace Path

/-- Number of steps. -/
def length (p : Path) : Nat := p.steps.length

/-- The last node. -/
def lastNode? (p : Path) : Option NodeId := p.steps.getLast?.bind Step.node?

/-- The path up to and with the step at an index. -/
def upTo (p : Path) (index : Nat) : Path := { p with steps := p.steps.take (index + 1) }

/-- The text of the scalar a path ends at. -/
def keyName? (p : Path) : Option String := p.lastNode?.bind p.doc.scalar?

end Path

/-! ### Walking upward -/

/-- Node classes a walk may ask for. -/
inductive Expect where
  | mapping
  | sequence
  | pair
deriving DecidableEq, Repr

/-- A place on a path, or nowhere after a failed step. -/
structure Ancestry where
  path : Path
  index : Option Nat
deriving Inhabited

/-- A walk from the end of a path. -/
def Path.ancestry (p : Path) : Ancestry :=
  { path := p, index := if p.length = 0 then none else some (p.length - 1) }

namespace Ancestry

/-- The node at an index of the path. -/
def nodeAt? (a : Ancestry) (index : Nat) : Option NodeId := a.path.steps[index]?.bind Step.node?

/-- Whether the node at an index is of a class. -/
def isAt (a : Ancestry) (index : Nat) (expect : Expect) : Bool :=
  match a.nodeAt? index with
  | some id =>
    match expect with
    | .mapping => a.path.doc.isMapping id
    | .sequence => a.path.doc.isSequence id
    | .pair => a.path.doc.isPair id
  | none => false

/-- The index one step up. -/
def above : Option Nat → Option Nat
  | some (i + 1) => some i
  | _ => none

/-- Move to the parent, skipping a pair unless a pair is asked for; fails if the parent is not of the
    class asked for. -/
def parent (a : Ancestry) (expect : Option Expect) : Ancestry :=
  let up := (above a.index).bind fun i =>
    if expect ≠ some .pair && a.isAt i .pair then above (some i) else some i
  { a with index := up.filter fun i => match expect with
      | some e => a.isAt i e
      | none => true }

/-- The step reached. -/
def get? (a : Ancestry) : Option Step := a.index.bind fun i => a.path.steps[i]?

/-- The node reached. -/
def node? (a : Ancestry) : Option NodeId := a.get?.bind Step.node?

/-- Move to the mapping that has the current node as a key. -/
def parentOfKey (a : Ancestry) : Ancestry :=
  let moved := a.parent (some .pair)
  let isKey : Bool := match moved.node?, a.get? with
    | some pair, some (.node key) => (a.path.doc.pair? pair).map Prod.fst = some key
    | _, _ => false
  if isKey then moved.parent (some .mapping) else { a with index := none }

/-- The pair directly below the place reached. -/
def pairBelow? (a : Ancestry) : Option (NodeId × Option NodeId) :=
  a.index.bind fun i => (a.nodeAt? (i + 1)).bind a.path.doc.pair?

/-- The key text of the pair directly below. -/
def stringKey? (a : Ancestry) : Option String := a.pairBelow?.bind fun (k, _) => a.path.doc.scalar? k

/-- The value of the pair directly below. -/
def value? (a : Ancestry) : Option (Option NodeId) := a.pairBelow?.map Prod.snd

/-- The path to the place reached. -/
def path? (a : Ancestry) : Option Path := a.index.map a.path.upTo

/-- The path to the key of the pair directly below. -/
def keyPath? (a : Ancestry) : Option Path :=
  a.index.bind fun i => a.pairBelow?.map fun (k, _) =>
    { a.path with steps := a.path.steps.take (i + 2) ++ [.node k] }

end Ancestry

/-! ### Finding the node under a cursor -/

/-- The first pair whose key covers the offset. -/
def keyUnder? (d : Document) (offset : Nat) (inclusive : Bool) (pairs : List NodeId) :
    Option (NodeId × NodeId) :=
  pairs.findSome? fun p => (d.pair? p).bind fun (k, _) =>
    if (d.spanOf k).contains offset inclusive then some (p, k) else none

/-- The first pair whose value covers the offset. -/
def valueUnder? (d : Document) (offset : Nat) (inclusive : Bool) (pairs : List NodeId) :
    Option (NodeId × NodeId) :=
  pairs.findSome? fun p => match d.pair? p with
    | some (_, some v) => if (d.spanOf v).contains offset inclusive then some (p, v) else none
    | _ => none

/-- The first pair with the offset between its key and its value. -/
def gapUnder? (d : Document) (offset : Nat) (inclusive : Bool) (pairs : List NodeId) : Option NodeId :=
  pairs.find? fun p => match d.pair? p with
    | some (k, some v) =>
      let stop := (d.spanOf v).start - (if inclusive then 0 else 1)
      (d.spanOf k).stop ≤ offset && offset < stop
    | _ => false

/-- Steps from below a node down to the offset. Keys come before values, and values before the gaps
    between them. The fuel bounds the depth. -/
def descend (d : Document) (offset : Nat) (inclusive : Bool) : Nat → NodeId → List Step
  | 0, _ => [.empty]
  | fuel + 1, id =>
    match d.kind id with
    | .mapping pairs =>
      match keyUnder? d offset inclusive pairs with
      | some (p, k) => .node p :: .node k :: descend d offset inclusive fuel k
      | none =>
        match valueUnder? d offset inclusive pairs with
        | some (p, v) => .node p :: .node v :: descend d offset inclusive fuel v
        | none =>
          match gapUnder? d offset inclusive pairs with
          | some p => [.node p, .empty]
          | none => [.empty]
    | .sequence items =>
      match items.find? fun x => (d.spanOf x).contains offset inclusive with
      | some x => .node x :: descend d offset inclusive fuel x
      | none => [.empty]
    | _ => if (d.spanOf id).contains offset inclusive then [] else [.empty]

/-- The path to the node at an offset, in the first document whose root covers it. With `inclusive` a
    node covers its end too. -/
def pathAt? (s : Stream) (offset : Nat) (inclusive : Bool) : Option Path :=
  s.documents.findSome? fun d => d.root.bind fun root =>
    if (d.spanOf root).contains offset inclusive then
      some { doc := d, steps := .node root :: descend d offset inclusive (root + 1) root }
    else none

end PlaybookServer

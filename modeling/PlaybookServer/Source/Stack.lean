/-
Module: PlaybookServer.Source.Stack
Purpose: The stack of a parse that keeps several readings of a text at once. Readings share what they
  have in common: the stack is a graph of nodes in one array, and a head points at the top of each
  reading. Operations push onto one head, pop every path below it, merge two heads that have come to
  the same state at the same place, and reorder heads.
Main exports: StackNode, Head, Run, ParseM, push, popCount, merge, renumber
-/
import PlaybookServer.Source.Piece

namespace PlaybookServer.Source

/-- An edge of the stack graph: the node below and what stands between. A missing piece marks the
    beginning of a faulty region. -/
structure Link where
  node : Nat
  piece : Option Piece
deriving Inhabited

/-- A node of the stack graph. -/
structure StackNode where
  state : Nat
  links : Array Link := #[]
  place : Extent := {}
  cost : Nat := 0
  /-- Visible nodes below. -/
  count : Nat := 0
deriving Inhabited

/-- Whether a reading goes on. -/
inductive HeadStatus where
  | halted
  | active
  | paused
deriving DecidableEq, Repr, Inhabited

/-- A state the reading passed through, to which it may fall back. -/
structure Landmark where
  place : Extent
  depth : Nat
  state : Nat
deriving Inhabited

/-- One reading of the text. -/
structure Head where
  node : Nat
  /-- Visible nodes when the last fault was met. -/
  countAtFault : Nat := 0
  layout : Option Layout := none
  status : HeadStatus := .active
  landmarks : Option (Array Landmark) := none
  /-- The token at which a paused reading stopped. -/
  lookahead : Option Piece := none
deriving Inhabited

/-- The last token scanned, which other readings at the same place may use. -/
structure LastToken where
  bytes : Nat
  layout : Option Layout
  piece : Piece
deriving Inhabited

/-- Everything that changes during a parse. -/
structure Run where
  nodes : Array StackNode := #[]
  heads : Array Head := #[]
  finished : Option Piece := none
  accepted : Nat := 0
  lastToken : Option LastToken := none
  /-- Bytes reached by the furthest reading. -/
  reached : Nat := 0
deriving Inhabited

/-- Computations on a parse under way. -/
abbrev ParseM := StateM Run

/-- Limits on the number of readings. -/
structure Limits where
  heads : Nat := 6
  spareHeads : Nat := 4
  links : Nat := 8
  walkers : Nat := 64
  landmarkDepth : Nat := 16

/-- The limits in force. -/
def limits : Limits := {}

namespace Run

/-- A head by number. -/
def head (s : Run) (v : Nat) : Head := s.heads.getD v default

/-- A node by number. -/
def nodeAt (s : Run) (id : Nat) : StackNode := s.nodes.getD id default

/-- The node on top of a head. -/
def top (s : Run) (v : Nat) : StackNode := s.nodeAt (s.head v).node

/-- Add a node. -/
def addNode (s : Run) (n : StackNode) : Nat × Run :=
  (s.nodes.size, { s with nodes := s.nodes.push n })

/-- Change a head. -/
def updateHead (s : Run) (v : Nat) (f : Head → Head) : Run := { s with heads := s.heads.modify v f }

/-- Forget a head. -/
def removeHead (s : Run) (v : Nat) : Run := { s with heads := s.heads.eraseIdxIfInBounds v }

/-- Push a piece onto a head; without a piece, begin a faulty region. -/
def push (s : Run) (v : Nat) (piece : Option Piece) (state : Nat) : Run :=
  let below := (s.head v).node
  let prev := s.nodeAt below
  let n : StackNode := match piece with
    | some p =>
      { state, links := #[⟨below, piece⟩], place := prev.place + p.total, cost := prev.cost + p.cost
        count := prev.count + p.nodeCount }
    | none =>
      { state, links := #[⟨below, none⟩], place := prev.place, cost := prev.cost, count := prev.count }
  let (id, s) := s.addNode n
  s.updateHead v fun h =>
    { h with node := id, countAtFault := if piece.isNone then n.count else h.countAtFault }

/-- A new head on a node, with what head `v` remembers. -/
def addHead (s : Run) (v node : Nat) : Nat × Run :=
  let h := s.head v
  (s.heads.size,
   { s with heads := s.heads.push { node, countAtFault := h.countAtFault, layout := h.layout } })

/-- A copy of a head. -/
def copyHead (s : Run) (v : Nat) : Nat × Run :=
  (s.heads.size, { s with heads := s.heads.push { s.head v with landmarks := none } })

/-- Put head `source` in the place of head `target`. -/
def renumber (s : Run) (source target : Nat) : Run :=
  if source = target then s
  else
    let h := s.head source
    let old := s.head target
    let h := if h.landmarks.isNone then { h with landmarks := old.landmarks } else h
    { s with heads := (s.heads.setIfInBounds target h).eraseIdxIfInBounds source }

/-- What the repairs of a reading cost. -/
def errorCost (s : Run) (v : Nat) : Nat :=
  let h := s.head v
  let n := s.nodeAt h.node
  let opensFault := n.state = faultState
    && (match n.links[0]? with
        | some l => l.piece.isNone
        | none => false)
  n.cost + if h.status = .paused || opensFault then prices.fault else 0

/-- Whether two readings have come to the same state at the same place with the same memory. -/
def canMerge (s : Run) (a b : Nat) : Bool :=
  let x := s.head a
  let y := s.head b
  let m := s.nodeAt x.node
  let n := s.nodeAt y.node
  x.status = .active && y.status = .active && m.state = n.state
  && m.place.bytes = n.place.bytes && m.cost = n.cost && x.layout = y.layout

end Run

/-- Visible nodes a reading has gained since its last fault. The count of the fault never exceeds what
    is on the stack. -/
def sinceFault (v : Nat) : ParseM Nat := do
  let s ← get
  let count := (s.top v).count
  let h := s.head v
  if count < h.countAtFault then
    set (s.updateHead v fun h => { h with countAtFault := count })
    return 0
  else return count - h.countAtFault

/-- Add an edge to a node. Edges that say the same are joined, if need be by joining the nodes below. -/
def addLink : Nat → Nat → Link → ParseM Unit
  | 0, _, _ => pure ()
  | fuel + 1, self, link => do
    if link.node = self then return
    let s ← get
    let me := s.nodeAt self
    let below := s.nodeAt link.node
    let joins := fun (e : Link) =>
      Piece.interchangeable e.piece link.piece
      && (e.node = link.node
        || (let n := s.nodeAt e.node
            n.state = below.state && n.place.bytes = below.place.bytes && n.cost = below.cost))
    match me.links.find? joins with
    | some e =>
      if e.node = link.node then return
      for l in below.links do
        addLink fuel e.node l
    | none =>
      if me.links.size = limits.links then return
      let count := below.count + (link.piece.map Piece.nodeCount).getD 0
      let me := { me with links := me.links.push link, count := max me.count count }
      set { s with nodes := s.nodes.setIfInBounds self me }

/-- Merge head `b` into head `a` if they agree. -/
def merge (a b : Nat) : ParseM Bool := do
  let s ← get
  if !s.canMerge a b then return false
  let target := (s.head a).node
  for l in (s.top b).links do
    addLink (s.nodes.size + 1) target l
  modify fun s =>
    let n := s.nodeAt target
    let s := if n.state = faultState then s.updateHead a fun h => { h with countAtFault := n.count }
      else s
    s.removeHead b
  return true

/-! ### Walking down the stack -/

/-- A path under way: the node reached, the pieces passed (deepest first), and how many of them stand
    in the tree. -/
structure Walker where
  node : Nat
  pieces : List Piece := []
  count : Nat := 0
deriving Inhabited

/-- Pieces popped off one path and the head that now stands where the path ended. -/
structure Slice where
  pieces : List Piece
  head : Nat
deriving Inhabited

/-- Verdict of a visitor: end a slice here, and go no further. -/
structure Verdict where
  pop : Bool
  stop : Bool

/-- State of one round of a walk. -/
structure WalkRound (σ : Type) where
  slices : Array Slice
  visitor : σ
  total : Nat
  /-- Walkers for the next round, latest first. -/
  kept : List Walker := []
  /-- Walkers that split off, latest first. -/
  added : List Walker := []

/-- Record a slice that ends at a node: slices that end at one node share a head and stand together. -/
def addSlice (v : Nat) (slices : Array Slice) (w : Walker) : ParseM (Array Slice) := do
  let s ← get
  let same := (List.range slices.size).reverse.find? fun i =>
    (s.head (slices.getD i default).head).node = w.node
  match same with
  | some i =>
    return slices.insertIdxIfInBounds (i + 1) { pieces := w.pieces, head := (slices.getD i default).head }
  | none =>
    let (h, s) := s.addHead v w.node
    set s
    return slices.push { pieces := w.pieces, head := h }

/-- Move a walker along a link. -/
def Walker.follow (w : Walker) (l : Link) : Walker :=
  match l.piece with
  | some p =>
    { node := l.node, pieces := p :: w.pieces, count := if p.info.aside then w.count else w.count + 1 }
  | none => { node := l.node, pieces := w.pieces, count := w.count + 1 }

/-- One step of one walker. -/
def walkStep {σ : Type} (v : Nat) (visit : σ → Walker → StackNode → Verdict × σ)
    (r : WalkRound σ) (w : Walker) : ParseM (WalkRound σ) := do
  let s ← get
  let n := s.nodeAt w.node
  let (verdict, visitor) := visit r.visitor w n
  let slices ← if verdict.pop then addSlice v r.slices w else pure r.slices
  let r := { r with slices, visitor }
  match n.links[0]? with
  | none => return { r with total := r.total - 1 }
  | some first =>
    if verdict.stop then return { r with total := r.total - 1 }
    else
      let split := (n.links.toList.drop 1).take (limits.walkers - r.total)
      return { r with
        total := r.total + split.length
        kept := w.follow first :: r.kept
        added := (split.map w.follow).reverse ++ r.added }

/-- Walk every path down from a head, round by round, until no walker is left. -/
def walkRounds {σ : Type} (v : Nat) (visit : σ → Walker → StackNode → Verdict × σ) :
    Nat → List Walker → Array Slice → σ → ParseM (Array Slice × σ)
  | 0, _, slices, visitor => pure (slices, visitor)
  | _, [], slices, visitor => pure (slices, visitor)
  | fuel + 1, walkers, slices, visitor => do
    let r ← walkers.foldlM (walkStep v visit) { slices, visitor, total := walkers.length }
    walkRounds v visit fuel (r.kept.reverse ++ r.added.reverse) r.slices r.visitor

/-- Walk every path down from a head. -/
def walk {σ : Type} (v : Nat) (init : σ) (visit : σ → Walker → StackNode → Verdict × σ) :
    ParseM (Array Slice × σ) := do
  let s ← get
  walkRounds v visit (s.nodes.size + 2) [{ node := (s.head v).node }] #[] init

/-- Pop `count` pieces that stand in the tree off every path. -/
def popCount (v count : Nat) : ParseM (Array Slice) := do
  let (slices, _) ← walk v () fun _ w _ =>
    let hit := w.count = count
    ({ pop := hit, stop := hit }, ())
  return slices

/-- Pop everything. -/
def popAll (v : Nat) : ParseM (Array Slice) := do
  let (slices, _) ← walk v () fun _ _ n => ({ pop := n.links.isEmpty, stop := false }, ())
  return slices

/-- Pop a finished faulty region off the top, if one is there. -/
def popFault (v : Nat) : ParseM (List Piece) := do
  let s ← get
  let isFault := fun (p : Option Piece) => match p with
    | some p => p.symbol = .fault
    | none => false
  if !((s.top v).links.any fun l => isFault l.piece) then return []
  let (slices, _) ← walk v false fun found w _ =>
    match w.pieces.getLast? with
    | none => ({ pop := false, stop := false }, found)
    | some p =>
      if !found && p.symbol = .fault then ({ pop := true, stop := true }, true)
      else ({ pop := false, stop := true }, found)
  match slices[0]? with
  | some slice =>
    modify (·.renumber slice.head v)
    return slice.pieces
  | none => return []

end PlaybookServer.Source

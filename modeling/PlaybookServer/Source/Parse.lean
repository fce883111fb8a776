/-
Module: PlaybookServer.Source.Parse
Purpose: Parsing a text with repair. All readings advance in step; when one meets a token it cannot
  place it pauses, and if no cheaper reading is left it is resumed: a missing token is tried first,
  otherwise the reading falls back to an earlier state that accepts the token, or skips the token.
  Readings that cost clearly more than another one at the same place are dropped. The result is the
  cheapest tree for the whole text.
Main exports: parseTree
-/
import PlaybookServer.Source.Concrete
import PlaybookServer.Source.Scanner
import PlaybookServer.Source.Stack

namespace PlaybookServer.Source

/-- What stays fixed during a parse. -/
structure Setting where
  text : SourceText
  automaton : Automaton

/-- The length of a stretch of text between two character positions. -/
def SourceText.extent (t : SourceText) (i j : Nat) : Extent :=
  ⟨t.offset j - t.offset i, t.row j - t.row i, j - i⟩

/-- The state after a symbol; 0 when the symbol has no place. -/
def Automaton.after (a : Automaton) (state symbol : Nat) : Nat :=
  if symbol < tokenCount then
    match (a.on state symbol).getLast? with
    | some (.shift target _) => target
    | some .setAside => state
    | _ => 0
  else a.goto state symbol

/-- The token number of a lookahead. -/
def Piece.tokenId (p : Piece) : Nat :=
  match p.symbol with
  | .grammar n => n
  | _ => endId

/-! ### Comparing readings -/

/-- How a reading stands. -/
structure Standing where
  cost : Nat
  sinceFault : Nat
  inFault : Bool

/-- Outcome of comparing two readings. -/
inductive Preference where
  | takeLeft
  | preferLeft
  | none
  | preferRight
  | takeRight
deriving DecidableEq, Repr

/-- Cost difference, weighted by progress, beyond which the dearer reading is dropped. -/
def dropThreshold : Nat := 1800

/-- Compare two readings: one in a fault yields to a cheaper one that is not; otherwise the cheaper one
    is preferred, and taken for good once the difference is large. -/
def Standing.compare (a b : Standing) : Preference :=
  if !a.inFault && b.inFault then (if a.cost < b.cost then .takeLeft else .preferLeft)
  else if a.inFault && !b.inFault then (if b.cost < a.cost then .takeRight else .preferRight)
  else if a.cost < b.cost then
    if dropThreshold < (b.cost - a.cost) * (1 + a.sinceFault) then .takeLeft else .preferLeft
  else if b.cost < a.cost then
    if dropThreshold < (a.cost - b.cost) * (1 + b.sinceFault) then .takeRight else .preferRight
  else .none

/-- How reading `v` stands. -/
def standing (v : Nat) : ParseM Standing := do
  let s ← get
  let paused := (s.head v).status = .paused
  let cost := s.errorCost v + if paused then prices.skippedNode else 0
  let since ← sinceFault v
  return { cost, sinceFault := since, inFault := paused || (s.top v).state = faultState }

/-- Whether another reading is better than `v` would be at the given cost. -/
def betterExists (v : Nat) (cost : Nat) : ParseM Bool := do
  let s ← get
  if s.finished.any fun f => f.cost ≤ cost then return true
  let here := (s.top v).place.bytes
  let since ← sinceFault v
  let mine : Standing := { cost, sinceFault := since, inFault := false }
  for i in List.range s.heads.size do
    if i = v || (s.head i).status ≠ .active || (s.top i).place.bytes < here then continue
    match mine.compare (← standing i) with
    | .takeRight => return true
    | .preferRight => if (← get).canMerge i v then return true
    | _ => pure ()
  return false

/-! ### Scanning -/

/-- Whether anything non-empty was read since the last fault. -/
def hasAdvanced (s : Run) (countAtFault : Nat) : Nat → StackNode → Bool
  | 0, _ => false
  | fuel + 1, n =>
    match n.links[0]? with
    | some (Link.mk below (some p)) =>
      if 0 < p.total.bytes then true
      else if countAtFault < n.count && p.cost = 0 then hasAdvanced s countAtFault fuel (s.nodeAt below)
      else false
    | _ => false

/-- Scan the next token for a reading in a state. Where nothing can be scanned, or only an empty token
    that would lead nowhere, the text counts as ended. -/
def nextToken (g : Setting) (s : Run) (v state : Nat) : Piece :=
  let h := s.head v
  let n := s.nodeAt h.node
  let start := n.place.chars
  let ended := Piece.endMark state (g.text.extent start (g.text.skipOrderMark start))
  match scan g.text start (h.layout.getD {}) (g.automaton.validIn state) with
  | none => ended
  | some t =>
    let changed := some t.layout ≠ h.layout
    let advanced := n.cost = 0 || hasAdvanced s h.countAtFault (s.nodes.size + 1) n
    let idle := t.stop ≤ start && !changed
      && (state = faultState || !advanced || g.automaton.after state t.id = state)
    if idle then ended
    else
      Piece.token t.id (g.text.extent start t.start) (g.text.extent t.start t.stop) t.layout changed
        state

/-! ### Reducing and accepting -/

/-- Group consecutive slices of one head. -/
def groupSlices : List Slice → List (Nat × List (List Piece))
  | [] => []
  | s :: rest =>
    match groupSlices rest with
    | (h, group) :: more =>
      if h = s.head then (h, s.pieces :: group) :: more else (s.head, [s.pieces]) :: (h, group) :: more
    | [] => [(s.head, [s.pieces])]

/-- The best piece a reduction makes of one group, and what stands beside the tree after it. -/
def bestPiece (r : Reduction) : List (List Piece) → Option (Piece × List Piece)
  | [] => none
  | first :: others =>
    let make := fun pieces =>
      let (parts, aside) := Piece.splitAside pieces
      (Piece.node (.grammar r.symbol) r.shape parts, aside)
    some (others.foldl (fun best pieces =>
      let candidate := make pieces
      if Piece.preferred best.1 candidate.1 then candidate else best) (make first))

/-- The first head below `limit`, other than `v`, that head `source` merges into. -/
def mergeBelow (v source : Nat) : List Nat → ParseM Bool
  | [] => pure false
  | j :: rest => do
    if j = v then mergeBelow v source rest
    else if ← merge j source then return true
    else mergeBelow v source rest

/-- Reduce on every path below a head. Returns the first head this adds. -/
def reduce (g : Setting) (v : Nat) (r : Reduction) : ParseM (Option Nat) := do
  let initial := (← get).heads.size
  let slices ← popCount v r.count
  let halted := ((← get).heads.filter fun h => h.status = .halted).size
  let _ ← (groupSlices slices.toList).foldlM (fun removed (h, group) => do
    let sv := h - removed
    if limits.heads + limits.spareHeads + halted < sv then
      modify (·.removeHead sv)
      return removed + 1
    match bestPiece r group with
    | none => return removed
    | some (piece, aside) =>
      let next := g.automaton.after ((← get).top sv).state r.symbol
      modify fun s => aside.foldl (fun s p => s.push sv (some p) next) (s.push sv (some piece) next)
      if ← mergeBelow v sv (List.range sv) then return removed + 1
      return removed) 0
  let s ← get
  return if initial < s.heads.size then some initial else none

/-- The root of a fully popped reading: the last piece in the tree takes in everything beside it. -/
def rootOf (pieces : List Piece) : Option Piece :=
  let aside := (pieces.reverse.takeWhile fun p => p.info.aside).reverse
  match (pieces.reverse.dropWhile fun p => p.info.aside) with
  | [] => none
  | last :: before =>
    some (Piece.node last.symbol last.info.shape (before.reverse ++ last.parts ++ aside))

/-- Finish a reading. -/
def accept (v : Nat) (lookahead : Piece) : ParseM Unit := do
  modify (·.push v (some lookahead) startState)
  let slices ← popAll v
  for slice in slices do
    modify fun s =>
      let finished := match s.finished, rootOf slice.pieces with
        | none, root => root
        | some old, none => some old
        | some old, some root => if Piece.preferred old root then some root else some old
      { s with finished, accepted := s.accepted + 1 }
  modify fun s =>
    let s := match slices[0]? with
      | some slice => s.removeHead slice.head
      | none => s
    s.updateHead v fun h => { h with status := .halted }

/-! ### Repair -/

/-- The actions a state has on any of some tokens: whether one goes on, and the distinct reductions. -/
def possibleActions (g : Setting) (state : Nat) (tokens : List Nat) : Bool × List Reduction :=
  let step := fun (acc : Bool × List Reduction) (a : Action) =>
    match a with
    | .shift _ withinRun => (acc.1 || !withinRun, acc.2)
    | .recover => (true, acc.2)
    | .reduce r =>
      if 0 < r.count && !(acc.2.any fun q => q.symbol = r.symbol && q.count = r.count) then
        (acc.1, r :: acc.2)
      else acc
    | _ => acc
  let (goesOn, reductions) := tokens.foldl (fun acc t => (g.automaton.on state t).foldl step acc)
    (false, [])
  (goesOn, reductions.reverse)

/-- The first head from `first` on that head `v` merges into. -/
def mergeInto (v : Nat) : List Nat → ParseM Bool
  | [] => pure false
  | j :: rest => do
    if ← merge j v then return true
    mergeInto v rest

/-- Apply every reduction that some token allows, to every head this adds. `token` restricts the
    tokens to one; then heads on which it cannot be taken are dropped. Returns whether some head can
    go on. -/
def reduceAll (g : Setting) (origin initial : Nat) (token : Option Nat) :
    Nat → Nat → Nat → Bool → ParseM Bool
  | 0, _, _, can => pure can
  | fuel + 1, round, v, can => do
    let count := (← get).heads.size
    if count ≤ v then return can
    if ← mergeInto v ((List.range v).drop initial) then
      reduceAll g origin initial token fuel (round + 1) v can
    else
      let tokens := match token with
        | some t => [t]
        | none => (List.range tokenCount).drop 1
      let (goesOn, reductions) := possibleActions g ((← get).top v).state tokens
      let last ← reductions.foldlM (fun _ r => reduce g v r) none
      let onward := if v = origin then count else v + 1
      if goesOn then reduceAll g origin initial token fuel (round + 1) onward true
      else
        match last with
        | some added =>
          if round < limits.heads then
            modify (·.renumber added v)
            reduceAll g origin initial token fuel (round + 1) v can
          else
            if token.isSome then modify (·.removeHead v)
            reduceAll g origin initial token fuel (round + 1) onward can
        | none =>
          if token.isSome then modify (·.removeHead v)
          reduceAll g origin initial token fuel (round + 1) onward can

/-- Apply every possible reduction to head `v` and the heads this adds. -/
def potentialReductions (g : Setting) (v : Nat) (token : Option Nat) : ParseM Bool := do
  reduceAll g v (← get).heads.size token 10000 0 v false

/-- Try to repair head `u` by one missing token after which the lookahead fits. -/
def tryMissing (g : Setting) (u lookahead : Nat) : List Nat → ParseM Bool
  | [] => pure false
  | m :: rest => do
    let state := ((← get).top u).state
    let target := g.automaton.after state m
    let reduces := match g.automaton.on target lookahead with
      | .reduce _ :: _ => true
      | _ => false
    if target ≠ 0 && target ≠ state && reduces then
      let (copy, s) := (← get).copyHead u
      set (s.push copy (some (Piece.absent m)) target)
      if ← potentialReductions g copy (if lookahead = endId then none else some lookahead) then
        return true
    tryMissing g u lookahead rest

/-- States below a head, each with its depth, nearest first. -/
def findLandmarks (v : Nat) : ParseM (Array Landmark) := do
  let (_, marks) ← walk v #[] fun (marks : Array Landmark) w n =>
    if limits.landmarkDepth < w.count then ({ pop := false, stop := true }, marks)
    else
      let known := (marks.toList.reverse.takeWhile fun m => w.count ≤ m.depth).any fun m =>
        m.depth = w.count && m.state = n.state
      let marks := if known then marks
        else marks.push { place := n.place, depth := w.count, state := n.state }
      ({ pop := false, stop := false }, marks)
  return marks

/-- Fall back to an earlier state: everything above it becomes a faulty region. -/
def recoverTo (v depth goal : Nat) : ParseM Bool := do
  let slices ← popCount v depth
  let last ← slices.foldlM (fun (previous : Option Nat) slice => do
    if previous = some slice.head then return previous
    if ((← get).top slice.head).state ≠ goal then
      modify (·.updateHead slice.head fun h => { h with status := .halted })
      return previous
    let fault ← popFault slice.head
    let pieces := (match fault with
      | f :: _ => f.parts
      | [] => []) ++ slice.pieces
    let (parts, aside) := Piece.splitAside pieces
    if !parts.isEmpty then
      let region := (Piece.node .fault {} parts).setAside true
      modify (·.push slice.head (some region) goal)
    for p in aside do
      modify (·.push slice.head (some p) goal)
    return some slice.head) none
  return last.isSome

/-- Try landmarks in turn; stop at the first that works or once a better reading exists. -/
def tryLandmarks (g : Setting) (v lookahead since cost heads : Nat) (here : Extent) :
    List Landmark → ParseM Bool
  | [] => pure false
  | m :: rest => do
    let s ← get
    let depth := if 0 < since then m.depth + 1 else m.depth
    let taken := (List.range heads).any fun j =>
      let n := s.top j
      n.state = m.state && n.place.bytes = here.bytes
    if m.state = faultState || m.place.bytes = here.bytes || taken then
      tryLandmarks g v lookahead since cost heads here rest
    else
      let price := cost + m.depth * prices.skippedNode + (here.bytes - m.place.bytes)
        + (here.rows - m.place.rows) * prices.skippedRow
      if ← betterExists v price then return false
      if !(g.automaton.on m.state lookahead).isEmpty then
        if ← recoverTo v depth m.state then return true
      tryLandmarks g v lookahead since cost heads here rest

/-- Take a lookahead into the faulty region of a reading. -/
def skipToken (g : Setting) (v : Nat) (lookahead : Piece) (since : Nat) : ParseM Unit := do
  let isAside := match (g.automaton.on startState lookahead.tokenId).getLast? with
    | some .setAside => true
    | _ => false
  let token := if isAside then lookahead.setAside true else lookahead
  let skipped := Piece.node .skipped {} [token]
  let skipped ← if 0 < since then do
      let slices ← popCount v 1
      match slices[0]? with
      | some slice =>
        modify fun s =>
          let s := if 1 < slices.size then { s with heads := s.heads.extract 0 (slice.head + 1) } else s
          s.renumber slice.head v
        pure (Piece.node .skipped {} (slice.pieces ++ [skipped]))
      | none => pure skipped
    else pure skipped
  modify fun s =>
    let s := s.push v (some skipped) faultState
    if lookahead.info.layout.isSome then
      s.updateHead v fun h => { h with layout := lookahead.info.layout }
    else s

/-- Go on after a fault: fall back to a landmark, end the text, or skip the lookahead. -/
def recover (g : Setting) (v : Nat) (lookahead : Piece) : ParseM Unit := do
  let s ← get
  let heads := s.heads.size
  let here := (s.top v).place
  let landmarks := (s.head v).landmarks
  let since ← sinceFault v
  let cost := (← get).errorCost v
  let fellBack ← match landmarks with
    | some marks => tryLandmarks g v lookahead.tokenId since cost heads here marks.toList
    | none => pure false
  modify fun s =>
    { s with heads := s.heads.extract 0 heads
        ++ (s.heads.extract heads s.heads.size).filter fun h => h.status = .active }
  let halt := modify fun (s : Run) => s.updateHead v fun h => { h with status := .halted }
  if fellBack && (limits.heads < (← get).heads.size
      || (lookahead.info.layout.isSome && lookahead.info.changed)) then halt
  else if lookahead.tokenId = endId then
    modify (·.push v (some (Piece.node .fault {} [])) startState)
    accept v lookahead
  else
    let price := cost + prices.skippedNode + lookahead.total.bytes
      + lookahead.total.rows * prices.skippedRow
    if ← betterExists v price then halt
    else skipToken g v lookahead since

/-- Enter a faulty region on every head of a paused reading, heads from `first` on included. -/
def enterFault (g : Setting) (v first last lookahead : Nat) : Nat → Nat → Bool → ParseM Unit
  | 0, _, _ => pure ()
  | fuel + 1, u, repaired => do
    if last ≤ u then return
    let repaired ←
      if repaired then pure true
      else tryMissing g u lookahead ((List.range tokenCount).drop 1)
    modify (·.push u none faultState)
    enterFault g v first last lookahead fuel (if u = v then first else u + 1) repaired

/-- Resume a paused reading: a missing token may repair it; in any case it also goes on in a faulty
    region. -/
def resume (g : Setting) (v : Nat) (lookahead : Piece) : ParseM Unit := do
  let first := (← get).heads.size
  let _ ← potentialReductions g v none
  let last := (← get).heads.size
  enterFault g v first last lookahead.tokenId (last + 1) v false
  for _ in List.range (last - first) do
    let _ ← merge v first
  let marks ← findLandmarks v
  modify (·.updateHead v fun h => { h with landmarks := some marks })
  recover g v lookahead

/-! ### Advancing -/

/-- Where the actions on a lookahead left a reading. -/
inductive Turn where
  | ended
  /-- The reading goes on as another head, which a reduction added. -/
  | reduced (head : Nat)
  /-- Every reduction came to a reading that is already there. -/
  | absorbed
  /-- There is nothing to do on the lookahead. -/
  | stuck

/-- What a reduction that may have added a head makes of a turn. -/
def Turn.afterReducing (turn : Turn) : Option Nat → Turn
  | some head => .reduced head
  | none =>
    match turn with
    | .stuck => .absorbed
    | other => other

/-- Apply the actions of a state on a lookahead in turn. -/
def applyActions (g : Setting) (v state : Nat) (lookahead : Piece) :
    List Action → Turn → ParseM Turn
  | [], turn => pure turn
  | a :: rest, turn => do
    match a with
    | .shift target withinRun =>
      if withinRun then applyActions g v state lookahead rest turn
      else
        take target false
        return .ended
    | .setAside =>
      take state true
      return .ended
    | .reduce r =>
      let added ← reduce g v r
      applyActions g v state lookahead rest (turn.afterReducing added)
    | .accept =>
      accept v lookahead
      return .ended
    | .recover =>
      recover g v lookahead
      return .ended
where
  /-- Push the lookahead. -/
  take (target : Nat) (aside : Bool) : ParseM Unit :=
    modify fun s =>
      let s := s.push v (some (lookahead.setAside aside)) target
      if lookahead.info.layout.isSome then
        s.updateHead v fun h => { h with layout := lookahead.info.layout }
      else s

/-- Reduce and shift until the lookahead is taken or the reading stops. -/
def settleToken (g : Setting) (v : Nat) (lookahead : Piece) : Nat → ParseM Unit
  | 0 => pure ()
  | fuel + 1 => do
    let state := ((← get).top v).state
    match ← applyActions g v state lookahead (g.automaton.on state lookahead.tokenId) .stuck with
    | .ended => return
    | .reduced added =>
      modify (·.renumber added v)
      settleToken g v lookahead fuel
    | .absorbed => modify fun s => s.updateHead v fun h => { h with status := .halted }
    | .stuck =>
      if state = faultState then recover g v lookahead
      else
        modify fun s =>
          let count := (s.top v).count
          s.updateHead v fun h =>
            { h with status := .paused, lookahead := some lookahead, countAtFault := count }

/-- Advance one reading by one token. -/
def advance (g : Setting) (v : Nat) : ParseM Unit := do
  let s ← get
  let h := s.head v
  let n := s.nodeAt h.node
  let reusable := fun (t : LastToken) =>
    t.bytes = n.place.bytes && t.layout = h.layout
    && !(g.automaton.on n.state t.piece.tokenId).isEmpty
    && (t.piece.info.scannedIn = n.state
      || g.automaton.validIn t.piece.info.scannedIn >>> 1 = g.automaton.validIn n.state >>> 1)
  let lookahead ← match s.lastToken.filter reusable with
    | some t => pure t.piece
    | none =>
      let t := nextToken g s v n.state
      set { s with lastToken := some { bytes := n.place.bytes, layout := h.layout, piece := t } }
      pure t
  settleToken g v lookahead 100000

/-- Compare reading `i` with the readings before it. Returns the number under which reading `i` now
    stands, or stood before it was dropped. -/
def condenseOne (mine : Standing) : Nat → Nat → Nat → ParseM Nat
  | 0, i, _ => pure i
  | fuel + 1, i, j => do
    if i ≤ j then return i
    match (← standing j).compare mine with
    | .takeLeft =>
      modify (·.removeHead i)
      return i - 1
    | .preferLeft | .none =>
      if ← merge j i then return i - 1
      condenseOne mine fuel i (j + 1)
    | .preferRight =>
      if ← merge j i then return i - 1
      modify fun s => { s with heads := s.heads.swapIfInBounds i j }
      condenseOne mine fuel i (j + 1)
    | .takeRight =>
      modify (·.removeHead j)
      condenseOne mine fuel (i - 1) j

/-- Compare all readings pairwise. Returns the least cost of a reading outside a fault. -/
def condenseAll : Nat → Nat → Option Nat → ParseM (Option Nat)
  | 0, _, least => pure least
  | fuel + 1, i, least => do
    let s ← get
    if s.heads.size ≤ i then return least
    if (s.head i).status = .halted then
      modify (·.removeHead i)
      condenseAll fuel i least
    else
      let mine ← standing i
      let least := if mine.inFault then least
        else some (match least with
          | some l => min l mine.cost
          | none => mine.cost)
      let i ← condenseOne mine 1000 i 0
      condenseAll fuel (i + 1) least

/-- Resume the first paused reading if nothing better is left, and drop the other paused ones. -/
def resumePaused (g : Setting) : Nat → Nat → Nat → Bool → Option Nat → ParseM (Option Nat)
  | 0, _, _, _, least => pure least
  | fuel + 1, i, count, going, least => do
    if count ≤ i then return least
    let s ← get
    let h := s.head i
    if h.status = .paused then
      if !going && s.accepted < limits.heads then
        let cost := s.errorCost i
        set (s.updateHead i fun h => { h with status := .active, lookahead := none })
        resume g i (h.lookahead.getD (Piece.endMark 0))
        resumePaused g fuel (i + 1) count true (some cost)
      else
        modify (·.removeHead i)
        resumePaused g fuel i (count - 1) going least
    else resumePaused g fuel (i + 1) count true least

/-- Drop readings that others beat, and resume a paused one if need be. Returns the least cost of a
    reading that goes on. -/
def condense (g : Setting) : ParseM (Option Nat) := do
  let least ← condenseAll 100000 0 none
  modify fun s => { s with heads := s.heads.extract 0 limits.heads }
  resumePaused g 1000 0 (← get).heads.size false least

/-- Advance one reading until it passes the furthest place reached. -/
def advanceWhileBehind (g : Setting) (v : Nat) : Nat → ParseM Unit
  | 0 => pure ()
  | fuel + 1 => do
    if ((← get).head v).status ≠ .active then return
    advance g v
    let s ← get
    let place := (s.top v).place.bytes
    if s.reached < place || (0 < v && place = s.reached) then set { s with reached := place }
    else advanceWhileBehind g v fuel

/-- Advance every reading, those added on the way included. Returns how many there were. -/
def advanceAll (g : Setting) (fuel : Nat) : Nat → Nat → ParseM Nat
  | 0, _ => do return (← get).heads.size
  | rounds + 1, v => do
    let count := (← get).heads.size
    if count ≤ v then return count
    advanceWhileBehind g v fuel
    advanceAll g fuel rounds (v + 1)

/-- Rounds of advancing and condensing until no reading is left or a finished tree beats them all. -/
def rounds (g : Setting) (inner : Nat) : Nat → ParseM Unit
  | 0 => pure ()
  | fuel + 1 => do
    let count ← advanceAll g inner 1000 0
    let least ← condense g
    let settled := match (← get).finished, least with
      | some _, none => true
      | some f, some l => f.cost < l
      | none, _ => false
    if settled || count = 0 then return
    rounds g inner fuel

/-- The concrete tree of a text. Steps are bounded by a generous multiple of the text's length. -/
def parseTree (text : SourceText) : Concrete :=
  let g : Setting := { text, automaton := Automaton.yaml }
  let fuel := 1000 * (text.chars.size + 100)
  let start : Run := { nodes := #[{ state := startState }], heads := #[{ node := 0 }] }
  let (_, run) := (rounds g fuel fuel).run start
  match run.finished with
  | some piece => piece.concrete text
  | none => .node { kind := .stream, start := 0, stop := 0 } []

end PlaybookServer.Source

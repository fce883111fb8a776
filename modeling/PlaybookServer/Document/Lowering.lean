/-
Module: PlaybookServer.Document.Lowering
Purpose: From the concrete tree to documents. Children are lowered before their parent, so the nodes of
  a document stand in post-order. Regions that could not be placed are looked through for content.
  The grammar accepts repeated keys, dangling references and unknown tags; those are found here.
Main exports: Lowering, lowerNode, lowerDocument, collectFaults, Stream.ofText
-/
import PlaybookServer.Document.Node
import PlaybookServer.Document.Scalar
import PlaybookServer.Source.Parse

namespace PlaybookServer

open Text Source

/-- Tags that need no warning. -/
def knownTags : List String :=
  ["!!str", "!!int", "!!float", "!!bool", "!!null", "!!map", "!!seq", "!!set", "!!omap", "!!binary",
   "!!timestamp", "!vault", "!unsafe"]

/-- The bytes of a node. -/
def Source.ConcreteInfo.span (i : ConcreteInfo) : Span := ⟨i.start, i.stop⟩

/-- The bytes of a node without trailing whitespace. -/
def Source.ConcreteInfo.trimmedSpan (i : ConcreteInfo) (text : List Char) : Span :=
  ⟨i.start, i.start + byteLength (trimEnd (i.span.slice text))⟩

/-! ### Faults of the concrete tree -/

/-- What to say about a token the text lacks. -/
def missingMessage (label : String) : String :=
  if label = "]" then "Expected flow sequence to end with ]"
  else if label = "\x7d" then "Expected flow map to end with \x7d"
  else if label = "\"" || label = "'" then "Missing closing " ++ label ++ "quote"
  else "Missing " ++ label

/-- Open constructs of a region: the quote it is in, and unmatched brackets and braces. -/
structure OpenMarks where
  quote : Option Char := none
  brackets : Int := 0
  braces : Int := 0

/-- Read one more character of a region. -/
def OpenMarks.step (m : OpenMarks) (c : Char) : OpenMarks :=
  match m.quote with
  | some q => if c = q then { m with quote := none } else m
  | none =>
    if c = '"' || c = '\'' then { m with quote := some c }
    else if c = '[' then { m with brackets := m.brackets + 1 }
    else if c = ']' then { m with brackets := m.brackets - 1 }
    else if c.toNat = 0x7b then { m with braces := m.braces + 1 }
    else if c.toNat = 0x7d then { m with braces := m.braces - 1 }
    else m

/-- Describe a region by the construct it leaves open. -/
def regionMessage (region : List Char) : String :=
  let marks := region.foldl OpenMarks.step {}
  match marks.quote with
  | some q => "Missing closing " ++ String.singleton q ++ "quote"
  | none =>
    if 0 < marks.brackets then missingMessage "]"
    else if 0 < marks.braces then missingMessage "\x7d"
    else if region.elem '\t' then "Tabs are not allowed as indentation"
    else
      let line := trim ((lines region).headD [])
      if endsWith line [':'] || contains line [':', ' '] then "Bad indentation of a mapping entry"
      else "Implicit map keys need to be followed by map values"

mutual

/-- Faults at or below a node: the outermost unplaced regions and missing tokens, in document order. -/
def collectFaults (text : List Char) : Concrete → List Fault
  | .node i cs =>
    if i.kind = .error then
      let span := i.trimmedSpan text
      [⟨.syntactic, regionMessage (span.slice text), span⟩]
    else if i.missing then [⟨.syntactic, missingMessage i.kind.label, Span.empty i.start⟩]
    else if i.faulty then collectFaultsOf text cs
    else []

/-- Faults of several nodes in order. -/
def collectFaultsOf (text : List Char) : List Concrete → List Fault
  | [] => []
  | c :: cs => collectFaults text c ++ collectFaultsOf text cs

end

/-! ### Nodes -/

/-- What has been lowered so far. -/
structure Lowering where
  nodes : Array Node := #[]
  anchors : List String := []
  faults : List Fault := []
deriving Inhabited

/-- Computations that lower. -/
abbrev LowerM := StateM Lowering

/-- Add a node. -/
def addNode (kind : NodeKind) (span : Span) : LowerM NodeId :=
  modifyGet fun s => (s.nodes.size, { s with nodes := s.nodes.push { kind, span } })

/-- Note a fault. -/
def addFault (kind : FaultKind) (message : String) (span : Span) : LowerM Unit :=
  modify fun s => { s with faults := s.faults ++ [{ kind, message, span }] }

/-- The span of a node already lowered. -/
def spanOfNode (id : NodeId) : LowerM Span := do
  return ((← get).nodes.getD id default).span

/-- The key text of a lowered pair, with the key's span. -/
def keyOfPair? (nodes : Array Node) (id : NodeId) : Option (String × Span) :=
  match (nodes.getD id default).kind with
  | .pair k _ =>
    let key := nodes.getD k default
    match key.kind with
    | .scalar v _ => some (v, key.span)
    | _ => none
  | _ => none

/-- Report a pair whose key text an earlier pair of the mapping has. Returns the key texts seen. -/
def checkKey (seen : List String) (id : NodeId) : LowerM (List String) := do
  match keyOfPair? (← get).nodes id with
  | some (key, span) =>
    if seen.elem key then
      addFault .semantic "Map keys must be unique" span
      return seen
    else return key :: seen
  | none => return seen

/-- Named and not a comment. -/
def Source.Kind.counts (k : Kind) : Bool := k.named && k ≠ .comment

/-- Kinds that are content of a document, an item or an unplaced region. -/
def Source.Kind.isContent : Kind → Bool
  | .blockNode | .flowNode | .blockMapping | .blockSequence | .flowMapping | .flowSequence
  | .plainScalar | .doubleQuoteScalar | .singleQuoteScalar | .blockScalar | .reference => true
  | _ => false

/-- The written form of a node as a string. -/
def sourceOf (text : List Char) (i : ConcreteInfo) : String := String.ofList (i.span.slice text)

/-- Note the anchors and check the tags among the children of a node. -/
def lowerProperties (text : List Char) : List Concrete → LowerM Unit
  | [] => pure ()
  | c :: cs => do
    if c.kind = .anchor then
      let name := String.ofList ((c.info.span.slice text).dropWhile (· = '&'))
      modify fun s => { s with anchors := name :: s.anchors }
    else if c.kind = .tag then
      let tag := sourceOf text c.info
      if !knownTags.elem tag && !hasStem tag "!<" && tag ≠ "!" then
        addFault .warning ("The tag " ++ tag ++ " is unavailable, falling back to a string")
          c.info.span
    lowerProperties text cs

/-- Lower a reference: an anchor of its name must have come before. -/
def lowerReference (text : List Char) (i : ConcreteInfo) : LowerM NodeId := do
  let name := String.ofList ((i.span.slice text).dropWhile (· = '*'))
  if !(← get).anchors.elem name then
    addFault .reference ("Aliased anchor not found: " ++ name) i.span
  addNode (.reference name) i.span

/-- Lower a quoted scalar. -/
def lowerQuoted (text : List Char) (double : Bool) (i : ConcreteInfo) : LowerM NodeId :=
  let quote := if double then '"' else '\''
  let raw := i.span.slice text
  let raw := (stripStem? [quote] raw).getD raw
  let raw := (stripTail? [quote] raw).getD raw
  addNode (.scalar (String.ofList (Scalar.quotedValue double raw))
    (if double then .doubleQuoted else .singleQuoted)) i.span

/-- Chomping and indentation as a block scalar's header gives them; `false` at the end when a
    character means nothing. -/
def readHeader : List Char → Scalar.Chomp × Option Nat → (Scalar.Chomp × Option Nat) × Bool
  | [], acc => (acc, true)
  | c :: cs, (chomp, explicit) =>
    if c = '-' then readHeader cs (.strip, explicit)
    else if c = '+' then readHeader cs (.keep, explicit)
    else if '1' ≤ c ∧ c ≤ '9' then readHeader cs (chomp, some (c.toNat - '0'.toNat))
    else ((chomp, explicit), false)

/-- Lower a block scalar. An explicit indentation counts from the column of the entry that owns it. -/
def lowerBlockScalar (text : List Char) (i : ConcreteInfo) : LowerM NodeId := do
  let span := i.trimmedSpan text
  let raw := span.slice text
  let (header, body) := (cut? ['\n'] raw).getD (raw, [])
  let header := trimEnd (((cut? [' ', '#'] header).map Prod.fst).getD header)
  let folded := startsWith header ['>']
  let ((chomp, explicit), wellFormed) := readHeader (header.drop 1) (.clip, none)
  if !wellFormed then
    addFault .syntactic "Invalid block scalar header" ⟨span.start, span.start + byteLength header⟩
  let after := Scalar.blankLinesAfter text span.stop
  let value := Scalar.blockValue body folded chomp (explicit.map (i.ownerColumn + ·)) after
  addNode (.scalar (String.ofList value) (if folded then .folded else .literal)) span

/-- A key, or null at the start of a pair that has none. -/
def orNull (i : ConcreteInfo) : Option NodeId → LowerM NodeId
  | some id => pure id
  | none => addNode .null (Span.empty i.start)

/-- Add a pair whose key and value are lowered. It starts no later than its key and ends with its value,
    or, without one, where its written form does. -/
def finishPair (text : List Char) (i : ConcreteInfo) (key : NodeId) (value : Option NodeId) :
    LowerM NodeId := do
  let start := min (← spanOfNode key).start i.start
  let stop ← match value with
    | some v => pure (← spanOfNode v).stop
    | none => pure (i.trimmedSpan text).stop
  addNode (.pair key value) ⟨start, max stop start⟩

mutual

/-- Lower a node. -/
def lowerNode (text : List Char) : Concrete → LowerM NodeId
  | .node i cs => do
    match i.kind with
    | .blockNode | .flowNode =>
      lowerProperties text cs
      match ← lowerContent text cs with
      | some id => return id
      | none => addNode .null (Span.empty i.stop)
    | .blockMapping =>
      let (pairs, _) ← lowerPairs text false [] cs
      addNode (.mapping pairs) (i.trimmedSpan text)
    | .flowMapping =>
      let (pairs, _) ← lowerPairs text true [] cs
      addNode (.mapping pairs) i.span
    | .blockSequence =>
      let items ← lowerItems text false cs
      addNode (.sequence items) (i.trimmedSpan text)
    | .flowSequence =>
      let items ← lowerItems text true cs
      addNode (.sequence items) i.span
    | .flowPair =>
      let key ← orNull i (← lowerRole text .key cs)
      let value ← lowerRole text .value cs
      let pair ← finishPair text i key value
      let span ← spanOfNode pair
      addNode (.mapping [pair]) span
    | .reference => lowerReference text i
    | .plainScalar =>
      addNode (.scalar (String.ofList (Scalar.foldLines (i.span.slice text))) .plain)
        (i.trimmedSpan text)
    | .doubleQuoteScalar => lowerQuoted text true i
    | .singleQuoteScalar => lowerQuoted text false i
    | .blockScalar => lowerBlockScalar text i
    | _ =>
      match ← lowerFirst text cs with
      | some id => return id
      | none =>
        let span := i.trimmedSpan text
        addNode (.scalar (String.ofList (span.slice text)) .plain) span

/-- Lower the content of a node: its first child that is no property. -/
def lowerContent (text : List Char) : List Concrete → LowerM (Option NodeId)
  | [] => pure none
  | .node i cs :: rest =>
    if i.kind.counts && i.kind ≠ .anchor && i.kind ≠ .tag then some <$> lowerNode text (.node i cs)
    else lowerContent text rest

/-- Lower the first content among nodes, looking through unplaced regions. -/
def lowerFirst (text : List Char) : List Concrete → LowerM (Option NodeId)
  | [] => pure none
  | .node i cs :: rest => do
    if i.kind.isContent then some <$> lowerNode text (.node i cs)
    else if i.kind = .error then
      match ← lowerFirst text cs with
      | some id => return some id
      | none => lowerFirst text rest
    else lowerFirst text rest

/-- Lower the pairs among nodes, looking through unplaced regions; `seen` are the key texts so far. In
    a flow mapping a lone node is a key without a value. -/
def lowerPairs (text : List Char) (flow : Bool) (seen : List String) :
    List Concrete → LowerM (List NodeId × List String)
  | [] => pure ([], seen)
  | .node i cs :: rest => do
    if i.kind = (if flow then .flowPair else .blockMappingPair) then
      let key ← orNull i (← lowerRole text .key cs)
      let value ← lowerRole text .value cs
      let id ← finishPair text i key value
      let seen ← checkKey seen id
      let (ids, seen) ← lowerPairs text flow seen rest
      return (id :: ids, seen)
    else if flow && i.kind = .flowNode then
      let key ← lowerNode text (.node i cs)
      let span ← spanOfNode key
      let id ← addNode (.pair key none) span
      let seen ← checkKey seen id
      let (ids, seen) ← lowerPairs text flow seen rest
      return (id :: ids, seen)
    else if i.kind = .error then
      let (inner, seen) ← lowerPairs text flow seen cs
      let (ids, seen) ← lowerPairs text flow seen rest
      return (inner ++ ids, seen)
    else lowerPairs text flow seen rest

/-- Lower the first node with a role. -/
def lowerRole (text : List Char) (role : Role) : List Concrete → LowerM (Option NodeId)
  | [] => pure none
  | .node i cs :: rest =>
    if i.role = some role then some <$> lowerNode text (.node i cs) else lowerRole text role rest

/-- Lower the items of a sequence, looking through unplaced regions. A block item without content is
    null, just after its mark. -/
def lowerItems (text : List Char) (flow : Bool) : List Concrete → LowerM (List NodeId)
  | [] => pure []
  | .node i cs :: rest => do
    if flow && (i.kind = .flowNode || i.kind = .flowPair) then
      let id ← lowerNode text (.node i cs)
      return id :: (← lowerItems text flow rest)
    else if !flow && i.kind = .blockSequenceItem then
      let id ← match ← lowerFirst text cs with
        | some id => pure id
        | none => addNode .null (Span.empty (i.start + 1))
      return id :: (← lowerItems text flow rest)
    else if i.kind = .error then
      let inner ← lowerItems text flow cs
      return inner ++ (← lowerItems text flow rest)
    else lowerItems text flow rest

end

mutual

/-- Content among the children of a node, looking through unplaced regions. -/
def contentsOf : List Concrete → List ConcreteInfo
  | [] => []
  | c :: rest => contentOf c ++ contentsOf rest

/-- The node itself if it is content, or what an unplaced region holds. -/
def contentOf : Concrete → List ConcreteInfo
  | .node i cs =>
    if i.kind.isContent then [i] else if i.kind = .error then contentsOf cs else []

end

/-- Lower a document or an unplaced region: its first content is the root. -/
def lowerDocument (text : List Char) : Concrete → LowerM (Option NodeId)
  | .node i cs => do
    let root ← lowerFirst text cs
    if root.isSome && !i.faulty then
      for stray in (contentsOf cs).drop 1 do
        addFault .syntactic "Unexpected content after the document root"
          (stray.trimmedSpan text)
    return root

/-- Lower one child of the stream to a document, if it is one, and its faults. -/
def lowerChild (text : List Char) (c : Concrete) : Option Document × List Fault :=
  let (root, s) := (lowerDocument text c).run {}
  let span := match root with
    | some id => (s.nodes.getD id default).span
    | none => c.info.trimmedSpan text
  if root.isNone && c.isError then (none, s.faults)
  else (some { nodes := s.nodes, root, span }, s.faults)

/-- Documents and faults of a concrete tree. Faults are in the order of their spans. -/
def Stream.ofConcrete (text : List Char) (tree : Concrete) : Stream :=
  let parts := (tree.children.filter fun c => c.kind = .document || c.isError).map (lowerChild text)
  let faults := collectFaults text tree ++ parts.flatMap Prod.snd
  { documents := parts.filterMap Prod.fst
    faults := faults.mergeSort fun a b =>
      a.span.start < b.span.start || (a.span.start = b.span.start && a.span.stop ≤ b.span.stop) }

/-- Parse a text. -/
def Stream.ofText (text : String) : Stream :=
  Stream.ofConcrete text.toList (parseTree (SourceText.ofString text))

end PlaybookServer

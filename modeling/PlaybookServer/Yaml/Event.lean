/-
Module: PlaybookServer.Yaml.Event
Purpose: The structure of a YAML stream as a sequence of events: documents, collections, scalars and
  references. The reader keeps a stack of what comes after the node at hand, so that each event takes a
  bounded number of tokens.
Main exports: Event, EventKind, Reader, Reader.next, YamlDocument, documents
-/
import PlaybookServer.Yaml.Lexer

namespace PlaybookServer.Yaml

/-- What happens in a stream. -/
inductive EventKind where
  | streamStart
  | streamEnd
  | documentStart
  | documentEnd
  | reference (name : String)
  | scalar (anchor : Option String) (tag : Option Tag) (text : String) (style : Style)
  | sequenceStart (anchor : Option String) (tag : Option Tag)
  | sequenceEnd
  | mappingStart (anchor : Option String) (tag : Option Tag)
  | mappingEnd
deriving DecidableEq, Repr, Inhabited

/-- An event and where it starts. -/
structure Event where
  kind : EventKind
  start : Mark
deriving DecidableEq, Repr, Inhabited

/-- What is expected next. -/
inductive Expect where
  | streamStart
  /-- A document, which may lack its marker only if it is the first. -/
  | documentStart (first : Bool)
  | documentContent
  | documentEnd
  | blockNode
  | blockSequenceEntry (first : Bool)
  | indentlessEntry
  | blockMappingKey (first : Bool)
  | blockMappingValue
  | flowSequenceEntry (first : Bool)
  | flowPairKey
  | flowPairValue
  | flowPairEnd
  | flowMappingKey (first : Bool)
  | flowMappingValue (empty : Bool)
  | done
deriving DecidableEq, Repr, Inhabited

/-- The state of reading events. -/
structure Reader where
  lexer : Lexer
  expect : Expect := .streamStart
  /-- What follows the nodes being read, innermost first. -/
  stack : List Expect := []
  /-- Where the open collections started, innermost first. -/
  marks : List Mark := []
  /-- Handles of tags and what they stand for. -/
  handles : List (String × Tag) := []
deriving Repr, Inhabited

namespace Reader

/-- The next token. -/
def peek (r : Reader) : Except YamlFault (Token × Reader) := do
  let (t, lexer) ← r.lexer.peek
  return (t, { r with lexer })

/-- Take the next token. -/
def advance (r : Reader) : Reader := { r with lexer := r.lexer.advance }

/-- Expect what follows the node just read. -/
def pop (r : Reader) : Reader :=
  match r.stack with
  | [] => { r with expect := .done }
  | e :: stack => { r with expect := e, stack }

/-- Note what follows the node about to be read. -/
def pushed (r : Reader) (e : Expect) : Reader := { r with stack := e :: r.stack }

/-- Leave a collection. -/
def leave (r : Reader) : Reader := { r.pop with marks := r.marks.drop 1 }

/-- Where the innermost open collection started. -/
def opened (r : Reader) : Mark := r.marks.headD {}

/-- A scalar that is not written. -/
def emptyScalar (m : Mark) : Event := ⟨.scalar none none "" .plain, m⟩

/-- A fault with a context. -/
def faultIn (context : String) (start : Mark) (problem : String) (place : Mark) : YamlFault :=
  .malformed problem place (some (context, start))

/-! ### Nodes -/

/-- Marks before the content of a node. -/
structure Properties where
  anchor : Option String := none
  tag : Option (String × Tag × Mark) := none
  start : Mark

/-- Read the anchor and tag of a node, in either order. -/
def readProperties (r : Reader) : Except YamlFault (Properties × Token × Reader) := do
  let (t, r) ← r.peek
  match t.kind with
  | .anchor name =>
    let (u, r) ← r.advance.peek
    match u.kind with
    | .tag handle suffix =>
      let (v, r) ← r.advance.peek
      return (⟨some name, some (handle, suffix, u.start), t.start⟩, v, r)
    | _ => return (⟨some name, none, t.start⟩, u, r)
  | .tag handle suffix =>
    let (u, r) ← r.advance.peek
    match u.kind with
    | .anchor name =>
      let (v, r) ← r.advance.peek
      return (⟨some name, some (handle, suffix, t.start), t.start⟩, v, r)
    | _ => return (⟨none, some (handle, suffix, t.start), t.start⟩, u, r)
  | _ => return (⟨none, none, t.start⟩, t, r)

/-- The full tag of a node. -/
def resolveTag (r : Reader) (p : Properties) : Except YamlFault (Option Tag) :=
  match p.tag with
  | none => .ok none
  | some (handle, suffix, place) =>
    if handle = "" then .ok (some suffix)
    else
      match r.handles.find? fun h => h.1 = handle with
      | some (_, stem) => .ok (some (stem.append suffix))
      | none => .error (faultIn "while parsing a node" p.start "found undefined tag handle" place)

/-- Read a node or the start of one. -/
def readNode (r : Reader) (block indentless : Bool) : Except YamlFault (Event × Reader) := do
  let (t, r) ← r.peek
  if let .reference name := t.kind then
    return (⟨.reference name, t.start⟩, r.pop.advance)
  let (p, t, r) ← r.readProperties
  let tag ← r.resolveTag p
  match t.kind, block, indentless with
  | .blockEntry, _, true =>
    return (⟨.sequenceStart p.anchor tag, p.start⟩, { r with expect := .indentlessEntry })
  | .scalar text style, _, _ =>
    -- A lone exclamation mark leaves the kind of the scalar open.
    let tag := if tag = some ⟨"!", true⟩ then none else tag
    return (⟨.scalar p.anchor tag text style, p.start⟩, r.pop.advance)
  | .flowSequenceStart, _, _ =>
    return (⟨.sequenceStart p.anchor tag, p.start⟩, { r with expect := .flowSequenceEntry true })
  | .flowMappingStart, _, _ =>
    return (⟨.mappingStart p.anchor tag, p.start⟩, { r with expect := .flowMappingKey true })
  | .blockSequenceStart, true, _ =>
    return (⟨.sequenceStart p.anchor tag, p.start⟩, { r with expect := .blockSequenceEntry true })
  | .blockMappingStart, true, _ =>
    return (⟨.mappingStart p.anchor tag, p.start⟩, { r with expect := .blockMappingKey true })
  | _, _, _ =>
    if p.anchor.isSome || tag.isSome then
      return (⟨.scalar p.anchor tag "" .plain, p.start⟩, r.pop)
    else
      .error (faultIn (if block then "while parsing a block node" else "while parsing a flow node") p.start
        "did not find expected node content" t.start)

/-! ### Documents -/

/-- Handles that every document knows. -/
def knownHandles : List (String × Tag) := [("!", ⟨"!", true⟩), ("!!", ⟨"tag:yaml.org,2002:", true⟩)]

/-- Read the directives before a document. -/
def readDirectives : Nat → Bool → List (String × Tag) → Reader →
    Except YamlFault (List (String × Tag) × Reader)
  | 0, _, handles, r => .ok (handles, r)
  | fuel + 1, versioned, handles, r => do
    let (t, r) ← r.peek
    match t.kind with
    | .version major minor =>
      if versioned then .error (.malformed "found duplicate %YAML directive" t.start none)
      else if major ≠ 1 || (minor ≠ 1 && minor ≠ 2) then
        .error (.malformed "found incompatible YAML document" t.start none)
      else readDirectives fuel true handles r.advance
    | .tagDirective handle stem =>
      if handles.any fun h => h.1 = handle then
        .error (.malformed "found duplicate %TAG directive" t.start none)
      else readDirectives fuel versioned (handles ++ [(handle, stem)]) r.advance
    | _ => return (handles, r)

/-- Skip end markers between documents. -/
def skipEndMarkers : Nat → Reader → Except YamlFault Reader
  | 0, r => .ok r
  | fuel + 1, r => do
    let (t, r) ← r.peek
    if t.kind = .documentEnd then skipEndMarkers fuel r.advance else return r

/-- Number of steps that no text exceeds. -/
def bound (r : Reader) : Nat := r.lexer.place.rest.length + r.lexer.queue.length + 2

/-- Start of a document, or end of the stream. -/
def readDocumentStart (r : Reader) (first : Bool) : Except YamlFault (Event × Reader) := do
  let r ← if first then pure r else skipEndMarkers r.bound r
  let (t, r) ← r.peek
  let isMark : Bool := match t.kind with
    | .version _ _ | .tagDirective _ _ | .documentStart | .streamEnd => true
    | _ => false
  if first && !isMark then
    return (⟨.documentStart, t.start⟩,
      { r.pushed .documentEnd with expect := .blockNode, handles := knownHandles })
  else if t.kind = .streamEnd then
    return (⟨.streamEnd, t.start⟩, { r.advance with expect := .done })
  else
    let (handles, r) ← readDirectives r.bound false [] r
    let (u, r) ← r.peek
    if u.kind ≠ .documentStart then
      .error (.malformed "did not find expected <document start>" u.start none)
    else
      return (⟨.documentStart, t.start⟩,
        { r.advance.pushed .documentEnd with
          expect := .documentContent, handles := handles ++ knownHandles })

/-- Content of a document, which may be empty. -/
def readDocumentContent (r : Reader) : Except YamlFault (Event × Reader) := do
  let (t, r) ← r.peek
  match t.kind with
  | .version _ _ | .tagDirective _ _ | .documentStart | .documentEnd | .streamEnd =>
    return (emptyScalar t.start, r.pop)
  | _ => r.readNode true false

/-- End of a document. -/
def readDocumentEnd (r : Reader) : Except YamlFault (Event × Reader) := do
  let (t, r) ← r.peek
  let r := if t.kind = .documentEnd then r.advance else r
  return (⟨.documentEnd, t.start⟩, { r with expect := .documentStart false, handles := [] })

/-! ### Collections -/

/-- Take the token that opened a collection. -/
def enter (r : Reader) (first : Bool) : Except YamlFault Reader := do
  if !first then return r
  let (t, r) ← r.peek
  return { r.advance with marks := t.start :: r.marks }

/-- An entry of a block sequence. -/
def readBlockEntry (r : Reader) (first : Bool) : Except YamlFault (Event × Reader) := do
  let (t, r) ← (← r.enter first).peek
  match t.kind with
  | .blockEntry =>
    let (u, r) ← r.advance.peek
    if u.kind = .blockEntry || u.kind = .blockEnd then
      return (emptyScalar t.stop, { r with expect := .blockSequenceEntry false })
    else (r.pushed (.blockSequenceEntry false)).readNode true false
  | .blockEnd => return (⟨.sequenceEnd, t.start⟩, r.leave.advance)
  | _ =>
    .error (faultIn "while parsing a block collection" r.opened "did not find expected '-' indicator" t.start)

/-- An entry of a block sequence at the indentation of the mapping around it. -/
def readIndentlessEntry (r : Reader) : Except YamlFault (Event × Reader) := do
  let (t, r) ← r.peek
  match t.kind with
  | .blockEntry =>
    let (u, r) ← r.advance.peek
    match u.kind with
    | .blockEntry | .key | .value | .blockEnd =>
      return (emptyScalar t.stop, { r with expect := .indentlessEntry })
    | _ => (r.pushed .indentlessEntry).readNode true false
  | _ => return (⟨.sequenceEnd, t.start⟩, r.pop)

/-- A key of a block mapping. -/
def readBlockKey (r : Reader) (first : Bool) : Except YamlFault (Event × Reader) := do
  let (t, r) ← (← r.enter first).peek
  match t.kind with
  | .key =>
    let (u, r) ← r.advance.peek
    match u.kind with
    | .key | .value | .blockEnd => return (emptyScalar t.stop, { r with expect := .blockMappingValue })
    | _ => (r.pushed .blockMappingValue).readNode true true
  | .blockEnd => return (⟨.mappingEnd, t.start⟩, r.leave.advance)
  | _ => .error (faultIn "while parsing a block mapping" r.opened "did not find expected key" t.start)

/-- A value of a block mapping. -/
def readBlockValue (r : Reader) : Except YamlFault (Event × Reader) := do
  let (t, r) ← r.peek
  match t.kind with
  | .value =>
    let (u, r) ← r.advance.peek
    match u.kind with
    | .key | .value | .blockEnd =>
      return (emptyScalar t.stop, { r with expect := .blockMappingKey false })
    | _ => (r.pushed (.blockMappingKey false)).readNode true true
  | _ => return (emptyScalar t.start, { r with expect := .blockMappingKey false })

/-- Skip the comma before an entry that is not the first. -/
def skipComma (r : Reader) (t : Token) (context problem : String) : Except YamlFault (Token × Reader) :=
  if t.kind = .flowEntry then r.advance.peek
  else .error (faultIn context r.opened problem t.start)

/-- An entry of a flow sequence. -/
def readFlowEntry (r : Reader) (first : Bool) : Except YamlFault (Event × Reader) := do
  let (t, r) ← (← r.enter first).peek
  let (t, r) ←
    if t.kind = .flowSequenceEnd || first then pure (t, r)
    else r.skipComma t "while parsing a flow sequence" "did not find expected ',' or ']'"
  match t.kind with
  | .flowSequenceEnd => return (⟨.sequenceEnd, t.start⟩, r.leave.advance)
  | .key => return (⟨.mappingStart none none, t.start⟩, { r.advance with expect := .flowPairKey })
  | _ => (r.pushed (.flowSequenceEntry false)).readNode false false

/-- The key of a pair that stands directly in a flow sequence. -/
def readFlowPairKey (r : Reader) : Except YamlFault (Event × Reader) := do
  let (t, r) ← r.peek
  match t.kind with
  | .value | .flowEntry | .flowSequenceEnd =>
    return (emptyScalar t.stop, { r.advance with expect := .flowPairValue })
  | _ => (r.pushed .flowPairValue).readNode false false

/-- The value of a pair that stands directly in a flow sequence. -/
def readFlowPairValue (r : Reader) : Except YamlFault (Event × Reader) := do
  let (t, r) ← r.peek
  let (t, r, written) ←
    if t.kind = .value then do
      let (u, r) ← r.advance.peek
      pure (u, r, u.kind ≠ .flowEntry && u.kind ≠ .flowSequenceEnd)
    else pure (t, r, false)
  if written then (r.pushed .flowPairEnd).readNode false false
  else return (emptyScalar t.start, { r with expect := .flowPairEnd })

/-- A key of a flow mapping. -/
def readFlowKey (r : Reader) (first : Bool) : Except YamlFault (Event × Reader) := do
  let (t, r) ← (← r.enter first).peek
  let (t, r) ←
    if t.kind = .flowMappingEnd || first then pure (t, r)
    else r.skipComma t "while parsing a flow mapping" "did not find expected ',' or '\x7d'"
  match t.kind with
  | .flowMappingEnd => return (⟨.mappingEnd, t.start⟩, r.leave.advance)
  | .key =>
    let (u, r) ← r.advance.peek
    match u.kind with
    | .value | .flowEntry | .flowMappingEnd =>
      return (emptyScalar u.start, { r with expect := .flowMappingValue false })
    | _ => (r.pushed (.flowMappingValue false)).readNode false false
  | _ => (r.pushed (.flowMappingValue true)).readNode false false

/-- A value of a flow mapping. -/
def readFlowValue (r : Reader) (empty : Bool) : Except YamlFault (Event × Reader) := do
  let (t, r) ← r.peek
  let (t, r, written) ←
    if !empty && t.kind = .value then do
      let (u, r) ← r.advance.peek
      pure (u, r, u.kind ≠ .flowEntry && u.kind ≠ .flowMappingEnd)
    else pure (t, r, false)
  if written then (r.pushed (.flowMappingKey false)).readNode false false
  else return (emptyScalar t.start, { r with expect := .flowMappingKey false })

/-- The next event. -/
def next (r : Reader) : Except YamlFault (Event × Reader) := do
  match r.expect with
  | .streamStart =>
    let (t, r) ← r.peek
    return (⟨.streamStart, t.start⟩, { r.advance with expect := .documentStart true })
  | .documentStart first => r.readDocumentStart first
  | .documentContent => r.readDocumentContent
  | .documentEnd => r.readDocumentEnd
  | .blockNode => r.readNode true false
  | .blockSequenceEntry first => r.readBlockEntry first
  | .indentlessEntry => r.readIndentlessEntry
  | .blockMappingKey first => r.readBlockKey first
  | .blockMappingValue => r.readBlockValue
  | .flowSequenceEntry first => r.readFlowEntry first
  | .flowPairKey => r.readFlowPairKey
  | .flowPairValue => r.readFlowPairValue
  | .flowPairEnd =>
    let (t, r) ← r.peek
    return (⟨.mappingEnd, t.start⟩, { r with expect := .flowSequenceEntry false })
  | .flowMappingKey first => r.readFlowKey first
  | .flowMappingValue empty => r.readFlowValue empty
  | .done => return (⟨.streamEnd, r.lexer.mark⟩, r)

/-- All events up to the end of the stream, and the fault that cut it short. -/
def run : Nat → Reader → List Event × Option YamlFault
  | 0, _ => ([], none)
  | fuel + 1, r =>
    match r.next with
    | .error f => ([], some f)
    | .ok (e, r) =>
      if e.kind = .streamEnd then ([e], none)
      else
        let (es, f) := run fuel r
        (e :: es, f)

end Reader

/-- The events of a text and the fault that cut it short. A token yields at most three events. -/
def eventsOf (text : List Char) : List Event × Option YamlFault :=
  match Lexer.ofText text with
  | .error f => ([], some f)
  | .ok lexer => Reader.run (8 * text.length + 16) { lexer }

/-! ### Documents -/

/-- An event inside a document. References point to the node they name. -/
inductive NodeEvent where
  /-- There is no document at all. -/
  | void
  /-- The target is the number of an event of the same document. -/
  | reference (target : Nat)
  | scalar (tag : Option Tag) (text : String) (style : Style)
  | sequenceStart (tag : Option Tag)
  | sequenceEnd
  | mappingStart (tag : Option Tag)
  | mappingEnd
deriving DecidableEq, Repr, Inhabited

/-- One document: its events and the fault that cut it short. -/
structure YamlDocument where
  events : Array (NodeEvent × Mark)
  fault : Option YamlFault
deriving Repr, Inhabited

/-- A document being collected. A name is remembered by its number; a name given twice takes the number
    that the count of names had at that time, so the target of a number can change. -/
structure Draft where
  events : Array (NodeEvent × Mark) := #[]
  numbers : List (String × Nat) := []
  targets : List (Nat × Nat) := []

namespace Draft

/-- Remember the name of the next event. -/
def noteAnchor (d : Draft) : Option String → Draft
  | none => d
  | some name =>
    let number := d.numbers.length
    { d with
      numbers := (name, number) :: d.numbers.filter fun n => n.1 ≠ name
      targets := (number, d.events.size) :: d.targets }

/-- Add an event. -/
def push (d : Draft) (e : NodeEvent) (m : Mark) : Draft := { d with events := d.events.push (e, m) }

/-- The document, with references resolved to the last target of their number. -/
def finish (d : Draft) (fault : Option YamlFault) : YamlDocument :=
  { events := d.events.map fun (e, m) =>
      match e with
      | .reference number => (.reference ((d.targets.lookup number).getD 0), m)
      | e => (e, m)
    fault }

end Draft

/-- Group events into documents. The first document exists even if the stream is empty. -/
def group (fault : Option YamlFault) : List Event → Bool → Draft → List YamlDocument
  | [], _, d => if fault.isSome then [d.finish fault] else []
  | e :: es, first, d =>
    match e.kind with
    | .streamStart | .documentStart => group fault es first d
    | .streamEnd =>
      if first then [(if d.events.isEmpty then d.push .void e.start else d).finish none] else []
    | .documentEnd => d.finish none :: group fault es false {}
    | .reference name =>
      match d.numbers.lookup name with
      | some number => group fault es first (d.push (.reference number) e.start)
      | none => [d.finish (some (.unknownAnchor e.start))]
    | .scalar anchor tag text style =>
      group fault es first ((d.noteAnchor anchor).push (.scalar tag text style) e.start)
    | .sequenceStart anchor tag => group fault es first ((d.noteAnchor anchor).push (.sequenceStart tag) e.start)
    | .sequenceEnd => group fault es first (d.push .sequenceEnd e.start)
    | .mappingStart anchor tag => group fault es first ((d.noteAnchor anchor).push (.mappingStart tag) e.start)
    | .mappingEnd => group fault es first (d.push .mappingEnd e.start)

/-- The documents of a text. Only the last one can hold a fault. -/
def documents (text : List Char) : List YamlDocument :=
  let (events, fault) := eventsOf text
  group fault events true {}

end PlaybookServer.Yaml

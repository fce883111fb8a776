/-
Module: PlaybookServer.Yaml.Lexer
Purpose: The tokens of a YAML text one after another. Block collections open and close by indentation, and
  whether a node is a key shows only at the colon after it, so tokens wait in a queue until no key can
  start at its head.
Main exports: Lexer, Lexer.ofText, Lexer.peek, Lexer.advance
-/
import PlaybookServer.Yaml.Token

namespace PlaybookServer.Yaml

/-- A place where a key on one line may have started. -/
structure PossibleKey where
  possible : Bool := false
  /-- A node at the indentation of its mapping must be a key. -/
  required : Bool := false
  /-- Number of the token that would be the key's first. -/
  number : Nat := 0
  mark : Mark := {}
deriving Repr, Inhabited

/-- The state of reading tokens. -/
structure Lexer where
  place : Place
  started : Bool := false
  /-- Column of the block collection being read, -1 at the top. -/
  indent : Int := -1
  /-- Columns of the collections around it. -/
  outer : List Int := []
  /-- Whether a key may start here. -/
  keyAllowed : Bool := false
  /-- One entry per open flow collection, innermost first, and one for the block level. -/
  keys : List PossibleKey := []
  queue : List Token := []
  /-- Number of tokens handed out. -/
  taken : Nat := 0
deriving Repr, Inhabited

namespace Lexer

/-- Open flow collections. -/
def flowLevel (l : Lexer) : Nat := l.keys.length - 1

/-- Whether a flow collection is open. -/
def inFlow (l : Lexer) : Bool := 0 < l.flowLevel

/-- The mark reached. -/
def mark (l : Lexer) : Mark := l.place.mark

/-- Add a token to the end of the queue. -/
def push (l : Lexer) (t : Token) : Lexer := { l with queue := l.queue ++ [t] }

/-- Insert a token before the token of the given number. -/
def insertAt (l : Lexer) (number : Nat) (t : Token) : Lexer :=
  let k := number - l.taken
  { l with queue := l.queue.take k ++ [t] ++ l.queue.drop k }

/-- Change the entry of the innermost level. -/
def setKey (l : Lexer) (k : PossibleKey) : Lexer := { l with keys := k :: l.keys.drop 1 }

/-- The entry of the innermost level. -/
def currentKey (l : Lexer) : PossibleKey := l.keys.headD {}

/-- The fault of a required key without its colon. -/
def missingColon (l : Lexer) (k : PossibleKey) : YamlFault :=
  l.place.fault "while scanning a simple key" k.mark "could not find expected ':'"

/-- A key lies on one line and is at most 1024 characters long: forget the ones that no longer can be. -/
def dropStaleKeys (l : Lexer) : Except YamlFault Lexer := do
  let stale := fun (k : PossibleKey) =>
    k.possible && (k.mark.line < l.mark.line || k.mark.index + 1024 < l.mark.index)
  -- The outermost level is looked at first.
  match l.keys.reverse.find? fun k => stale k && k.required with
  | some k => .error (l.missingColon k)
  | none => return { l with keys := l.keys.map fun k => if stale k then { k with possible := false } else k }

/-- No key starts at the innermost level any more. -/
def removeKey (l : Lexer) : Except YamlFault Lexer :=
  let k := l.currentKey
  if k.possible && k.required then .error (l.missingColon k)
  else .ok (l.setKey { k with possible := false })

/-- Note that a key may start here. -/
def saveKey (l : Lexer) : Except YamlFault Lexer := do
  if !l.keyAllowed then return l
  let key : PossibleKey :=
    { possible := true
      required := !l.inFlow && l.indent = l.mark.col
      number := l.taken + l.queue.length
      mark := l.mark }
  let l ← l.removeKey
  return l.setKey key

/-- Open a block collection at a column, if it is further in. -/
def openBlock (l : Lexer) (col : Nat) (number : Option Nat) (kind : TokenKind) (mark : Mark) : Lexer :=
  if l.inFlow || (col : Int) ≤ l.indent then l
  else
    let t : Token := ⟨kind, mark, mark⟩
    let l := { l with outer := l.indent :: l.outer, indent := col }
    match number with
    | none => l.push t
    | some n => l.insertAt n t

/-- Close the block collections further in than a column. -/
def closeBlocks (l : Lexer) (col : Int) : Lexer :=
  if l.inFlow then l else go l.outer l
where
  /-- Recursion on the collections around. -/
  go : List Int → Lexer → Lexer
    | [], l => l
    | indent :: outer, l =>
      if col < l.indent then
        go outer { l.push ⟨.blockEnd, l.mark, l.mark⟩ with indent, outer }
      else l

/-- Skip what stands between tokens. A byte order mark may start a line. -/
def skipBetween : Nat → Lexer → Lexer
  | 0, l => l
  | fuel + 1, l =>
    let tabs := l.inFlow || !l.keyAllowed
    let start := if l.mark.col = 0 && l.place.rest.head?.any isOrderMark then l.place.skip else l.place
    let p := (start.skipWhile fun c => c = ' ' || (tabs && c = '\t')).skipCommentIfAny
    if p.rest.head?.any isBreak then
      skipBetween fuel { l with place := p.readBreak.2, keyAllowed := l.keyAllowed || !l.inFlow }
    else { l with place := p }

/-- Add a token of so many characters that starts here. -/
def pushMark (l : Lexer) (kind : TokenKind) (width : Nat) : Lexer :=
  let after := l.place.skipMany width
  { l.push ⟨kind, l.mark, after.mark⟩ with place := after }

/-- End of the text. -/
def fetchEnd (l : Lexer) : Except YamlFault Lexer := do
  let m := l.mark
  let m := if m.col = 0 then m else { m with line := m.line + 1, col := 0 }
  let l := { l with place := { l.place with mark := m } }
  let l ← (l.closeBlocks (-1)).removeKey
  return { l with keyAllowed := false }.push ⟨.streamEnd, m, m⟩

/-- A directive line. -/
def fetchDirective (l : Lexer) : Except YamlFault Lexer := do
  let l ← (l.closeBlocks (-1)).removeKey
  let (t, place) ← readDirective l.place
  return { l.push t with place, keyAllowed := false }

/-- A document marker. -/
def fetchMarker (l : Lexer) (kind : TokenKind) : Except YamlFault Lexer := do
  let l ← (l.closeBlocks (-1)).removeKey
  return { l with keyAllowed := false }.pushMark kind 3

/-- Start of a flow collection. -/
def fetchFlowStart (l : Lexer) (kind : TokenKind) : Except YamlFault Lexer := do
  let l ← l.saveKey
  return { l with keys := {} :: l.keys, keyAllowed := true }.pushMark kind 1

/-- End of a flow collection. -/
def fetchFlowEnd (l : Lexer) (kind : TokenKind) : Except YamlFault Lexer := do
  let l ← l.removeKey
  let keys := if l.inFlow then l.keys.drop 1 else l.keys
  return { l with keys, keyAllowed := false }.pushMark kind 1

/-- A comma between entries. -/
def fetchFlowEntry (l : Lexer) : Except YamlFault Lexer := do
  let l ← l.removeKey
  return { l with keyAllowed := true }.pushMark .flowEntry 1

/-- A fault without a context. -/
def notAllowed (l : Lexer) (what : String) : YamlFault :=
  .malformed (what ++ " are not allowed in this context") l.mark none

/-- A dash before an entry. -/
def fetchBlockEntry (l : Lexer) : Except YamlFault Lexer := do
  if !l.inFlow && !l.keyAllowed then .error (l.notAllowed "block sequence entries")
  else
    let l ← (l.openBlock l.mark.col none .blockSequenceStart l.mark).removeKey
    return { l with keyAllowed := true }.pushMark .blockEntry 1

/-- A question mark before a key. -/
def fetchKey (l : Lexer) : Except YamlFault Lexer := do
  if !l.inFlow && !l.keyAllowed then .error (l.notAllowed "mapping keys")
  else
    let l ← (l.openBlock l.mark.col none .blockMappingStart l.mark).removeKey
    return { l with keyAllowed := !l.inFlow }.pushMark .key 1

/-- A colon before a value. What may have been a key is one now. -/
def fetchValue (l : Lexer) : Except YamlFault Lexer := do
  let k := l.currentKey
  if k.possible then
    let l := l.insertAt k.number ⟨.key, k.mark, k.mark⟩
    let l := l.openBlock k.mark.col (some k.number) .blockMappingStart k.mark
    return { l.setKey { k with possible := false } with keyAllowed := false }.pushMark .value 1
  else if !l.inFlow && !l.keyAllowed then .error (l.notAllowed "mapping values")
  else
    let l := l.openBlock l.mark.col none .blockMappingStart l.mark
    return { l with keyAllowed := !l.inFlow }.pushMark .value 1

/-- A token that may be or start a key. -/
def fetchNodePart (l : Lexer) (read : Place → Except YamlFault (Token × Place)) : Except YamlFault Lexer := do
  let l ← l.saveKey
  let (t, place) ← read l.place
  return { l.push t with place, keyAllowed := false }

/-- A plain scalar; a key may follow it if it ended at a line break. -/
def fetchPlain (l : Lexer) : Except YamlFault Lexer := do
  let l ← l.saveKey
  let (t, broken, place) ← readPlain l.inFlow (l.indent + 1).toNat l.place
  return { l.push t with place, keyAllowed := broken }

/-- A block scalar. -/
def fetchBlockScalar (l : Lexer) (literal : Bool) : Except YamlFault Lexer := do
  let l ← l.removeKey
  let (t, place) ← readBlock literal l.indent l.place
  return { l.push t with place, keyAllowed := true }

/-- Characters that cannot start a plain scalar. -/
def isIndicator (c : Char) : Bool :=
  ['-', '?', ':', ',', '[', ']', '#', '&', '*', '!', '|', '>', '\'', '"', '%', '@'].contains c
  || c.toNat = 0x7b || c.toNat = 0x7d || c.toNat = 0x60

/-- Whether a plain scalar starts with this character before that text. -/
def startsPlain (l : Lexer) (c : Char) (rest : List Char) : Bool :=
  (!isGapOrBreak c && !isIndicator c)
  || (c = '-' && !(rest.head?.any isGap))
  || (!l.inFlow && (c = '?' || c = ':') && !endsWord rest)

/-- Read one more token, with the tokens for block collections that it opens or closes. -/
def fetch (l : Lexer) : Except YamlFault Lexer := do
  if !l.started then
    return { l with started := true, keyAllowed := true, keys := [{}] }.push ⟨.streamStart, l.mark, l.mark⟩
  let l ← (l.skipBetween (l.place.rest.length + 1)).dropStaleKeys
  let l := l.closeBlocks l.mark.col
  match l.place.rest with
  | [] => l.fetchEnd
  | c :: rest =>
    if l.mark.col = 0 && c = '%' then l.fetchDirective
    else if l.place.atMarker '-' then l.fetchMarker .documentStart
    else if l.place.atMarker '.' then l.fetchMarker .documentEnd
    else if c = '[' then l.fetchFlowStart .flowSequenceStart
    else if c.toNat = 0x7b then l.fetchFlowStart .flowMappingStart
    else if c = ']' then l.fetchFlowEnd .flowSequenceEnd
    else if c.toNat = 0x7d then l.fetchFlowEnd .flowMappingEnd
    else if c = ',' then l.fetchFlowEntry
    else if c = '-' && endsWord rest then l.fetchBlockEntry
    else if c = '?' && (l.inFlow || endsWord rest) then l.fetchKey
    else if c = ':' && (l.inFlow || endsWord rest) then l.fetchValue
    else if c = '*' then l.fetchNodePart (readName true)
    else if c = '&' then l.fetchNodePart (readName false)
    else if c = '!' then l.fetchNodePart (readTag l.inFlow)
    else if c = '|' && !l.inFlow then l.fetchBlockScalar true
    else if c = '>' && !l.inFlow then l.fetchBlockScalar false
    else if c = '\'' then l.fetchNodePart (readQuoted false)
    else if c = '"' then l.fetchNodePart (readQuoted true)
    else if l.startsPlain c rest then l.fetchPlain
    else
      .error (l.place.fault "while scanning for the next token" l.mark
        "found character that cannot start any token")

/-- Read on until no key can start at the head of the queue. -/
def fill : Nat → Lexer → Except YamlFault Lexer
  | 0, l => .ok l
  | fuel + 1, l => do
    if l.queue.isEmpty then fill fuel (← l.fetch)
    else
      let l ← l.dropStaleKeys
      if l.keys.any fun k => k.possible && k.number = l.taken then fill fuel (← l.fetch)
      else return l

/-- The next token, which stays in the queue. -/
def peek (l : Lexer) : Except YamlFault (Token × Lexer) := do
  let l ← l.fill (l.place.rest.length + 3)
  return (l.queue.headD ⟨.streamEnd, l.mark, l.mark⟩, l)

/-- Take the token at the head of the queue. -/
def advance (l : Lexer) : Lexer := { l with queue := l.queue.drop 1, taken := l.taken + 1 }

/-- The start of a text. -/
def ofText (text : List Char) : Except YamlFault Lexer :=
  match forbiddenOffset? 0 text with
  | some offset => .error (.forbiddenCharacter offset)
  | none => .ok { place := ⟨text, {}⟩ }

end Lexer

end PlaybookServer.Yaml

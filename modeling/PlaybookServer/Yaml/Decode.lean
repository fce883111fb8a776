/-
Module: PlaybookServer.Yaml.Decode
Purpose: Values from the events of a document. A fault names the path to the value and where it stands;
  references are followed where they stand, within limits on depth and number.
Main exports: Cursor, Scope, readValue, readFields, readSequence, readText, Value.ofDocument, Value.ofText
-/
import PlaybookServer.Yaml.Event
import PlaybookServer.Yaml.Value
import PlaybookServer.Text.Escaped

namespace PlaybookServer.Yaml

/-- The next event of a document and the number of references followed so far. -/
structure Cursor where
  pos : Nat := 0
  jumps : Nat := 0
deriving DecidableEq, Repr, Inhabited

/-- Where a value belongs. -/
structure Scope where
  /-- Path to the value; a point is the whole document. -/
  path : String := "."
  /-- How many more collections may open. -/
  depth : Nat := 128
deriving DecidableEq, Repr, Inhabited

namespace Scope

/-- The scope of a mapping's value. -/
def key (s : Scope) (name : String) : Scope :=
  { s with path := if s.path = "." then name else s.path ++ "." ++ name }

/-- The scope of a sequence's item. -/
def item (s : Scope) (i : Nat) : Scope := { s with path := s.path ++ "[" ++ toString i ++ "]" }

end Scope

/-- A fault that a node with a place will complete. -/
def mismatch (message : String) : YamlFault := .mismatch message none

/-- Run a reader; faults without a place are at this node. -/
def located {α : Type} (m : Mark) (s : Scope) (result : Except YamlFault α) : Except YamlFault α :=
  result.mapError (YamlFault.located m s.path)

/-- The event at a place of a document; beyond its end stands the fault that cut it short. -/
def YamlDocument.at? (d : YamlDocument) (k : Cursor) : Except YamlFault (NodeEvent × Mark) :=
  match d.events[k.pos]? with
  | some e => .ok e
  | none => .error (d.fault.getD .endOfStream)

/-- How many references may be followed. -/
def YamlDocument.jumpLimit (d : YamlDocument) : Nat := 100 * d.events.size

/-- Steps that reading a document cannot exceed. -/
def YamlDocument.stepLimit (d : YamlDocument) : Nat := (d.jumpLimit + 2) * (d.events.size + 2) + 2

/-! ### Scalars -/

/-- How a message names a scalar of the wrong kind. -/
def Plain.described : Plain → String
  | .null => "unit value"
  | .bool b => "boolean `" ++ toString b ++ "`"
  | .int i => "integer `" ++ toString i ++ "`"
  | .wide i => "integer `" ++ toString i ++ (if 0 ≤ i then "` as u128" else "` as i128")
  | .float bits => "floating point `" ++ Decimal.plainStyle.render bits ++ "`"
  | .text s => "string " ++ Text.escaped s

/-- The fault of a scalar whose text does not fit its tag. -/
def badScalar (text expected : String) : YamlFault :=
  mismatch ("invalid value: string " ++ Text.escaped text ++ ", expected " ++ expected)

/-- The fault of a value of the wrong kind. -/
def wrongKind (described expected : String) : YamlFault :=
  mismatch ("invalid type: " ++ described ++ ", expected " ++ expected)

/-- What a tag of the core schema makes of a scalar; `none` if the tag is not of that schema. -/
def coreTagged? (tag text : String) : Option (Except YamlFault Plain) :=
  let choose (p : Option Plain) (expected : String) : Option (Except YamlFault Plain) :=
    some (match p with
      | some p => .ok p
      | none => .error (badScalar text expected))
  match tag with
  | "tag:yaml.org,2002:bool" => choose ((boolWord? text).map .bool) "a boolean"
  | "tag:yaml.org,2002:int" => choose (plainInteger? text) "an integer"
  | "tag:yaml.org,2002:float" => choose ((plainFloat? text).map .float) "a float"
  | "tag:yaml.org,2002:null" => choose (if isNullWord text then some .null else none) "null"
  | _ => none

/-- Whether a tag is local to its document. -/
def isLocalTag (tag : String) : Bool := Text.hasStem tag "!"

/-- What a scalar stands for. -/
def resolveScalar (tag : Option Tag) (text : String) (style : Style) : Except YamlFault Plain :=
  let plain := style = .plain
  match tag with
  | none => .ok (if plain then resolvePlain text else .text text)
  | some tag =>
    match coreTagged? tag.text text with
    | some result => result
    | none => .ok (if plain && isLocalTag tag.text then resolvePlain text else .text text)

/-- A scalar as a value. -/
def Value.ofPlain : Plain → Except YamlFault Value
  | .null => .ok .null
  | .bool b => .ok (.bool b)
  | .int i => .ok (.number (.int i))
  | .wide i => .error (wrongKind (Plain.wide i).described "any YAML value")
  | .float bits => .ok (.number (.float bits))
  | .text s => .ok (.string s)

/-- The fault of a node of the wrong kind. -/
def NodeEvent.wrong (e : NodeEvent) (expected : String) : YamlFault :=
  match e with
  | .scalar tag text style =>
    match resolveScalar tag text style with
    | .ok p => wrongKind p.described expected
    | .error f => f
  | .mappingStart _ => wrongKind "map" expected
  | .sequenceStart _ => wrongKind "sequence" expected
  | _ => .endOfStream

/-- How a message names a key that a mapping holds twice. -/
def Value.describedKey : Value → String
  | .null => "with null key"
  | .bool b => "with key `" ++ toString b ++ "`"
  | .number n => "with key " ++ n.text
  | .string s => "with key " ++ Text.escaped s
  | _ => "in YAML map"

/-! ### Values -/

/-- The local tag of a node; one that cannot be read counts as none. -/
def localTag? (tag : Option Tag) : Option String :=
  tag.bind fun t => if t.readable then Text.afterStem? "!" t.text else none

/-- The path name of a key: its text if it is a scalar. -/
def YamlDocument.keyScope (d : YamlDocument) (s : Scope) (k : Cursor) : Scope :=
  match d.events[k.pos]? with
  | some (.scalar _ text _, _) => s.key text
  | _ => s.key "?"

mutual

/-- Read a value. With `bare` a local tag of the node is ignored. -/
def readValue (d : YamlDocument) : Nat → Bool → Scope → Cursor → Except YamlFault (Value × Cursor)
  | 0, _, _, _ => .error .endOfStream
  | fuel + 1, bare, s, k => do
    let (e, m) ← d.at? k
    let next : Cursor := { k with pos := k.pos + 1 }
    let tag? := if bare then none else match e with
      | .scalar tag _ _ | .sequenceStart tag | .mappingStart tag => localTag? tag
      | _ => none
    match tag? with
    | some "" => .error (mismatch "empty YAML tag is not allowed")
    | some tag =>
      let (v, k) ← readValue d fuel true s k
      return (.tagged tag v, k)
    | none =>
      match e with
      | .void => return (.null, next)
      | .reference target =>
        if d.jumpLimit < k.jumps + 1 then .error .tooManyRepeats
        else
          let (v, after) ← located m s (readValue d fuel false s ⟨target, k.jumps + 1⟩)
          return (v, { next with jumps := after.jumps })
      | .scalar tag text style =>
        let tag := if bare then none else tag
        let v ← located m s (resolveScalar tag text style >>= Value.ofPlain)
        return (v, next)
      | .sequenceStart _ =>
        if s.depth = 0 then .error (.tooDeep m)
        else
          let (items, k) ← located m s (readItems d fuel 0 { s with depth := s.depth - 1 } next)
          return (.sequence items, k)
      | .mappingStart _ =>
        if s.depth = 0 then .error (.tooDeep m)
        else
          let (entries, k) ← located m s (readEntries d fuel [] { s with depth := s.depth - 1 } next)
          return (.mapping entries, k)
      | .sequenceEnd | .mappingEnd => .error .endOfStream

/-- Read the items of a sequence up to its end. -/
def readItems (d : YamlDocument) : Nat → Nat → Scope → Cursor → Except YamlFault (List Value × Cursor)
  | 0, _, _, _ => .error .endOfStream
  | fuel + 1, i, s, k => do
    let (e, _) ← d.at? k
    if e = .sequenceEnd || e = .void then return ([], { k with pos := k.pos + 1 })
    let (v, k) ← readValue d fuel false (s.item i) k
    let (vs, k) ← readItems d fuel (i + 1) s k
    return (v :: vs, k)

/-- Read the entries of a mapping up to its end, after those in `seen` (backwards). -/
def readEntries (d : YamlDocument) : Nat → List (Value × Value) → Scope → Cursor →
    Except YamlFault (List (Value × Value) × Cursor)
  | 0, _, _, _ => .error .endOfStream
  | fuel + 1, seen, s, k => do
    let (e, _) ← d.at? k
    if e = .mappingEnd || e = .void then return (seen.reverse, { k with pos := k.pos + 1 })
    let inner := d.keyScope s k
    let (key, k) ← readValue d fuel false s k
    if seen.any fun p => p.1.same key then
      .error (mismatch ("duplicate entry " ++ key.describedKey))
    else
      let (v, k) ← readValue d fuel false inner k
      readEntries d fuel ((key, v) :: seen) s k

end

/-! ### Values of a given shape -/

/-- Read a node, following references. -/
def readThrough {α : Type} (d : YamlDocument)
    (read : NodeEvent → Mark → Scope → Cursor → Except YamlFault (α × Cursor)) :
    Nat → Scope → Cursor → Except YamlFault (α × Cursor)
  | 0, _, _ => .error .endOfStream
  | fuel + 1, s, k => do
    let (e, m) ← d.at? k
    match e with
    | .reference target =>
      if d.jumpLimit < k.jumps + 1 then .error .tooManyRepeats
      else
        let (v, after) ← located m s (readThrough d read fuel s ⟨target, k.jumps + 1⟩)
        return (v, ⟨k.pos + 1, after.jumps⟩)
    | _ => located m s (read e m s k)

/-- Read a scalar as text, whatever it stands for. -/
def readText (d : YamlDocument) (expected : String) (s : Scope) (k : Cursor) :
    Except YamlFault (String × Cursor) :=
  readThrough d (fun e _ _ k => match e with
    | .scalar _ text _ => .ok (text, { k with pos := k.pos + 1 })
    | e => .error (e.wrong expected)) d.stepLimit s k

/-- Whether a node stands for an empty collection: a missing document or a scalar that is not written. -/
def NodeEvent.isAbsent : NodeEvent → Bool
  | .void => true
  | .scalar _ text style => text = "" && style = .plain
  | _ => false

/-- Read the entries of a mapping up to its end. Each key is handed over with what is read so far. -/
def readFieldsRest {σ : Type} (d : YamlDocument) (keyExpected : String)
    (field : String → σ → Scope → Cursor → Except YamlFault (σ × Cursor)) :
    Nat → σ → Scope → Cursor → Except YamlFault (σ × Cursor)
  | 0, _, _, _ => .error .endOfStream
  | fuel + 1, acc, s, k => do
    let (e, _) ← d.at? k
    if e = .mappingEnd || e = .void then return (acc, { k with pos := k.pos + 1 })
    let inner := d.keyScope s k
    let (name, k) ← readText d keyExpected s k
    let (acc, k) ← field name acc inner k
    readFieldsRest d keyExpected field fuel acc s k

/-- Read a mapping with text keys. -/
def readFields {σ : Type} (d : YamlDocument) (expected keyExpected : String) (start : σ)
    (field : String → σ → Scope → Cursor → Except YamlFault (σ × Cursor)) (s : Scope) (k : Cursor) :
    Except YamlFault (σ × Cursor) :=
  readThrough d (fun e m s k =>
    let next : Cursor := { k with pos := k.pos + 1 }
    match e with
    | .mappingStart _ =>
      if s.depth = 0 then .error (.tooDeep m)
      else readFieldsRest d keyExpected field d.stepLimit start { s with depth := s.depth - 1 } next
    | e => if e.isAbsent then .ok (start, next) else .error (e.wrong expected)) d.stepLimit s k

/-- Read a sequence of values. -/
def readSequence (d : YamlDocument) (s : Scope) (k : Cursor) : Except YamlFault (List Value × Cursor) :=
  readThrough d (fun e m s k =>
    let next : Cursor := { k with pos := k.pos + 1 }
    match e with
    | .sequenceStart _ =>
      if s.depth = 0 then .error (.tooDeep m)
      else readItems d d.stepLimit 0 { s with depth := s.depth - 1 } next
    | e => if e.isAbsent then .ok ([], next) else .error (e.wrong "a sequence")) d.stepLimit s k

/-- Skip a node. -/
def skipNode (d : YamlDocument) : Nat → Nat → Cursor → Except YamlFault Cursor
  | 0, _, _ => .error .endOfStream
  | fuel + 1, opened, k => do
    let (e, _) ← d.at? k
    let opened := match e with
      | .sequenceStart _ | .mappingStart _ => opened + 1
      | .sequenceEnd | .mappingEnd => opened - 1
      | _ => opened
    let next : Cursor := { k with pos := k.pos + 1 }
    if opened = 0 then return next else skipNode d fuel opened next

/-- Skip a node. -/
def YamlDocument.skip (d : YamlDocument) (k : Cursor) : Except YamlFault Cursor := skipNode d (d.events.size + 1) 0 k

/-- Read something that may be missing: null in any spelling, or no document. -/
def readOptional {α : Type} (d : YamlDocument) (read : Scope → Cursor → Except YamlFault (α × Cursor)) :
    Nat → Scope → Cursor → Except YamlFault (Option α × Cursor)
  | 0, _, _ => .error .endOfStream
  | fuel + 1, s, k => do
    let (e, _) ← d.at? k
    let next : Cursor := { k with pos := k.pos + 1 }
    let present := do
      let (v, k) ← read s k
      return (some v, k)
    match e with
    | .reference target =>
      if d.jumpLimit < k.jumps + 1 then .error .tooManyRepeats
      else
        let (v, after) ← readOptional d read fuel s ⟨target, k.jumps + 1⟩
        return (v, { next with jumps := after.jumps })
    | .void => return (none, next)
    | .scalar tag text .plain =>
      match tag.map Tag.text with
      | none => if text = "" || isNullWord text then return (none, next) else present
      | some "tag:yaml.org,2002:null" =>
        if isNullWord text then return (none, next) else .error (badScalar text "null")
      | some _ => present
    | _ => present

/-! ### Whole texts -/

/-- Read a document as a whole: faults of its values come before the fault that cut it short. -/
def YamlDocument.read {α : Type} (d : YamlDocument) (read : Scope → Cursor → Except YamlFault (α × Cursor)) :
    Except YamlFault α := do
  let (v, _) ← read {} {}
  match d.fault with
  | some f => .error f
  | none => return v

/-- A document as a value. -/
def YamlDocument.value (d : YamlDocument) : Except YamlFault Value :=
  d.read (readValue d d.stepLimit false)

/-- Read the only document of a text. -/
def readSingle {α : Type} (text : String)
    (read : (d : YamlDocument) → Scope → Cursor → Except YamlFault (α × Cursor)) : Except YamlFault α := do
  match documents text.toList with
  | [] => .error .endOfStream
  | d :: more =>
    let v ← d.read (read d)
    if more.isEmpty then return v else .error .severalDocuments

/-- The value of a text with one document. -/
def Value.ofText (text : String) : Except YamlFault Value :=
  readSingle text fun d => readValue d d.stepLimit false

end PlaybookServer.Yaml

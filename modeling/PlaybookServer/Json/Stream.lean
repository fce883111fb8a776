/-
Module: PlaybookServer.Json.Stream
Purpose: Values of given shapes straight from JSON text, with the place of each fault. A record may be
  written as an object or as an array of its fields; what it does not know is skipped.
Main exports: Reads, readText, readUnsigned32, readOptional, readListOf, readRecord, readWord, ofTextWith
-/
import PlaybookServer.Json.Cursor
import PlaybookServer.Json.Decode

namespace PlaybookServer.Json

/-- Reads a value from a place; `depth` is how many more levels may open. -/
abbrev Reads (α : Type) := (depth : Nat) → Cursor → Except ReadFault (α × Cursor)

/-- Skip blanks before a value. -/
def beforeValue (k : Cursor) : Except ReadFault Cursor :=
  let k := k.skipBlanks
  if k.rest.isEmpty then .error (k.faultAhead eofValue) else .ok k

/-- The fault of a value of the wrong kind. Scalars are read first, so that they can be named. -/
def wrongKindAt (expected : String) (k : Cursor) : ReadFault :=
  let fault (j : Json) (k : Cursor) := k.fault (wrongKind j expected)
  match k.rest with
  | '[' :: _ => fault (.array []) k
  | c :: _ =>
    if c.toNat = 0x7b then fault (.object []) k
    else
      match readValue k with
      | .ok (j, k) => fault j k
      | .error f => f
  | [] => k.faultAhead expectedValue

/-- A text, made into a value by `make`; its messages have no place of their own. -/
def readTextWith {α : Type} (expected : String) (make : String → Except String α) : Reads α :=
  fun _ k => do
    let k ← beforeValue k
    match k.rest with
    | '"' :: rest =>
      let (s, k) ← readString (k.step '"' rest)
      match make s with
      | .ok v => return (v, k)
      | .error message => .error (k.fault message)
    | _ => .error (wrongKindAt expected k)

/-- A text. -/
def readText : Reads String := readTextWith "a string" .ok

/-- A whole number of at most 32 bits. -/
def readUnsigned32 : Reads Nat := fun _ k => do
  let k ← beforeValue k
  let (n, k) ← match k.rest with
    | '-' :: rest => readUnsigned true (k.step '-' rest)
    | c :: _ => if c.isDigit then readUnsigned false k else .error (wrongKindAt "u32" k)
    | [] => .error (k.faultAhead eofValue)
  match n with
  | .int i =>
    if 0 ≤ i && i < 4294967296 then return (i.toNat, k)
    else .error (k.fault ("invalid value: integer `" ++ toString i ++ "`, expected u32"))
  | n => .error (k.fault (wrongKind (.number n) "u32"))

/-- Null or a value. -/
def readOptional {α : Type} (read : Reads α) : Reads (Option α) := fun depth k =>
  let k := k.skipBlanks
  match k.rest with
  | 'n' :: rest => do
    let k ← readIdent ['u', 'l', 'l'] (k.step 'n' rest)
    return (none, k)
  | _ => do
    let (v, k) ← read depth k
    return (some v, k)

/-- Any value. -/
def readAny : Reads Json := fun depth k => readValueWithin (2 * k.rest.length + 2) depth k

/-! ### Skipping -/

/-- Skip the digits of a number. -/
def skipDigits (k : Cursor) : Except ReadFault Cursor :=
  let (ds, after) := spanDigits k
  if ds.isEmpty then .error (k.faultAhead invalidNumber) else .ok after

/-- Skip an exponent whose letter is read. -/
def skipExponent (k : Cursor) : Except ReadFault Cursor :=
  let k := match k.rest with
    | '+' :: rest => k.step '+' rest
    | '-' :: rest => k.step '-' rest
    | _ => k
  match k.rest with
  | c :: _ => if c.isDigit then .ok (spanDigits k).2 else .error (k.faultAhead invalidNumber)
  | [] => .error (k.fault invalidNumber)

/-- Skip a number without its sign. -/
def skipNumber (k : Cursor) : Except ReadFault Cursor := do
  let k ← match k.rest with
    | '0' :: rest =>
      let k := k.step '0' rest
      if k.rest.head?.any Char.isDigit then .error (k.faultAhead invalidNumber) else pure k
    | c :: _ =>
      if c.isDigit then pure (spanDigits k).2 else .error (k.faultAhead invalidNumber)
    | [] => .error (k.fault invalidNumber)
  let k ← match k.rest with
    | '.' :: rest => skipDigits (k.step '.' rest)
    | _ => pure k
  match k.rest with
  | c :: rest => if c = 'e' || c = 'E' then skipExponent (k.step c rest) else pure k
  | [] => pure k

mutual

/-- Skip a value of any depth. -/
def skipWithin : Nat → Cursor → Except ReadFault Cursor
  | 0, k => .error (k.fault eofValue)
  | fuel + 1, k => do
    let k ← beforeValue k
    match k.rest with
    | [] => .error (k.faultAhead eofValue)
    | 'n' :: rest => readIdent ['u', 'l', 'l'] (k.step 'n' rest)
    | 't' :: rest => readIdent ['r', 'u', 'e'] (k.step 't' rest)
    | 'f' :: rest => readIdent ['a', 'l', 's', 'e'] (k.step 'f' rest)
    | '-' :: rest => skipNumber (k.step '-' rest)
    | '"' :: rest =>
      let (_, k) ← readString (k.step '"' rest) true
      return k
    | '[' :: rest =>
      let k := (k.step '[' rest).skipBlanks
      match k.rest with
      | [] => .error (k.faultAhead eofList)
      | ']' :: rest => return k.step ']' rest
      | _ => skipItems fuel k
    | c :: rest =>
      if c.toNat = 0x7b then
        let k := (k.step c rest).skipBlanks
        match k.rest with
        | [] => .error (k.faultAhead eofObject)
        | c :: rest => if c.toNat = 0x7d then return k.step c rest else skipEntries fuel k
      else if c.isDigit then skipNumber k
      else .error (k.faultAhead expectedValue)

/-- Skip the items of an array from the next one on. -/
def skipItems : Nat → Cursor → Except ReadFault Cursor
  | 0, k => .error (k.fault eofList)
  | fuel + 1, k => do
    let k := (← skipWithin fuel k).skipBlanks
    match k.rest with
    | [] => .error (k.faultAhead eofList)
    | ',' :: rest => skipItems fuel (k.step ',' rest)
    | ']' :: rest => return k.step ']' rest
    | _ => .error (k.faultAhead expectedListEnd)

/-- Skip the fields of an object from the next one on. -/
def skipEntries : Nat → Cursor → Except ReadFault Cursor
  | 0, k => .error (k.fault eofObject)
  | fuel + 1, k => do
    let k := k.skipBlanks
    match k.rest with
    | '"' :: rest =>
      let (_, k) ← readString (k.step '"' rest) true
      let k := k.skipBlanks
      match k.rest with
      | ':' :: rest =>
        let k := (← skipWithin fuel (k.step ':' rest)).skipBlanks
        match k.rest with
        | [] => .error (k.faultAhead eofObject)
        | ',' :: rest => skipEntries fuel (k.step ',' rest)
        | c :: rest =>
          if c.toNat = 0x7d then return k.step c rest else .error (k.faultAhead expectedObjectEnd)
      | [] => .error (k.faultAhead eofObject)
      | _ => .error (k.faultAhead expectedColon)
    | [] => .error (k.faultAhead eofObject)
    | _ => .error (k.faultAhead keyMustBeString)

end

/-- Skip a value. -/
def skipValue (k : Cursor) : Except ReadFault Cursor := skipWithin (2 * k.rest.length + 2) k

/-! ### Lists -/

/-- Whether an array goes on, and where its next item starts. -/
def nextItem (first : Bool) (k : Cursor) : Except ReadFault (Bool × Cursor) :=
  let k := k.skipBlanks
  match k.rest with
  | [] => .error (k.faultAhead eofList)
  | ']' :: _ => .ok (false, k)
  | c :: rest =>
    if first then .ok (true, k)
    else if c = ',' then
      let k := (k.step c rest).skipBlanks
      match k.rest with
      | [] => .error (k.faultAhead eofValue)
      | ']' :: _ => .error (k.faultAhead trailingComma)
      | _ => .ok (true, k)
    else .error (k.faultAhead expectedListEnd)

/-- Read the end of an array. -/
def endArray (k : Cursor) : Except ReadFault Cursor :=
  let k := k.skipBlanks
  match k.rest with
  | ']' :: rest => .ok (k.step ']' rest)
  | ',' :: rest =>
    let k := (k.step ',' rest).skipBlanks
    .error (k.faultAhead (if k.rest.head? = some ']' then trailingComma else trailingCharacters))
  | [] => .error (k.faultAhead eofList)
  | _ => .error (k.faultAhead trailingCharacters)

/-- A fault raised inside an array is placed where reading its end leads. -/
def placeInArray (k : Cursor) (message : String) : ReadFault :=
  let k := k.skipBlanks
  match k.rest with
  | ']' :: rest => (k.step ']' rest).fault message
  | ',' :: rest => (k.step ',' rest).skipBlanks.fault message
  | _ => k.fault message

/-- Read the items of an array up to its end. -/
def readItemsOf {α : Type} (read : Reads α) (depth : Nat) :
    Nat → Bool → Cursor → Except ReadFault (List α × Cursor)
  | 0, _, k => .error (k.fault eofList)
  | fuel + 1, first, k => do
    let (more, k) ← nextItem first k
    if !more then return ([], ← endArray k)
    let (v, k) ← read depth k
    let (vs, k) ← readItemsOf read depth fuel false k
    return (v :: vs, k)

/-- A list. -/
def readListOf {α : Type} (read : Reads α) : Reads (List α) := fun depth k => do
  let k ← beforeValue k
  match k.rest with
  | '[' :: rest =>
    if depth ≤ 1 then .error (k.faultAhead recursionLimit)
    else readItemsOf read (depth - 1) (k.rest.length + 1) true (k.step '[' rest)
  | _ => .error (wrongKindAt "a sequence" k)

/-! ### Records -/

/-- A field of a record: its name and how its value is read into the record. -/
structure RecordField (σ : Type) where
  name : String
  presence : Presence
  read : σ → Reads σ

/-- A field from a reader and a setter. -/
def RecordField.of {σ α : Type} (name : String) (presence : Presence) (read : Reads α) (set : σ → α → σ) :
    RecordField σ :=
  ⟨name, presence, fun r depth k => do
    let (v, k) ← read depth k
    return (set r v, k)⟩

/-- A fault raised inside an object is placed where reading its end leads. -/
def placeInObject (k : Cursor) (message : String) : ReadFault :=
  let k := k.skipBlanks
  match k.rest with
  | c :: rest => if c.toNat = 0x7d then (k.step c rest).fault message else k.fault message
  | [] => k.fault message

/-- Whether an object goes on, and where its next name starts. -/
def nextName (first : Bool) (k : Cursor) : Except ReadFault (Bool × Cursor) :=
  let k := k.skipBlanks
  match k.rest with
  | [] => .error (k.faultAhead eofObject)
  | c :: rest =>
    if c.toNat = 0x7d then .ok (false, k)
    else if first then
      if c = '"' then .ok (true, k) else .error (k.faultAhead keyMustBeString)
    else if c = ',' then
      let k := (k.step c rest).skipBlanks
      match k.rest with
      | [] => .error (k.faultAhead eofValue)
      | '"' :: _ => .ok (true, k)
      | c :: _ => .error (k.faultAhead (if c.toNat = 0x7d then trailingComma else keyMustBeString))
    else .error (k.faultAhead expectedObjectEnd)

/-- Read the colon after a name. -/
def readColon (k : Cursor) : Except ReadFault Cursor :=
  let k := k.skipBlanks
  match k.rest with
  | ':' :: rest => .ok (k.step ':' rest)
  | [] => .error (k.faultAhead eofObject)
  | _ => .error (k.faultAhead expectedColon)

/-- Read the fields of an object up to its end. `seen` are the names of known fields so far. -/
def readObjectFields {σ : Type} (fields : List (RecordField σ)) (depth : Nat) :
    Nat → Bool → List String → σ → Cursor → Except ReadFault (σ × Cursor)
  | 0, _, _, _, k => .error (k.fault eofObject)
  | fuel + 1, first, seen, r, k => do
    let (more, k) ← nextName first k
    if !more then
      match fields.find? fun f => f.presence = .required && !seen.contains f.name with
      | some f => .error (placeInObject k ("missing field `" ++ f.name ++ "`"))
      | none => return (r, k.advance)
    else
      let (name, k) ← readString k.advance
      match fields.find? fun f => f.name = name with
      | none =>
        let k ← skipValue (← readColon k)
        readObjectFields fields depth fuel false seen r k
      | some f =>
        if seen.contains name then .error (placeInObject k ("duplicate field `" ++ name ++ "`"))
        else
          let (r, k) ← f.read r depth (← readColon k)
          readObjectFields fields depth fuel false (name :: seen) r k

/-- Read the fields of an array in their order. -/
def readArrayFields {σ : Type} (expected : String) (depth : Nat) :
    List (RecordField σ) → Nat → σ → Cursor → Except ReadFault (σ × Cursor)
  | [], _, r, k => do return (r, ← endArray k)
  | f :: fs, i, r, k => do
    let (more, k) ← nextItem (i = 0) k
    if more then
      let (r, k) ← f.read r depth k
      readArrayFields expected depth fs (i + 1) r k
    else if f.presence = .defaulted then readArrayFields expected depth fs (i + 1) r k
    else .error (placeInArray k ("invalid length " ++ toString i ++ ", expected " ++ expected))

/-- A record. -/
def readRecord {σ : Type} (name : String) (fields : List (RecordField σ)) (start : σ) : Reads σ :=
  fun depth k => do
    let k ← beforeValue k
    let what := "struct " ++ name
    let count := elementCount fields.length
    match k.rest with
    | '[' :: rest =>
      if depth ≤ 1 then .error (k.faultAhead recursionLimit)
      else readArrayFields (what ++ " with " ++ count) (depth - 1) fields 0 start (k.step '[' rest)
    | c :: rest =>
      if c.toNat = 0x7b then
        if depth ≤ 1 then .error (k.faultAhead recursionLimit)
        else readObjectFields fields (depth - 1) (k.rest.length + 1) true [] start (k.step c rest)
      else .error (wrongKindAt what k)
    | [] => .error (k.faultAhead eofValue)

/-! ### Choices -/

/-- One of several words. -/
def pickWord {α : Type} (options : List (String × α)) (word : String) : Except String α :=
  match options.lookup word with
  | some v => .ok v
  | none => .error ("unknown variant `" ++ word ++ "`, expected " ++ listedWords (options.map Prod.fst))

/-- One of several words, as text or as the only field of an object with a null. -/
def readWord {α : Type} (options : List (String × α)) : Reads α := fun depth k => do
  let word : Reads α := readTextWith "variant identifier" (pickWord options)
  let k ← beforeValue k
  match k.rest with
  | '"' :: _ => word depth k
  | c :: rest =>
    if c.toNat = 0x7b then
      if depth ≤ 1 then .error (k.faultAhead recursionLimit)
      else
        let (v, k) ← word (depth - 1) (k.step c rest)
        let k ← beforeValue (← readColon k)
        let k ← match k.rest with
          | 'n' :: rest => readIdent ['u', 'l', 'l'] (k.step 'n' rest)
          | _ => .error (wrongKindAt "unit" k)
        let k := k.skipBlanks
        match k.rest with
        | [] => .error (k.fault eofObject)
        | c :: rest => if c.toNat = 0x7d then return (v, k.step c rest) else .error (k.fault expectedValue)
    else .error (k.faultAhead expectedValue)
  | [] => .error (k.faultAhead eofValue)

/-- Read a whole text as one value of a shape. -/
def ofTextWith {α : Type} (read : Reads α) (text : String) : Except ReadFault α := do
  let (v, k) ← read depthLimit (Cursor.ofText text.toList)
  readEnd k
  return v

end PlaybookServer.Json

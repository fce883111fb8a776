/-
Module: PlaybookServer.Json.Cursor
Purpose: Reading JSON text from left to right with exact fault positions. A cursor knows the text still
  to come and the line and byte column it has reached. Faults name what is wrong and where; a fault
  raised by a consumer of values has no place until the reader gives it one.
Main exports: Cursor, ReadFault, readIdent, readString, readNumber, readValue, skipValue
-/
import PlaybookServer.Json.Value
import PlaybookServer.Document.Scalar

namespace PlaybookServer.Json

/-- A place in a JSON text. -/
structure Cursor where
  rest : List Char
  line : Nat := 1
  /-- Bytes of the current line that are read. -/
  col : Nat := 0
deriving Repr, Inhabited

/-- A fault with its place; line 0 means the place is not known yet. -/
structure ReadFault where
  message : String
  line : Nat := 0
  col : Nat := 0
deriving DecidableEq, Repr, Inhabited

/-- The text of a fault. -/
def ReadFault.text (f : ReadFault) : String :=
  if f.line = 0 then f.message
  else f.message ++ " at line " ++ toString f.line ++ " column " ++ toString f.col

namespace Cursor

/-- Start of a text. -/
def ofText (text : List Char) : Cursor := { rest := text }

/-- The cursor after a character. -/
def step (k : Cursor) (c : Char) (rest : List Char) : Cursor :=
  if c = '\n' then { rest, line := k.line + 1, col := 0 }
  else { rest, line := k.line, col := k.col + c.utf8Size }

/-- Skip one character. -/
def advance (k : Cursor) : Cursor :=
  match k.rest with
  | [] => k
  | c :: rest => k.step c rest

/-- A fault at the place reached. -/
def fault (k : Cursor) (message : String) : ReadFault := ⟨message, k.line, k.col⟩

/-- A fault one byte ahead. -/
def faultAhead (k : Cursor) (message : String) : ReadFault :=
  match k.rest with
  | [] => k.fault message
  | c :: _ => if c = '\n' then ⟨message, k.line + 1, 0⟩ else ⟨message, k.line, k.col + 1⟩

/-- Give a fault without a place this one. -/
def place (k : Cursor) (f : ReadFault) : ReadFault := if f.line = 0 then k.fault f.message else f

/-- Skip blanks, line by line. -/
def skipBlanks (k : Cursor) : Cursor :=
  go k.rest k
where
  /-- Recursion on the text ahead. -/
  go : List Char → Cursor → Cursor
    | [], k => k
    | c :: rest, k =>
      if c = ' ' || c = '\n' || c = '\t' || c = '\r' then go rest (k.step c rest) else k

end Cursor

/-! ### Texts of faults -/

def eofValue : String := "EOF while parsing a value"
def eofList : String := "EOF while parsing a list"
def eofObject : String := "EOF while parsing an object"
def eofString : String := "EOF while parsing a string"
def expectedValue : String := "expected value"
def expectedIdent : String := "expected ident"
def expectedColon : String := "expected `:`"
def expectedListEnd : String := "expected `,` or `]`"
def expectedObjectEnd : String := "expected `,` or `\x7d`"
def keyMustBeString : String := "key must be a string"
def invalidNumber : String := "invalid number"
def numberOutOfRange : String := "number out of range"
def invalidEscape : String := "invalid escape"
def loneSurrogate : String := "lone leading surrogate in hex escape"
def endOfHexEscape : String := "unexpected end of hex escape"
def controlCharacter : String := "control character (\\u0000-\\u001F) found while parsing a string"
def trailingComma : String := "trailing comma"
def trailingCharacters : String := "trailing characters"
def recursionLimit : String := "recursion limit exceeded"

/-! ### Scalars -/

/-- Read the rest of a word such as `null`. -/
def readIdent : List Char → Cursor → Except ReadFault Cursor
  | [], k => .ok k
  | e :: es, k =>
    match k.rest with
    | [] => .error (k.fault eofValue)
    | c :: rest =>
      if c = e then readIdent es (k.step c rest) else .error (k.faultAhead expectedIdent)

/-- The place some bytes ahead, whatever characters they belong to; `none` if the text ends before. -/
def Cursor.bytesAhead? (k : Cursor) : Nat → Option Cursor
  | 0 => some k
  | n + 1 => go (n + 1) k.rest k
where
  /-- Recursion on the text ahead, with the bytes still to pass. -/
  go : Nat → List Char → Cursor → Option Cursor
    | 0, _, k => some k
    | _ + 1, [], _ => none
    | n + 1, c :: rest, k =>
      if n + 1 < c.utf8Size then some { k with rest, col := k.col + (n + 1) }
      else go (n + 1 - c.utf8Size) rest (k.step c rest)

/-- Read four hexadecimal digits. Four bytes are taken before they are looked at. -/
def readHex4 (k : Cursor) : Except ReadFault (Nat × Cursor) :=
  match k.bytesAhead? 4 with
  | none => .error ((k.rest.foldl (fun k c => k.step c []) k).fault eofString)
  | some after =>
    match Scalar.hexDigits? (k.rest.take 4) with
    | some n => .ok (n, after)
    | none => .error (after.fault invalidEscape)

/-- A surrogate pair as one character. -/
def joinSurrogates (high low : Nat) : Char := Char.ofNat (0x10000 + (high - 0xD800) * 0x400 + (low - 0xDC00))

/-- Read the second half of a surrogate pair. -/
def readLowSurrogate (high : Nat) (k : Cursor) : Except ReadFault (Char × Cursor) :=
  match k.rest with
  | [] => .error (k.fault eofString)
  | c :: rest =>
    if c ≠ '\\' then .error (k.faultAhead endOfHexEscape)
    else
      let k := k.step c rest
      match k.rest with
      | [] => .error (k.fault eofString)
      | c :: rest =>
        if c ≠ 'u' then .error (k.faultAhead endOfHexEscape)
        else do
          let (low, k) ← readHex4 (k.step c rest)
          if low < 0xDC00 || 0xDFFF < low then .error (k.fault loneSurrogate)
          else .ok (joinSurrogates high low, k)

/-- Read what follows a backslash. With `lenient`, the value of a hexadecimal escape does not matter. -/
def readEscape (lenient : Bool) (k : Cursor) : Except ReadFault (Char × Cursor) :=
  match k.rest with
  | [] => .error (k.fault eofString)
  | c :: rest =>
    let after := k.step c rest
    match c with
    | '"' => .ok ('"', after)
    | '\\' => .ok ('\\', after)
    | '/' => .ok ('/', after)
    | 'b' => .ok ('\x08', after)
    | 'f' => .ok ('\x0c', after)
    | 'n' => .ok ('\n', after)
    | 'r' => .ok ('\r', after)
    | 't' => .ok ('\t', after)
    | 'u' => do
      let (n, k) ← readHex4 after
      if lenient then .ok (' ', k)
      else if 0xDC00 ≤ n && n ≤ 0xDFFF then .error (k.fault loneSurrogate)
      else if 0xD800 ≤ n && n ≤ 0xDBFF then readLowSurrogate n k
      else .ok (Char.ofNat n, k)
    | _ => .error (k.faultAhead invalidEscape)

/-- Read a string whose opening quote is read. `acc` holds its characters backwards. A control character is
    at fault after it is read, or before it in a `lenient` string, which is only passed over. -/
def readStringRest (lenient : Bool) : Nat → Cursor → List Char → Except ReadFault (String × Cursor)
  | 0, k, _ => .error (k.fault eofString)
  | fuel + 1, k, acc =>
    match k.rest with
    | [] => .error (k.fault eofString)
    | c :: rest =>
      let after := k.step c rest
      if c = '"' then .ok (String.ofList acc.reverse, after)
      else if c = '\\' then do
        let (e, k) ← readEscape lenient after
        readStringRest lenient fuel k (e :: acc)
      else if c.toNat < 0x20 then
        .error (if lenient then k.fault controlCharacter else after.fault controlCharacter)
      else readStringRest lenient fuel after (c :: acc)

/-- Read a string whose opening quote is read. -/
def readString (k : Cursor) (lenient : Bool := false) : Except ReadFault (String × Cursor) :=
  readStringRest lenient (k.rest.length + 1) k []

/-- Digits ahead. -/
def spanDigits (k : Cursor) : List Char × Cursor :=
  go k.rest k []
where
  /-- Recursion on the text ahead. -/
  go : List Char → Cursor → List Char → List Char × Cursor
    | [], k, acc => (acc.reverse, k)
    | c :: rest, k, acc =>
      if c.isDigit then go rest (k.step c rest) (c :: acc) else (acc.reverse, k)

/-- Scale a significand by a power of ten in double arithmetic; `none` on overflow. The exponent is
    applied in one step where the power is itself a double. -/
def scaleFloat : Nat → Float → Int → Option Float
  | 0, f, _ => some f
  | fuel + 1, f, e =>
    let pow := Float.ofScientific 1 false e.natAbs
    if e.natAbs ≤ 308 then
      if 0 ≤ e then
        let g := f * pow
        if g.isInf then none else some g
      else some (f / pow)
    else if f == 0.0 then some f
    else if 0 ≤ e then none
    else scaleFloat fuel (f / Float.ofScientific 1 false 308) (e + 308)

/-- Lengthen a significand by digits while it fits a 64-bit word: the result and the digits left over. -/
def extendSignificand : Nat → List Char → Nat × List Char
  | n, [] => (n, [])
  | n, c :: cs =>
    let m := n * 10 + (c.toNat - '0'.toNat)
    if m < 18446744073709551616 then extendSignificand m cs else (n, c :: cs)

/-- The digits of a number before its exponent: what they say as a 64-bit significand and a power of ten.
    Left-over whole digits raise the power, decimals that count lower it. -/
def significand (whole decimals : List Char) : Nat × Int :=
  let (n, overWhole) := extendSignificand 0 whole
  let (n, overDecimals) := extendSignificand n decimals
  (n, overWhole.length - (decimals.length - overDecimals.length))

/-- The largest exponent that is read to its end. -/
def exponentLimit : Nat := 2147483647

/-- Read the digits of an exponent on to a value; `none` once it is beyond the limit, at the digit that
    takes it there. -/
def readExponentDigits (n : Nat) (k : Cursor) : Option Nat × Cursor :=
  go k.rest k n
where
  /-- Recursion on the text ahead. -/
  go : List Char → Cursor → Nat → Option Nat × Cursor
    | [], k, n => (some n, k)
    | c :: rest, k, n =>
      if c.isDigit then
        let m := n * 10 + (c.toNat - '0'.toNat)
        if exponentLimit < m then (none, k.step c rest) else go rest (k.step c rest) m
      else (some n, k)

/-- Read the exponent after its letter; `none` for one so far down, or of so small a number, that the
    result is zero. -/
def readExponent (isZero : Bool) (k : Cursor) : Except ReadFault (Option Int × Cursor) := do
  let (negative, k) := match k.rest with
    | '+' :: rest => (false, k.step '+' rest)
    | '-' :: rest => (true, k.step '-' rest)
    | _ => (false, k)
  match k.rest with
  | [] => .error (k.fault eofValue)
  | c :: _ =>
    if c.isDigit then
      match readExponentDigits 0 k with
      | (some n, k) => .ok (some (if negative then -(n : Int) else n), k)
      | (none, k) =>
        if isZero || negative then .ok (none, (spanDigits k).2) else .error (k.fault numberOutOfRange)
    else .error (k.faultAhead invalidNumber)

/-- Read a number, without its sign. -/
def readUnsigned (negative : Bool) (k : Cursor) : Except ReadFault (Number × Cursor) := do
  match k.rest with
  | [] => .error (k.fault eofValue)
  | c :: rest =>
    if !c.isDigit then .error (k.faultAhead invalidNumber)
    else
      let (whole, k) ←
        if c = '0' then
          let k := k.step c rest
          match k.rest with
          | d :: _ => if d.isDigit then .error (k.faultAhead invalidNumber) else .ok (['0'], k)
          | [] => .ok (['0'], k)
        else .ok (spanDigits k)
      let (decimals, hasPoint, k) ← match k.rest with
        | '.' :: rest =>
          let k := k.step '.' rest
          let (ds, after) := spanDigits k
          if ds.isEmpty then
            .error (k.faultAhead (if k.rest.isEmpty then eofValue else invalidNumber))
          else .ok (ds, true, after)
        | _ => .ok ([], false, k)
      let (n, power) := significand whole decimals
      let signed (f : Float) : Number := .float (if negative then -f else f).toBits
      let scaled (e : Int) (k : Cursor) : Except ReadFault (Number × Cursor) :=
        match scaleFloat 1000 n.toFloat (power + e) with
        | some f => .ok (signed f, k)
        | none => .error (k.fault numberOutOfRange)
      let plain : Except ReadFault (Number × Cursor) :=
        if hasPoint || power ≠ 0 then scaled 0 k
        else if !negative then .ok (.int n, k)
        else if 0 < n && n ≤ 9223372036854775808 then .ok (.int (-(n : Int)), k)
        else scaled 0 k
      match k.rest with
      | c :: rest =>
        if c = 'e' || c = 'E' then
          match ← readExponent (n = 0) (k.step c rest) with
          | (some e, k) => scaled e k
          | (none, k) => .ok (signed 0.0, k)
        else plain
      | [] => plain

/-! ### Values -/

/-- Add a field; a later field replaces an earlier one of the same name. -/
def addField (name : String) (value : Json) (fields : List (String × Json)) : List (String × Json) :=
  setField name value fields

mutual

/-- Read a value. `depth` is how many more levels may open. -/
def readValueWithin : Nat → Nat → Cursor → Except ReadFault (Json × Cursor)
  | 0, _, k => .error (k.fault eofValue)
  | fuel + 1, depth, k => do
    let k := k.skipBlanks
    match k.rest with
    | [] => .error (k.faultAhead eofValue)
    | 'n' :: rest => return (.null, ← readIdent ['u', 'l', 'l'] (k.step 'n' rest))
    | 't' :: rest => return (.bool true, ← readIdent ['r', 'u', 'e'] (k.step 't' rest))
    | 'f' :: rest => return (.bool false, ← readIdent ['a', 'l', 's', 'e'] (k.step 'f' rest))
    | '-' :: rest =>
      let (n, k) ← readUnsigned true (k.step '-' rest)
      return (.number n, k)
    | '"' :: rest =>
      let (s, k) ← readString (k.step '"' rest)
      return (.string s, k)
    | '[' :: rest =>
      if depth ≤ 1 then .error (k.faultAhead recursionLimit)
      else
        let (items, k) ← readItems fuel (depth - 1) true (k.step '[' rest)
        return (.array items, k)
    | c :: rest =>
      if c.toNat = 0x7b then
        if depth ≤ 1 then .error (k.faultAhead recursionLimit)
        else
          let (fields, k) ← readFields fuel (depth - 1) true [] (k.step c rest)
          return (.object fields, k)
      else if c.isDigit then
        let (n, k) ← readUnsigned false k
        return (.number n, k)
      else .error (k.faultAhead expectedValue)

/-- Read the items of an array up to its end. -/
def readItems : Nat → Nat → Bool → Cursor → Except ReadFault ((List Json) × Cursor)
  | 0, _, _, k => .error (k.fault eofList)
  | fuel + 1, depth, first, k => do
    let k := k.skipBlanks
    match k.rest with
    | [] => .error (k.faultAhead eofList)
    | ']' :: rest => return ([], k.step ']' rest)
    | c :: rest =>
      let k ←
        if first then pure k
        else if c = ',' then
          let k := (k.step c rest).skipBlanks
          match k.rest with
          | [] => .error (k.faultAhead eofValue)
          | ']' :: _ => .error (k.faultAhead trailingComma)
          | _ => pure k
        else .error (k.faultAhead expectedListEnd)
      let (item, k) ← readValueWithin fuel depth k
      let (items, k) ← readItems fuel depth false k
      return (item :: items, k)

/-- Read the fields of an object up to its end. -/
def readFields : Nat → Nat → Bool → List (String × Json) → Cursor → Except ReadFault ((List (String × Json)) × Cursor)
  | 0, _, _, _, k => .error (k.fault eofObject)
  | fuel + 1, depth, first, fields, k => do
    let k := k.skipBlanks
    match k.rest with
    | [] => .error (k.faultAhead eofObject)
    | c :: rest =>
      if c.toNat = 0x7d then return (fields, k.step c rest)
      else
        let k ←
          if first then pure k
          else if c = ',' then pure (k.step c rest).skipBlanks
          else .error (k.faultAhead expectedObjectEnd)
        match k.rest with
        | [] => .error (k.faultAhead eofValue)
        | '"' :: rest =>
          let (name, k) ← readString (k.step '"' rest)
          let k := k.skipBlanks
          match k.rest with
          | [] => .error (k.faultAhead eofObject)
          | ':' :: rest =>
            let (value, k) ← readValueWithin fuel depth (k.step ':' rest)
            readFields fuel depth false (addField name value fields) k
          | _ => .error (k.faultAhead expectedColon)
        | c :: _ =>
          .error (k.faultAhead (if c.toNat = 0x7d then trailingComma else keyMustBeString))

end

/-- How many levels a value may open. -/
def depthLimit : Nat := 128

/-- Read a value. -/
def readValue (k : Cursor) : Except ReadFault (Json × Cursor) := readValueWithin (2 * k.rest.length + 2) depthLimit k

/-- Nothing but blanks may follow. -/
def readEnd (k : Cursor) : Except ReadFault Unit :=
  let k := k.skipBlanks
  if k.rest.isEmpty then .ok () else .error (k.faultAhead trailingCharacters)

/-- Read a whole text as one value. -/
def ofText (text : String) : Except ReadFault Json := do
  let (value, k) ← readValue (Cursor.ofText text.toList)
  readEnd k
  return value

end PlaybookServer.Json

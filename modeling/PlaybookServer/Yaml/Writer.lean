/-
Module: PlaybookServer.Yaml.Writer
Purpose: YAML text of values in block style. A scalar is written plain where it reads back as the same
  text, else in the least quoting that holds it; text with line feeds becomes a literal block. A `Pen`
  knows the column reached and whether only indicators stand on its row, which decides where the next
  collection starts. A key that is long, a collection with content or of several rows is marked with a
  question mark.
Main exports: Pen, ScalarStyle, Value.write, Value.isWritable, Value.text?
-/
import PlaybookServer.Yaml.Mark
import PlaybookServer.Yaml.Value
import PlaybookServer.Text.Bytes
import PlaybookServer.Text.Lines

namespace PlaybookServer.Yaml

open Text

/-- Whether plain text would read back as something else. -/
def needsQuotes (s : String) : Bool :=
  isZeroPadded s.toList || resolvePlain s ≠ .text s

/-- Characters that can be written as they are. -/
def isPrintable (c : Char) : Bool :=
  c.toNat = 0xA || (isAllowed c && !isOrderMark c && c.toNat ≠ 0x9 && c.toNat ≠ 0xD && c.toNat ≠ 0x85)

/-- Indicators that cannot start plain text. -/
def startsIndicator (c : Char) (rest : List Char) : Bool :=
  ['#', ',', '[', ']', '&', '*', '!', '|', '>', '\'', '"', '%', '@'].contains c
  || c.toNat = 0x7b || c.toNat = 0x7d || c.toNat = 0x60
  || ((c = '?' || c = ':' || c = '-') && endsWord rest)

/-- Whether an indicator inside plain text would end it. -/
def holdsIndicator : Char → List Char → Bool
  | _, [] => false
  | before, c :: rest =>
    (c = ':' && endsWord rest) || (c = '#' && isGapOrBreak before) || holdsIndicator c rest

/-- Whether a space stands next to a line break in the given order. -/
def hasNeighbours (first second : Char → Bool) : List Char → Bool
  | a :: b :: rest => (first a && second b) || hasNeighbours first second (b :: rest)
  | _ => false

/-- Whether text can be written plain in a block. -/
def isPlainable (cs : List Char) : Bool :=
  match cs with
  | [] => false
  | c :: rest =>
    let edge := fun (d : Char) => d = ' ' || isBreak d
    !(edge c) && !(cs.getLast?.any edge) && cs.all isPrintable && !cs.any isBreak
    && !startsIndicator c rest && !holdsIndicator c rest
    && !(startsWith cs ['-', '-', '-'] || startsWith cs ['.', '.', '.'])

/-- Whether text can be written in single quotes. -/
def isSingleQuotable (cs : List Char) : Bool :=
  cs.all isPrintable && !hasNeighbours (· = ' ') isBreak cs && !hasNeighbours isBreak (· = ' ') cs

/-- Whether text can be written as a literal block. -/
def isLiteralable (cs : List Char) : Bool :=
  cs.all isPrintable && !hasNeighbours (· = ' ') isBreak cs && cs.getLast? ≠ some ' '

/-! ### The pen -/

/-- Where writing has come to. -/
structure Pen where
  /-- What is written, last character first. -/
  written : List Char := []
  column : Nat := 0
  /-- No blank is needed before the next word. -/
  blank : Bool := true
  /-- Only indentation and indicators stand on the row. -/
  fresh : Bool := true
deriving Inhabited

namespace Pen

/-- Write a character. -/
def put (p : Pen) (c : Char) : Pen := { p with written := c :: p.written, column := p.column + 1 }

/-- Write characters. -/
def putAll (p : Pen) (cs : List Char) : Pen := cs.foldl put p

/-- End the row. -/
def putBreak (p : Pen) : Pen := { p with written := '\n' :: p.written, column := 0 }

/-- End the row with the line break of a text. -/
def copyBreak (p : Pen) (c : Char) : Pen := { p with written := c :: p.written, column := 0 }

/-- A blank, unless none is needed. -/
def space (p : Pen) : Pen := if p.blank then p else p.put ' '

/-- What follows a written word. -/
def word (p : Pen) : Pen := { p with blank := false, fresh := false }

/-- Write an indicator that needs a blank before it and keeps the row fresh. -/
def opener (p : Pen) (c : Char) : Pen := { p.space.put c with blank := false }

/-- Go to a column: on this row if only indicators stand on it and it is not too long, else below. -/
def indentTo (p : Pen) (column : Nat) : Pen :=
  let p := if !p.fresh || column < p.column || (p.column = column && !p.blank) then p.putBreak else p
  { p.putAll (List.replicate (column - p.column) ' ') with blank := true, fresh := true }

/-- The text written. -/
def text (p : Pen) : String := String.ofList p.written.reverse

end Pen

/-! ### Scalars -/

/-- How a scalar is written. -/
inductive ScalarStyle where
  | plain
  | single
  | double
  | literal
deriving DecidableEq, Repr, Inhabited

/-- The style of a text: a literal block for several lines, plain where that reads back, else the
    least quoting that holds it. -/
def ScalarStyle.ofText (s : String) : ScalarStyle :=
  let cs := s.toList
  if cs.contains '\n' then (if isLiteralable cs then .literal else .double)
  else if !needsQuotes s && isPlainable cs then .plain
  else if isSingleQuotable cs then .single
  else .double

/-- Hexadecimal digits of a fixed width. -/
def hexText (width n : Nat) : List Char :=
  let ds := (Nat.toDigits 16 n).map Char.toUpper
  List.replicate (width - ds.length) '0' ++ ds

/-- A character inside double quotes. -/
def quotedChar (c : Char) : List Char :=
  match c.toNat with
  | 0x0 => ['\\', '0']
  | 0x7 => ['\\', 'a']
  | 0x8 => ['\\', 'b']
  | 0x9 => ['\\', 't']
  | 0xA => ['\\', 'n']
  | 0xB => ['\\', 'v']
  | 0xC => ['\\', 'f']
  | 0xD => ['\\', 'r']
  | 0x1B => ['\\', 'e']
  | 0x22 => ['\\', '"']
  | 0x5C => ['\\', '\\']
  | 0x85 => ['\\', 'N']
  | 0xA0 => if isPrintable c then [c] else ['\\', '_']
  | 0x2028 => ['\\', 'L']
  | 0x2029 => ['\\', 'P']
  | n =>
    if isPrintable c then [c]
    else if n ≤ 0xFF then ['\\', 'x'] ++ hexText 2 n
    else if n ≤ 0xFFFF then ['\\', 'u'] ++ hexText 4 n
    else ['\\', 'U'] ++ hexText 8 n

/-- The mark of a literal block: how its start and its last line breaks are kept. -/
def literalMark (cs : List Char) : List Char :=
  let indent := if cs.head?.any fun c => c = ' ' || isBreak c then ['2'] else []
  let chomp := match cs.reverse with
    | [] => ['-']
    | c :: before =>
      if !isBreak c then ['-']
      else match before with
        | [] => ['+']
        | d :: _ => if isBreak d then ['+'] else []
  '|' :: indent ++ chomp

/-- Write the rows of a text at a column. A row is indented when its first character comes. -/
def writeRows (column : Nat) (form : Char → List Char) (p : Pen) (cs : List Char) : Pen × Bool :=
  cs.foldl (fun (p, below) c =>
    if isBreak c then ({ p.copyBreak c with fresh := true }, true)
    else
      let p := if below then p.indentTo column else p
      ({ p.putAll (form c) with fresh := false }, false)) (p, false)

/-- Write text in single quotes. -/
def writeSingle (column : Nat) (p : Pen) (cs : List Char) : Pen :=
  let (p, below) := writeRows column (fun c => if c = '\'' then ['\'', '\''] else [c])
    ({ p.space.put '\'' with blank := false, fresh := false }) cs
  ((if below then p.indentTo column else p).put '\'').word

/-- Write a literal block. -/
def writeLiteral (column : Nat) (p : Pen) (cs : List Char) : Pen :=
  let p := (p.space.putAll (literalMark cs)).putBreak
  match cs with
  | [] => p
  | _ =>
    let begun := { p with blank := true, fresh := true }
    let first := match cs.head? with
      | some c => if isBreak c then begun else begun.indentTo column
      | none => begun
    (writeRows column (fun c => [c]) first cs).1

/-- Write a scalar in a style. The column is where its further rows stand. -/
def writeScalar (column : Nat) (p : Pen) (style : ScalarStyle) (cs : List Char) : Pen :=
  match style with
  | .plain => (p.space.putAll cs).word
  | .single => writeSingle column p cs
  | .double => (((p.space.put '"').putAll (cs.flatMap quotedChar)).put '"').word
  | .literal => writeLiteral column p cs

/-! ### Tags -/

/-- Characters of a tag that are written as they are. -/
def isTagLetter (c : Char) : Bool :=
  isNameChar c || [';', '/', '?', ':', '@', '&', '=', '+', '$', ',', '.', '!', '~', '*', '\'', '(', ')',
    '[', ']'].contains c

/-- The text of a tag; other characters are written as percent escapes of their bytes. -/
def tagText (tag : String) : List Char :=
  let escaped := fun (cs : List Char) => cs.flatMap fun c =>
    if isTagLetter c then [c]
    else (encodeChar c).flatMap fun b => '%' :: hexText 2 b
  match tag.toList with
  | ['!'] => ['!', '<', '!', '>']
  | '!' :: cs => '!' :: escaped cs
  | cs => '!' :: escaped cs

/-- Write a tag, if there is one. -/
def Pen.tag (p : Pen) : Option String → Pen
  | none => p
  | some tag => (p.space.putAll (tagText tag)).word

/-! ### Values -/

/-- How much one level of a collection is indented. -/
def step : Nat := 2

/-- The column of the rows under a scalar. -/
def underScalar : Option Nat → Nat
  | none => step
  | some n => n + step

/-- The longest key, in bytes and with its tag, that goes without a question mark. -/
def longestKey : Nat := 128

/-- The text of a value that is a scalar. -/
def Value.scalar? : Value → Option (ScalarStyle × String)
  | .null => some (.plain, "null")
  | .bool b => some (.plain, toString b)
  | .number n => some (.plain, n.text)
  | .string s => some (ScalarStyle.ofText s, s)
  | _ => none

/-- Whether a value is a key that goes without a question mark. -/
def Value.isSimpleKey (tagBytes : Nat) : Value → Bool
  | .sequence xs => xs.isEmpty && tagBytes ≤ longestKey
  | .mapping es => es.isEmpty && tagBytes ≤ longestKey
  | .tagged tag v =>
    v.isSimpleKey (tagBytes + if tag = "!" then 1 else tag.utf8ByteSize + 1)
  | v =>
    match v.scalar? with
    | some (_, s) => !s.toList.any isBreak && tagBytes + s.utf8ByteSize ≤ longestKey
    | none => false

mutual

/-- Write a value. `indent` is the column of the collection around it and `entry` says whether that is
    a mapping: a sequence that starts on a row of its own is not indented further there. -/
def Value.write (indent : Option Nat) (entry : Bool) (tag : Option String) : Value → Pen → Pen
  | .tagged t v, p => v.write indent entry (some t) p
  | .sequence [], p => ((p.tag tag).space.putAll ['[', ']']).word
  | .mapping [], p => ((p.tag tag).space.putAll ['\x7b', '\x7d']).word
  | .sequence (v :: vs), p =>
    let p := p.tag tag
    let column := match indent with
      | none => 0
      | some n => if entry && !p.fresh then n else n + step
    writeItems column (v :: vs) p
  | .mapping (e :: es), p =>
    let column := match indent with
      | none => 0
      | some n => n + step
    writeEntries column (e :: es) (p.tag tag)
  | .null, p => writeScalar (underScalar indent) (p.tag tag) .plain "null".toList
  | .bool b, p => writeScalar (underScalar indent) (p.tag tag) .plain (toString b).toList
  | .number n, p => writeScalar (underScalar indent) (p.tag tag) .plain n.text.toList
  | .string s, p => writeScalar (underScalar indent) (p.tag tag) (ScalarStyle.ofText s) s.toList

/-- Write the items of a sequence. -/
def writeItems (column : Nat) : List Value → Pen → Pen
  | [], p => p
  | v :: vs, p =>
    writeItems column vs (v.write (some column) false none ((p.indentTo column).opener '-'))

/-- Write the entries of a mapping. -/
def writeEntries (column : Nat) : List (Value × Value) → Pen → Pen
  | [], p => p
  | (k, v) :: es, p =>
    let p := p.indentTo column
    let p :=
      if k.isSimpleKey 0 then ((k.write (some column) true none p).put ':').word
      else
        ((k.write (some column) true none (p.opener '?')).indentTo column).opener ':'
    writeEntries column es (v.write (some column) true none p)

end

/-- Whether the only entry of a mapping has a key that is tagged or has a single entry itself. Such a
    key is taken for the tag of a value. -/
def hasTagLikeKey : List (Value × Value) → Bool
  | [(.tagged _ _, _)] => true
  | [(.mapping [_], _)] => true
  | _ => false

mutual

/-- Whether a value can be written. -/
def Value.isWritable (tagged : Bool) : Value → Bool
  | .tagged _ v => !tagged && v.isWritable true
  | .sequence vs => areWritable vs
  | .mapping es => (tagged || !hasTagLikeKey es) && entriesWritable es
  | _ => true

/-- Whether all items can be written. -/
def areWritable : List Value → Bool
  | [] => true
  | v :: vs => v.isWritable false && areWritable vs

/-- Whether all keys and values can be written. -/
def entriesWritable : List (Value × Value) → Bool
  | [] => true
  | (k, v) :: es => k.isWritable false && v.isWritable false && entriesWritable es

end

/-- The text of a value, without the last line break; some values cannot be written. -/
def Value.text? (v : Value) : Option String :=
  if v.isWritable false then some (v.write none false none {}).text else none

end PlaybookServer.Yaml

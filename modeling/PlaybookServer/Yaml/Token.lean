/-
Module: PlaybookServer.Yaml.Token
Purpose: Tokens of a YAML text, and how the ones with content of their own are read: scalars of the five
  styles, tags, names of nodes and directives. Each reader starts at the first character of its token and
  yields the token and the place after it.
Main exports: Token, TokenKind, Style, readPlain, readQuoted, readBlock, readTag, readName, readDirective
-/
import PlaybookServer.Yaml.Mark
import PlaybookServer.Document.Scalar
import PlaybookServer.Text.Bytes

namespace PlaybookServer.Yaml

/-- How a scalar is written. -/
inductive Style where
  | plain
  | singleQuoted
  | doubleQuoted
  | literal
  | folded
deriving DecidableEq, Repr, Inhabited

/-- A tag, or a part of one. Percent-encoded bytes that are no text leave it unreadable; its text then has
    replacement characters. -/
structure Tag where
  text : String
  readable : Bool := true
deriving DecidableEq, Repr, Inhabited

/-- One part of a tag after another. -/
def Tag.append (a b : Tag) : Tag := ⟨a.text ++ b.text, a.readable && b.readable⟩

/-- What a token is. -/
inductive TokenKind where
  | streamStart
  | streamEnd
  | version (major minor : Nat)
  | tagDirective (handle : String) (stem : Tag)
  | documentStart
  | documentEnd
  | blockSequenceStart
  | blockMappingStart
  | blockEnd
  | flowSequenceStart
  | flowSequenceEnd
  | flowMappingStart
  | flowMappingEnd
  | blockEntry
  | flowEntry
  | key
  | value
  | reference (name : String)
  | anchor (name : String)
  | tag (handle : String) (suffix : Tag)
  | scalar (text : String) (style : Style)
deriving DecidableEq, Repr, Inhabited

/-- A token and where it stands. -/
structure Token where
  kind : TokenKind
  start : Mark
  stop : Mark
deriving DecidableEq, Repr, Inhabited

/-! ### Line folding -/

/-- What stands between two words: gaps of one line, or line breaks. -/
structure Between where
  gaps : List Char := []
  /-- Whether a line ended. -/
  broken : Bool := false
  firstBreak : List Char := []
  moreBreaks : List Char := []
deriving DecidableEq, Repr, Inhabited

/-- The text that stands for what is between two words: a single line feed becomes a space, of several
    the first is dropped. -/
def Between.folded (b : Between) : List Char :=
  if b.broken then
    if b.firstBreak.head? = some '\n' then (if b.moreBreaks.isEmpty then [' '] else b.moreBreaks)
    else b.firstBreak ++ b.moreBreaks
  else b.gaps

/-- Read gaps and line breaks. `tabLimit` is the column before which a tab after a break is a fault. -/
def readBetween (tabLimit : Option Nat) (start : Mark) :
    Nat → Between → Place → Except YamlFault (Between × Place)
  | 0, b, p => .ok (b, p)
  | fuel + 1, b, p =>
    match p.rest with
    | [] => .ok (b, p)
    | c :: _ =>
      if isGap c then
        if b.broken && c = '\t' && tabLimit.any (p.mark.col < ·) then
          .error (p.fault "while scanning a plain scalar" start
            "found a tab character that violates indentation")
        else if b.broken then readBetween tabLimit start fuel b p.skip
        else readBetween tabLimit start fuel { b with gaps := b.gaps ++ [c] } p.skip
      else if isBreak c then
        let (text, after) := p.readBreak
        if b.broken then
          readBetween tabLimit start fuel { b with moreBreaks := b.moreBreaks ++ text } after
        else
          readBetween tabLimit start fuel { b with gaps := [], broken := true, firstBreak := text } after
      else .ok (b, p)

/-! ### Plain scalars -/

/-- Characters that delimit flow collections. -/
def isFlowMark (c : Char) : Bool :=
  c = ',' || c = '[' || c = ']' || c.toNat = 0x7b || c.toNat = 0x7d

/-- Read one word of a plain scalar. -/
def readPlainWord (inFlow : Bool) (start : Mark) : List Char → Mark → Except YamlFault (List Char × Place)
  | [], m => .ok ([], ⟨[], m⟩)
  | c :: cs, m =>
    if isGapOrBreak c then .ok ([], ⟨c :: cs, m⟩)
    else if inFlow && c = ':' && (cs.head?.any fun d => isFlowMark d || d = '?') then
      .error (Place.fault ⟨c :: cs, m⟩ "while scanning a plain scalar" start "found unexpected ':'")
    else if (c = ':' && endsWord cs) || (inFlow && isFlowMark c) then .ok ([], ⟨c :: cs, m⟩)
    else do
      let (word, p) ← readPlainWord inFlow start cs m.next
      return (c :: word, p)

/-- A plain scalar so far. -/
structure PlainText where
  text : List Char
  between : Between
  stop : Mark
  place : Place

/-- Read the words of a plain scalar. -/
def readPlainWords (inFlow : Bool) (indent : Nat) (start : Mark) :
    Nat → PlainText → Except YamlFault PlainText
  | 0, s => .ok s
  | fuel + 1, s => do
    let p := s.place
    if p.atMarker '-' || p.atMarker '.' || p.rest.head? = some '#' then return s
    let (word, after) ← readPlainWord inFlow start p.rest p.mark
    let s := if word.isEmpty then { s with place := after } else
      { text := s.text ++ s.between.folded ++ word, between := {}, stop := after.mark, place := after }
    if !(after.rest.head?.any isGapOrBreak) then return s
    let (between, after) ← readBetween (some indent) start after.rest.length s.between after
    let s := { s with between, place := after }
    if !inFlow && after.mark.col < indent then return s
    readPlainWords inFlow indent start fuel s

/-- Read a plain scalar. The flag says whether it ended at a line break, after which a key may start. -/
def readPlain (inFlow : Bool) (indent : Nat) (p : Place) : Except YamlFault (Token × Bool × Place) := do
  let s ← readPlainWords inFlow indent p.mark (p.rest.length + 1)
    { text := [], between := {}, stop := p.mark, place := p }
  return (⟨.scalar (String.ofList s.text) .plain, p.mark, s.stop⟩, s.between.broken, s.place)

/-! ### Quoted scalars -/

/-- What an escape letter stands for. -/
def escapeChar? : Char → Option Char
  | '0' => some '\x00'
  | 'a' => some '\x07'
  | 'b' => some '\x08'
  | 't' => some '\t'
  | '\t' => some '\t'
  | 'n' => some '\n'
  | 'v' => some '\x0b'
  | 'f' => some '\x0c'
  | 'r' => some '\r'
  | 'e' => some '\x1b'
  | ' ' => some ' '
  | '"' => some '"'
  | '/' => some '/'
  | '\\' => some '\\'
  | 'N' => some '\u0085'
  | '_' => some '\u00a0'
  | 'L' => some '\u2028'
  | 'P' => some '\u2029'
  | _ => none

/-- How many hexadecimal digits follow an escape letter. -/
def escapeWidth? : Char → Option Nat
  | 'x' => some 2
  | 'u' => some 4
  | 'U' => some 8
  | _ => none

/-- Read an escape that does not end a line. -/
def readEscape (start : Mark) (p : Place) : Except YamlFault (Char × Place) :=
  let context := "while parsing a quoted scalar"
  match p.rest with
  | _ :: letter :: rest =>
    match escapeChar? letter with
    | some c => .ok (c, p.skipMany 2)
    | none =>
      match escapeWidth? letter with
      | none => .error (p.fault context start "found unknown escape character")
      | some width =>
        let p := p.skipMany 2
        let digits := rest.take width
        match Scalar.hexDigits? digits with
        | some n =>
          if digits.length < width then
            .error (p.fault context start "did not find expected hexadecimal number")
          else if (0xD800 ≤ n && n ≤ 0xDFFF) || 0x10FFFF < n then
            .error (p.fault context start "found invalid Unicode character escape code")
          else .ok (Char.ofNat n, p.skipMany width)
        | none => .error (p.fault context start "did not find expected hexadecimal number")
  | _ => .error (p.fault context start "found unknown escape character")

/-- Read one word of a quoted scalar. The flag says whether the word ended in an escaped line break. -/
def readQuotedWord (double : Bool) (start : Mark) :
    Nat → List Char → Place → Except YamlFault (List Char × Bool × Place)
  | 0, word, p => .ok (word.reverse, false, p)
  | fuel + 1, word, p =>
    match p.rest with
    | [] => .ok (word.reverse, false, p)
    | c :: rest =>
      if isGapOrBreak c then .ok (word.reverse, false, p)
      else if !double && c = '\'' && rest.head? = some '\'' then
        readQuotedWord double start fuel ('\'' :: word) (p.skipMany 2)
      else if c = (if double then '"' else '\'') then .ok (word.reverse, false, p)
      else if double && c = '\\' then
        if rest.head?.any isBreak then .ok (word.reverse, true, p.skip.readBreak.2)
        else do
          let (e, p) ← readEscape start p
          readQuotedWord double start fuel (e :: word) p
      else readQuotedWord double start fuel (c :: word) p.skip

/-- Read a quoted scalar whose opening quote is read. -/
def readQuotedWords (double : Bool) (start : Mark) :
    Nat → List Char → Place → Except YamlFault (List Char × Place)
  | 0, text, p => .ok (text, p)
  | fuel + 1, text, p => do
    let context := "while scanning a quoted scalar"
    if p.atMarker '-' || p.atMarker '.' then
      .error (p.fault context start "found unexpected document indicator")
    else if p.rest.isEmpty then .error (p.fault context start "found unexpected end of stream")
    else
      let (word, joined, p) ← readQuotedWord double start (p.rest.length + 1) [] p
      let text := text ++ word
      if p.rest.head? = some (if double then '"' else '\'') then return (text, p.skip)
      else
        let (between, p) ← readBetween none start p.rest.length { broken := joined } p
        readQuotedWords double start fuel (text ++ between.folded) p

/-- Read a quoted scalar. -/
def readQuoted (double : Bool) (p : Place) : Except YamlFault (Token × Place) := do
  let (text, after) ← readQuotedWords double p.mark (p.rest.length + 1) [] p.skip
  return (⟨.scalar (String.ofList text) (if double then .doubleQuoted else .singleQuoted), p.mark,
    after.mark⟩, after)

/-! ### Block scalars -/

/-- What happens to the line breaks at the end of a block scalar. -/
inductive Chomp where
  | strip
  | clip
  | keep
deriving DecidableEq, Repr, Inhabited

/-- Context of faults in block scalars. -/
def blockContext : String := "while scanning a block scalar"

/-- Read a chomping mark. -/
def readChomp? (p : Place) : Option (Chomp × Place) :=
  match p.rest with
  | '+' :: _ => some (.keep, p.skip)
  | '-' :: _ => some (.strip, p.skip)
  | _ => none

/-- Read an indentation mark. -/
def readIncrement? (start : Mark) (p : Place) : Except YamlFault (Option (Nat × Place)) :=
  match p.rest with
  | c :: _ =>
    if c = '0' then .error (p.fault blockContext start "found an indentation indicator equal to 0")
    else if c.isDigit then .ok (some (c.toNat - '0'.toNat, p.skip))
    else .ok none
  | [] => .ok none

/-- Read the marks after the indicator of a block scalar, in either order. -/
def readBlockMarks (start : Mark) (p : Place) : Except YamlFault (Chomp × Option Nat × Place) := do
  match readChomp? p with
  | some (chomp, p) =>
    match ← readIncrement? start p with
    | some (n, p) => return (chomp, some n, p)
    | none => return (chomp, none, p)
  | none =>
    match ← readIncrement? start p with
    | some (n, p) =>
      match readChomp? p with
      | some (chomp, p) => return (chomp, some n, p)
      | none => return (.clip, some n, p)
    | none => return (.clip, none, p)

/-- Indentation and line breaks before a line of a block scalar. -/
structure BlockGap where
  breaks : List Char
  widest : Nat
  stop : Mark
  place : Place

/-- Read indentation and line breaks. While the indentation is not known all spaces count. -/
def readBlockGap (indent : Option Nat) (start : Mark) : Nat → BlockGap → Except YamlFault BlockGap
  | 0, g => .ok g
  | fuel + 1, g => do
    let within : Place → Bool := fun p => indent.all fun n => p.mark.col < n
    let room := (indent.map (· - g.place.mark.col)).getD g.place.rest.length
    let spaces := min room (g.place.rest.takeWhile (· = ' ')).length
    let p := g.place.skipMany spaces
    let g := { g with place := p, widest := max g.widest p.mark.col }
    match p.rest with
    | [] => return g
    | c :: _ =>
      if within p && c = '\t' then
        .error (p.fault blockContext start
          "found a tab character where an indentation space is expected")
      else if isBreak c then
        let (text, after) := p.readBreak
        readBlockGap indent start fuel
          { g with breaks := g.breaks ++ text, stop := after.mark, place := after }
      else return g

/-- A block scalar so far: its text, the break after its last line and the breaks after that. -/
structure BlockText where
  text : List Char
  lastBreak : List Char
  afterGap : Bool
  gap : BlockGap

/-- Read the lines of a block scalar. -/
def readBlockLines (literal : Bool) (indent : Nat) (start : Mark) :
    Nat → BlockText → Except YamlFault BlockText
  | 0, b => .ok b
  | fuel + 1, b => do
    let p := b.gap.place
    if p.mark.col ≠ indent || p.rest.isEmpty then return b
    let gapAhead : Bool := p.rest.head?.any isGap
    let joint :=
      if !literal && b.lastBreak.head? = some '\n' && !b.afterGap && !gapAhead then
        (if b.gap.breaks.isEmpty then [' '] else [])
      else b.lastBreak
    let (line, p) := p.spanWhile fun c => !isBreak c
    let (lastBreak, p) := p.readBreak
    let gap ← readBlockGap (some indent) start (p.rest.length + 1)
      { breaks := [], widest := 0, stop := p.mark, place := p }
    readBlockLines literal indent start fuel
      { text := b.text ++ joint ++ b.gap.breaks ++ line, lastBreak, afterGap := gapAhead, gap }

/-- Read a block scalar inside a collection of the given indentation (-1 at the top). -/
def readBlock (literal : Bool) (outer : Int) (p : Place) : Except YamlFault (Token × Place) := do
  let start := p.mark
  let (chomp, increment, p) ← readBlockMarks start p.skip
  let p := (p.skipWhile isGap).skipCommentIfAny
  if !endsLine p.rest then
    .error (p.fault blockContext start "did not find expected comment or line break")
  else
    let (_, p) := p.readBreak
    let given := increment.map fun n => (if 0 ≤ outer then outer.toNat else 0) + n
    let gap ← readBlockGap given start (p.rest.length + 1)
      { breaks := [], widest := 0, stop := p.mark, place := p }
    let indent := given.getD (max (max gap.widest (outer + 1).toNat) 1)
    let b ← readBlockLines literal indent start (p.rest.length + 1)
      { text := [], lastBreak := [], afterGap := false, gap }
    let ending := match chomp with
      | .strip => []
      | .clip => b.lastBreak
      | .keep => b.lastBreak ++ b.gap.breaks
    return (⟨.scalar (String.ofList (b.text ++ ending)) (if literal then .literal else .folded), start,
      b.gap.stop⟩, b.gap.place)

/-! ### Names and tags -/

/-- Read the name after an anchor or reference mark. -/
def readName (isReference : Bool) (p : Place) : Except YamlFault (Token × Place) :=
  let (name, after) := p.skip.spanWhile isNameChar
  let stops : Bool := endsWord after.rest
    || after.rest.head?.any fun c => ['?', ':', ',', ']', '%', '@'].contains c
        || c.toNat = 0x7d || c.toNat = 0x60
  if name.isEmpty || !stops then
    .error (after.fault (if isReference then "while scanning an alias" else "while scanning an anchor")
      p.mark "did not find expected alphabetic or numeric character")
  else
    let text := String.ofList name
    .ok (⟨if isReference then .reference text else .anchor text, p.mark, after.mark⟩, after)

/-- Characters of the suffix of a tag; inside angle brackets commas and brackets count too. -/
def isTagChar (bracketed : Bool) (c : Char) : Bool :=
  isNameChar c || [';', '/', '?', ':', '@', '&', '=', '+', '$', '.', '%', '!', '~', '*', '\'', '(', ')'].contains c
  || (bracketed && (c = ',' || c = '[' || c = ']'))

/-- Number of bytes of the character that a first byte opens. -/
def leadWidth? (octet : Nat) : Option Nat :=
  if octet < 0x80 then some 1
  else if octet / 0x20 = 0x6 then some 2
  else if octet / 0x10 = 0xE then some 3
  else if octet / 0x08 = 0x1E then some 4
  else none

/-- Read percent-encoded bytes of one character. `left` is `none` before its first byte. -/
def readTagOctets (context : String) (start : Mark) :
    Nat → Option Nat → List Nat → Place → Except YamlFault (List Nat × Place)
  | 0, _, acc, p => .ok (acc, p)
  | fuel + 1, left, acc, p =>
    match p.rest with
    | '%' :: a :: b :: _ =>
      match Scalar.hexDigits? [a, b] with
      | none => .error (p.fault context start "did not find URI escaped octet")
      | some octet =>
        let after := p.skipMany 3
        let acc := acc ++ [octet]
        match left with
        | none =>
          match leadWidth? octet with
          | none => .error (p.fault context start "found an incorrect leading UTF-8 octet")
          | some 1 => .ok (acc, after)
          | some width => readTagOctets context start fuel (some (width - 1)) acc after
        | some left =>
          if octet / 0x40 ≠ 2 then .error (p.fault context start "found an incorrect trailing UTF-8 octet")
          else if left ≤ 1 then .ok (acc, after)
          else readTagOctets context start fuel (some (left - 1)) acc after
    | _ => .error (p.fault context start "did not find URI escaped octet")

/-- Read the bytes of a tag's suffix. -/
def readTagBytes (bracketed : Bool) (context : String) (start : Mark) :
    Nat → List Nat → Place → Except YamlFault (List Nat × Place)
  | 0, acc, p => .ok (acc, p)
  | fuel + 1, acc, p =>
    match p.rest with
    | [] => .ok (acc, p)
    | c :: _ =>
      if !isTagChar bracketed c then .ok (acc, p)
      else if c = '%' then do
        let (octets, p) ← readTagOctets context start 4 none [] p
        readTagBytes bracketed context start fuel (acc ++ octets) p
      else readTagBytes bracketed context start fuel (acc ++ [c.toNat]) p.skip

/-- Read a tag's suffix after `head`, whose exclamation mark is dropped. An encoded NUL ends its text. -/
def readTagSuffix (bracketed directive : Bool) (head : List Char) (start : Mark) (p : Place) :
    Except YamlFault (Tag × Place) := do
  let context := if directive then "while parsing a %TAG directive" else "while parsing a tag"
  let (bytes, after) ← readTagBytes bracketed context start (p.rest.length + 1) [] p
  if bytes.isEmpty && head.isEmpty then .error (after.fault context start "did not find expected tag URI")
  else
    let shown := bytes.takeWhile (· ≠ 0)
    return (⟨String.ofList (head.drop 1 ++ Text.decodeLossy shown), Text.isUtf8 shown⟩, after)

/-- Read a tag's handle. -/
def readTagHandle (directive : Bool) (start : Mark) (p : Place) : Except YamlFault (List Char × Place) :=
  match p.rest with
  | '!' :: _ =>
    let (name, after) := p.skip.spanWhile isNameChar
    match after.rest with
    | '!' :: _ => .ok ('!' :: name ++ ['!'], after.skip)
    | _ =>
      if directive && !name.isEmpty then
        .error (after.fault "while parsing a tag directive" start "did not find expected '!'")
      else .ok ('!' :: name, after)
  | _ =>
    .error (p.fault (if directive then "while scanning a tag directive" else "while scanning a tag") start
      "did not find expected '!'")

/-- Read a tag. -/
def readTag (inFlow : Bool) (p : Place) : Except YamlFault (Token × Place) := do
  let start := p.mark
  let context := "while scanning a tag"
  let (handle, suffix, after) ←
    if p.rest.drop 1 |>.head? |> (· = some '<') then do
      let (suffix, after) ← readTagSuffix true false [] start (p.skipMany 2)
      if after.rest.head? ≠ some '>' then
        .error (after.fault context start "did not find the expected '>'")
      else pure ("", suffix, after.skip)
    else do
      let (handle, after) ← readTagHandle false start p
      if 1 < handle.length && handle.getLast? = some '!' then
        let (suffix, after) ← readTagSuffix false false [] start after
        pure (String.ofList handle, suffix, after)
      else
        let (suffix, after) ← readTagSuffix false false handle start after
        -- A lone exclamation mark is a tag without a handle.
        pure (if suffix.text = "" then ("", ⟨"!", true⟩, after) else ("!", suffix, after))
  if !(inFlow && after.rest.head? = some ',') && !endsWord after.rest then
    .error (after.fault context start "did not find expected whitespace or line break")
  else return (⟨.tag handle suffix, start, after.mark⟩, after)

/-! ### Directives -/

/-- Read a part of a version number. -/
def readVersionPart (start : Mark) (p : Place) : Except YamlFault (Nat × Place) :=
  let context := "while scanning a %YAML directive"
  let (digits, after) := p.spanWhile Char.isDigit
  if 9 < digits.length then
    .error ((p.skipMany 9).fault context start "found extremely long version number")
  else if digits.isEmpty then .error (after.fault context start "did not find expected version number")
  else .ok (digits.foldl (fun n c => n * 10 + (c.toNat - '0'.toNat)) 0, after)

/-- Read the content of a directive. -/
def readDirectiveContent (name : String) (start : Mark) (p : Place) :
    Except YamlFault (TokenKind × Place) := do
  match name with
  | "YAML" =>
    let (major, p) ← readVersionPart start (p.skipWhile isGap)
    if p.rest.head? ≠ some '.' then
      .error (p.fault "while scanning a %YAML directive" start "did not find expected digit or '.' character")
    else
      let (minor, p) ← readVersionPart start p.skip
      return (.version major minor, p)
  | "TAG" =>
    let context := "while scanning a %TAG directive"
    let (handle, p) ← readTagHandle true start (p.skipWhile isGap)
    if !(p.rest.head?.any isGap) then .error (p.fault context start "did not find expected whitespace")
    else
      let (stem, p) ← readTagSuffix true true [] start (p.skipWhile isGap)
      if !endsWord p.rest then
        .error (p.fault context start "did not find expected whitespace or line break")
      else return (.tagDirective (String.ofList handle) stem, p)
  | _ => .error (p.fault "while scanning a directive" start "found unknown directive name")

/-- Read a directive and the rest of its line. -/
def readDirective (p : Place) : Except YamlFault (Token × Place) := do
  let start := p.mark
  let context := "while scanning a directive"
  let (name, p) := p.skip.spanWhile isNameChar
  if name.isEmpty then .error (p.fault context start "could not find expected directive name")
  else if !endsWord p.rest then
    .error (p.fault context start "found unexpected non-alphabetical character")
  else
    let (kind, p) ← readDirectiveContent (String.ofList name) start p
    let stop := p.mark
    let p := (p.skipWhile isGap).skipCommentIfAny
    if !endsLine p.rest then
      .error (p.fault context start "did not find expected comment or line break")
    else return (⟨kind, start, stop⟩, p.readBreak.2)

end PlaybookServer.Yaml

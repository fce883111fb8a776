/-
Module: PlaybookServer.Source.Scanner
Purpose: One step of scanning: given the text, a position, the layout and the set of tokens the parser
  could use there, find the next token. A scan first skips blanks, then decides from the row and column
  it landed on which leads are possible, then tries the token classes in a fixed order. When nothing
  fits, a parser outside error recovery gets an empty end-of-stream token, which its state will reject.
Main exports: Scanned, scan
-/
import PlaybookServer.Source.Characters
import PlaybookServer.Source.Layout

namespace PlaybookServer.Source

/-- A scanned token: its number, its place in the text, and the layout after it. -/
structure Scanned where
  id : Nat
  start : Nat
  stop : Nat
  layout : Layout
deriving Inhabited

/-- Marks that also exist at the block's own indentation. -/
def Mark.hasLevel : Mark → Bool
  | .sequenceEntry | .explicitKey | .explicitValue | .flowSequenceOpen | .flowSequenceClose
  | .flowMappingOpen | .flowMappingClose | .doubleOpen | .singleOpen | .plainRowBlock | .tag
  | .anchorSign | .aliasSign => true
  | _ => false

/-- Everything known once blanks are skipped. -/
structure Site where
  valid : TokenSet
  layout : Layout
  /-- Row and column of the first character. -/
  row : Nat
  col : Nat
  first : Char
  /-- A tab stands between the start of the row and the first character. -/
  tab : Bool
  inline : Bool
  deeper : Bool
  level : Bool

namespace Site

def has (s : Site) (mark : Mark) (lead : Lead) : Bool := s.valid.has (Token.id ⟨mark, lead⟩)

/-- The form in which a mark can stand here, if the parser can use it. -/
def place? (s : Site) (mark : Mark) : Option Lead :=
  if s.has mark .inline && s.inline then some .inline
  else if s.has mark .deeper && s.deeper then some .deeper
  else if mark.hasLevel && s.has mark .level && s.level then some .level
  else none

end Site

/-- Close a token at the marked end. -/
def Reader.finish (r : Reader) (layout : Layout) (mark : Mark) (lead : Lead := .inline) : Scanned :=
  { id := Token.id ⟨mark, lead⟩
    start := if r.stop < r.start then r.stop else r.start
    stop := r.stop
    layout := { layout with row := r.stopRow, col := r.stopCol } }

/-- Close the innermost block with an empty token; impossible when no block is open. -/
def Reader.finishBlock (r : Reader) (layout : Layout) : Option Scanned :=
  layout.pop?.map fun l => r.finish l .blockEnd

/-- Outcome of trying a class of tokens: a decision, or the reader as far as it has moved, for the
    next class to go on from. -/
inductive Attempt where
  | decided (token : Option Scanned)
  | undecided (r : Reader)

/-! ### Pieces of tokens -/

/-- Result of reading one character of a tag or an address. -/
inductive CharResult where
  | taken (r : Reader)
  | stopped (r : Reader)
  | malformed (r : Reader)

/-- A percent escape. The end is marked before it, in case it turns out malformed. -/
def Reader.percent (r : Reader) : CharResult :=
  if r.peek != '%' then .stopped r
  else
    let r := r.mark.advance
    if !isHex r.peek then .malformed r
    else
      let r := r.advance
      if !isHex r.peek then .malformed r else .taken r.advance

def Reader.uriChar (r : Reader) : CharResult := if isUriChar r.peek then .taken r.advance else r.percent

def Reader.tagChar (r : Reader) : CharResult := if isTagChar r.peek then .taken r.advance else r.percent

/-- Take pieces until one is refused; `true` when the last one was malformed. The fuel is the length
    of the text, which no run of pieces exceeds. -/
def Reader.pieces (piece : Reader → CharResult) : Nat → Reader → Reader × Bool
  | 0, r => (r, false)
  | fuel + 1, r =>
    match piece r with
    | .taken r => pieces piece fuel r
    | .stopped r => (r, false)
    | .malformed r => (r, true)

/-- The rest of a tag handle; `false` when a word is not closed by an exclamation mark. -/
def Reader.handleTail (r : Reader) : Reader × Bool :=
  if r.peek == '!' then (r.advance, true)
  else
    let after := r.advanceWhile isWord
    if after.pos == r.pos then (r, true)
    else if after.peek == '!' then (after.advance, true)
    else (after, false)

/-- Three times the same character, then something white. -/
def Reader.tripled (r : Reader) (c : Char) : Reader × Bool :=
  if r.peek == c then
    let r := r.advance
    if r.peek == c then
      let r := r.advance
      if r.peek == c then
        let r := r.advance
        (r, isWhite r.peek)
      else (r, false)
    else (r, false)
  else (r, false)

/-- A document marker: three dashes or three dots before something white. What was taken of a marker
    that turned out to be none is text, and the end is marked behind it. -/
def Reader.documentMark (r : Reader) : Reader × Bool :=
  if r.peek == '-' || r.peek == '.' then
    let (after, complete) := r.tripled r.peek
    (if complete then after else after.mark, complete)
  else (r, false)

/-- Take an exact word; `false` when the text differs. -/
def Reader.word (r : Reader) : List Char → Reader × Bool
  | [] => (r, true)
  | c :: rest => if r.peek == c then r.advance.word rest else (r, false)

/-! ### Directives -/

/-- A directive name after its percent sign. -/
def scanDirective (r : Reader) (layout : Layout) : Option Scanned :=
  let r := r.advance
  let rest := fun (r : Reader) =>
    let r := r.advanceWhile isContent
    if r.col > 1 && isWhite r.peek then some (r.mark.finish layout .otherDirective) else none
  if r.peek == 'Y' then
    let (r, ok) := r.word ['Y', 'A', 'M', 'L']
    if ok && isWhite r.peek then some (r.mark.finish layout .yamlDirective) else rest r
  else if r.peek == 'T' then
    let (r, ok) := r.word ['T', 'A', 'G']
    if ok && isWhite r.peek then some (r.mark.finish layout .tagDirective) else rest r
  else rest r

def scanVersion (r : Reader) (layout : Layout) : Option Scanned :=
  let major := r.advanceWhile Char.isDigit
  if major.peek != '.' then none
  else
    let dot := major.advance
    let minor := dot.advanceWhile Char.isDigit
    if major.pos == r.pos || minor.pos == dot.pos then none
    else some (minor.mark.finish layout .yamlVersion)

def scanTagHandle (r : Reader) (layout : Layout) : Option Scanned :=
  if r.peek == '!' then
    let (r, ok) := r.advance.handleTail
    if ok then some (r.mark.finish layout .tagHandle) else none
  else none

def scanTagPrefix (r : Reader) (layout : Layout) : Option Scanned :=
  let begun := if r.peek == '!' then some r.advance
    else match r.tagChar with
      | .taken r => some r
      | _ => none
  begun.map fun r =>
    let (r, malformed) := r.pieces Reader.uriChar (r.text.size + 1)
    (if malformed then r else r.mark).finish layout .tagPrefix

def scanParameter (r : Reader) (layout : Layout) : Option Scanned :=
  if isContent r.peek then some ((r.advanceWhile isContent).mark.finish layout .directiveParameter)
  else none

/-! ### Properties and quoted scalars -/

/-- A tag in one of its three forms. -/
def scanTag (r : Reader) (layout : Layout) (lead : Lead) : Option Scanned :=
  let r := r.advance
  if isWhite r.peek then some (r.mark.finish layout .tag lead)
  else if r.peek == '<' then
    match r.advance.uriChar with
    | .taken r =>
      let (r, malformed) := r.pieces Reader.uriChar (r.text.size + 1)
      if !malformed && r.peek == '>' then some (r.advance.mark.finish layout .tag lead) else none
    | _ => none
  else
    let (r, plain) := r.handleTail
    let body := if plain then
        match r.tagChar with
        | .taken r => some r
        | _ => none
      else some r
    body.map fun r =>
      let (r, malformed) := r.pieces Reader.tagChar (r.text.size + 1)
      (if malformed then r else r.mark).finish layout .tag lead

/-- The sign of an anchor or alias, which a name must follow. -/
def scanSign (r : Reader) (layout : Layout) (mark : Mark) (lead : Lead) : Option Scanned :=
  let r := r.advance
  if isFlowContent r.peek then some (r.mark.finish layout mark lead) else none

/-- The name after such a sign. -/
def scanName (r : Reader) (layout : Layout) (mark : Mark) : Scanned :=
  (r.advanceWhile isFlowContent).mark.finish layout mark

/-- A run of literal text inside quotes; a document marker at the start of a row ends the document. -/
def scanQuoted? (r : Reader) (layout : Layout) (ok : Char → Bool) (mark : Mark) (lead : Lead) :
    Option Scanned :=
  if !ok r.peek then none
  else
    let plain := fun (r : Reader) => some ((r.advance.advanceWhile ok).mark.finish layout mark lead)
    if r.col == 0 then
      let (after, complete) := r.documentMark
      if complete then
        some (after.mark.finish layout (if r.peek == '-' then .documentStart else .documentEnd))
      else plain after
    else plain r

/-- An escape after its backslash. -/
def scanEscape (r : Reader) (layout : Layout) (lead : Lead) : Option Scanned :=
  let digits := fun (n : Nat) (r : Reader) =>
    (List.range n).foldl (fun (r? : Option Reader) _ =>
      r?.bind fun r => if isHex r.peek then some r.advance else none) (some r)
  let taken := if isShortEscape r.peek then some r.advance
    else (hexEscapeWidth? r.peek).bind fun n => digits n r.advance
  taken.map fun r => r.mark.finish layout .doubleEscape lead

/-! ### Block scalars -/

/-- Look ahead over the rows of a block scalar for its indentation. Only leading blank rows and the
    first row with text count. -/
def textIndent : Nat → Reader → Int → Int
  | 0, _, indent => indent
  | fuel + 1, r, indent =>
    let before : Int := r.col - 1
    if r.peek == '\x00' then indent
    else if r.peek == ' ' then textIndent fuel r.advance indent
    else if isBreak r.peek then
      if before < indent then indent else textIndent fuel r.advanceLine before
    else if before > indent then before else indent

/-- The header of a block scalar. It opens a block whose indentation is given by the digit, if there is
    one, and else by the text that follows. -/
def scanTextStart (r : Reader) (layout : Layout) (mark : Mark) (lead : Lead) : Option Scanned :=
  let isDigit := fun (c : Char) => '1' ≤ c && c ≤ '9'
  let isSign := fun (c : Char) => c == '+' || c == '-'
  let value := fun (c : Char) => (c.toNat : Int) - '1'.toNat
  let r := r.advance
  let (r, explicit?) :=
    if isDigit r.peek then
      let d := value r.peek
      let r := r.advance
      (if isSign r.peek then r.advance else r, some d)
    else if isSign r.peek then
      let r := r.advance
      if isDigit r.peek then (r.advance, some (value r.peek)) else (r, none)
    else (r, none)
  if !isWhite r.peek then none
  else
    let r := r.mark
    let indent := layout.indent
    let column := match explicit? with
      | some d => d + indent
      | none =>
        let r := r.advanceWhile isSpace
        let r := if r.peek == '#' then r.advance.advanceWhile (fun c => !isBreak c && c != '\x00') else r
        let r := if isBreak r.peek then r.advanceLine else r
        textIndent (r.text.size + 1) r indent
    some (r.finish (layout.push .text column) mark lead)

/-- Rows of words with single blanks marked up to the last word. -/
def textRow : Nat → Reader → Reader
  | 0, r => r
  | fuel + 1, r =>
    let r := if isContent r.peek then (r.advanceWhile isContent).mark else r
    if isSpace r.peek then textRow fuel (r.advanceWhile isSpace) else r

/-- One row of block scalar text. A document marker closes the block instead; where no block is open,
    the classes that follow go on behind the marker. -/
def scanTextRow (r : Reader) (layout : Layout) : Attempt :=
  if !isContent r.peek then .undecided r
  else
    let row := fun (r : Reader) =>
      Attempt.decided (some ((textRow (r.text.size + 1) r.advance.mark).finish layout .blockText))
    if r.col == 0 then
      let (after, complete) := r.documentMark
      if complete then
        match after.finishBlock layout with
        | some token => .decided (some token)
        | none => .undecided after
      else row after
    else row r

/-! ### Plain scalars -/

/-- How a run of plain text on one row ended. -/
inductive PlainEnd where
  | nothing
  | colon
  | row
deriving DecidableEq

/-- Plain text to the end of the row, comment or colon that ends it. A hash continues the scalar only
    after content, a colon only before content. -/
def plainRun (safe : Char → Bool) : Nat → Reader → Bool → Reader × PlainEnd
  | 0, r, _ => (r, .row)
  | fuel + 1, r, afterContent =>
    let c := r.peek
    let next := fun (r : Reader) =>
      if r.last == ':' then
        if safe r.peek then plainRun safe fuel r.mark (safe c) else (r, .colon)
      else plainRun safe fuel r (safe c)
    if safe c && c != '#' && c != ':' then next r.advance.mark
    else if afterContent && c == '#' then next r.advance.mark
    else if isSpace c then next r.advance
    else if c == ':' then next r.advance
    else (r, .row)

def plainRow (safe : Char → Bool) (r : Reader) : Reader × PlainEnd :=
  if safe r.peek || isSpace r.peek then plainRun safe (r.text.size + 1) r (safe r.last) else (r, .nothing)

/-- Blanks and line breaks between two rows of a plain scalar. -/
def plainGap : Nat → Reader → Reader
  | 0, r => r
  | fuel + 1, r =>
    if isBreak r.peek then plainGap fuel r.advanceLine
    else if isSpace r.peek then plainGap fuel r.advance
    else r

/-- Rows of a plain scalar, as long as they stay indented past the block. -/
def plainRows (safe : Char → Bool) (indent : Int) : Nat → Reader → Reader
  | 0, r => r
  | fuel + 1, r =>
    let (r, ended) := if isBreak r.peek then (r, PlainEnd.row) else plainRow safe r
    if ended != .row || !isBreak r.peek then r
    else
      let r := plainGap (r.text.size + 1) r
      if r.peek == '\x00' || (r.col : Int) ≤ indent then r
      else if r.col == 0 then
        let (after, complete) := r.documentMark
        if complete then after else plainRows safe indent fuel after
      else plainRows safe indent fuel r

/-- A plain scalar. `r` may already have taken up to three characters of it. Undecided when no plain
    scalar is possible here; one whose rows fit no usable form makes the text unusable. -/
def scanPlain (s : Site) (r : Reader) : Attempt :=
  let rowBlock := s.place? .plainRowBlock
  let rowFlow := s.place? .plainRowFlow
  let rowsBlock := s.place? .plainRowsBlock
  let rowsFlow := s.place? .plainRowsFlow
  if rowBlock.isNone && rowFlow.isNone && rowsBlock.isNone && rowsFlow.isNone then .undecided r
  else
    let safe := if rowBlock.isSome || rowsBlock.isSome then isContent else isFlowContent
    let r := if r.col == s.col then r.advance else r
    let starts := (isContent s.first && !isIndicator s.first) ||
      (['?', ':', '-'].contains s.first && safe r.peek)
    if r.col == s.col + 1 && !starts then .decided none
    else
      let r := plainRows safe s.layout.indent (r.text.size + 1) r.mark
      let noted := s.layout.noteKey s.row s.col s.tab
      let lead : Lead := if s.inline then .inline else if s.deeper then .deeper else .level
      if r.stopRow == s.row then
        if rowBlock.isSome then .decided (some (r.finish noted .plainRowBlock lead))
        else if rowFlow.isSome then .decided (some (r.finish s.layout .plainRowFlow lead))
        else .decided none
      else if rowsBlock.isSome then .decided (some (r.finish noted .plainRowsBlock lead))
      else if rowsFlow.isSome then .decided (some (r.finish s.layout .plainRowsFlow lead))
      else .decided none

/-! ### The scan -/

/-- A character that is a token by itself. -/
def single (s : Site) (r : Reader) (mark : Mark) (layout : Layout) : Attempt :=
  match s.place? mark with
  | some lead => .decided (some (r.advance.mark.finish layout mark lead))
  | none => .undecided r

/-- Tokens that open a mapping at their own column need a row indented by spaces alone. -/
def openMapping (s : Site) (r : Reader) (mark : Mark) (lead : Lead) : Option Scanned :=
  if lead == .level then some (r.mark.finish s.layout mark lead)
  else if s.tab then none
  else some (r.mark.finish (s.layout.push .mapping s.col) mark lead)

def attemptColon (s : Site) (r : Reader) : Attempt :=
  match s.place? .jsonColon with
  | some lead => .decided (some (r.advance.mark.finish s.layout .jsonColon lead))
  | none =>
    let explicit? := s.place? .explicitValue
    let implicit := s.has .implicitColon .inline && s.inline
    let flow? := s.place? .plainColon
    if explicit?.isNone && !implicit && flow?.isNone then .undecided r
    else
      let r := r.advance
      let white := isWhite r.peek
      let flow := fun (_ : Unit) => match flow? with
        | some lead =>
          if white || [',', ']', '}'].contains r.peek then
            Attempt.decided (some (r.mark.finish s.layout .plainColon lead))
          else .undecided r
        | none => .undecided r
      if white then
        match explicit? with
        | some lead => .decided (openMapping s r .explicitValue lead)
        | none =>
          if implicit then
            if s.layout.indent = s.layout.keyCol then
              .decided (some (r.mark.finish s.layout .implicitColon))
            else if s.layout.keyTab then .decided none
            else .decided (some (r.mark.finish (s.layout.push .mapping s.layout.keyCol) .implicitColon))
          else flow ()
      else flow ()

def attemptDash (s : Site) (r : Reader) : Attempt :=
  let entry? := s.place? .sequenceEntry
  let rowStart := s.col == 0
  if entry?.isNone && !rowStart then .undecided r
  else
    let r := r.advance
    if isWhite r.peek then
      match entry? with
      | some .level =>
        let layout := if s.layout.kind? = some .mapping then s.layout.push .sequence s.col else s.layout
        .decided (some (r.mark.finish layout .sequenceEntry .level))
      | some lead =>
        if s.tab then .decided none
        else .decided (some (r.mark.finish (s.layout.push .sequence s.col) .sequenceEntry lead))
      | none => .undecided r
    else if r.peek == '-' && rowStart then
      let r := r.advance
      if r.peek == '-' then
        let r := r.advance
        if isWhite r.peek then
          if s.has .blockEnd .inline then .decided (r.finishBlock s.layout)
          else .decided (some (r.mark.finish s.layout .documentStart))
        else .undecided r
      else .undecided r
    else .undecided r

def attemptDot (s : Site) (r : Reader) : Attempt :=
  if s.col != 0 then .undecided r
  else
    let (r, isEnd) := r.tripled '.'
    if isEnd then
      if s.has .blockEnd .inline then .decided (r.finishBlock s.layout)
      else .decided (some (r.mark.finish s.layout .documentEnd))
    else .undecided r

def attemptBackslash (s : Site) (r : Reader) : Attempt :=
  let line? := s.place? .doubleLineEscape
  let escape? := s.place? .doubleEscape
  if line?.isNone && escape?.isNone then .undecided r
  else
    let r := r.advance
    let escape := fun (_ : Unit) => match escape? with
      | some lead => Attempt.decided (scanEscape r s.layout lead)
      | none => .undecided r
    match line? with
    | some lead =>
      if isBreak r.peek then .decided (some (r.mark.finish s.layout .doubleLineEscape lead)) else escape ()
    | none => escape ()

def attemptQuestion (s : Site) (r : Reader) : Attempt :=
  let block? := s.place? .explicitKey
  let flow? := s.place? .flowKey
  if block?.isNone && flow?.isNone then .undecided r
  else
    let r := r.advance
    if isWhite r.peek then
      match block?, flow? with
      | some lead, _ => .decided (openMapping s r .explicitKey lead)
      | none, some lead => .decided (some (r.mark.finish s.layout .flowKey lead))
      | none, none => .undecided r
    else .undecided r

def attemptQuote (s : Site) (r : Reader) (noted : Layout) : Attempt :=
  match s.place? .singleOpen with
  | some lead => .decided (some (r.advance.mark.finish noted .singleOpen lead))
  | none =>
    match s.place? .singleClose with
    | some lead =>
      let r := r.advance
      if r.peek == '\'' then .decided (some (r.advance.mark.finish s.layout .singleEscape lead))
      else .decided (some (r.mark.finish s.layout .singleClose lead))
    | none => .undecided r

/-- Tokens recognised by the next character. -/
def attempt (s : Site) (r : Reader) : Attempt :=
  let noted := s.layout.noteKey s.row s.col s.tab
  let c := r.peek
  if c == '%' then
    if s.has .yamlDirective .inline && s.col == 0 then .decided (scanDirective r s.layout) else .undecided r
  else if c == '*' then
    match s.place? .aliasSign with
    | some lead => .decided (scanSign r noted .aliasSign lead)
    | none => .undecided r
  else if c == '&' then
    match s.place? .anchorSign with
    | some lead => .decided (scanSign r noted .anchorSign lead)
    | none => .undecided r
  else if c == '!' then
    match s.place? .tag with
    | some lead => .decided (scanTag r noted lead)
    | none => .undecided r
  else if c == '[' then single s r .flowSequenceOpen noted
  else if c == ']' then single s r .flowSequenceClose s.layout
  else if c == '{' then single s r .flowMappingOpen noted
  else if c == '}' then single s r .flowMappingClose s.layout
  else if c == ',' then single s r .flowSeparator s.layout
  else if c == '"' then
    match single s r .doubleOpen noted with
    | .undecided _ => single s r .doubleClose s.layout
    | decision => decision
  else if c == '\'' then attemptQuote s r noted
  else if c == '\\' then attemptBackslash s r
  else if c == '?' then attemptQuestion s r
  else if c == ':' then attemptColon s r
  else if c == '-' then attemptDash s r
  else if c == '.' then attemptDot s r
  else if c == '|' || c == '>' then
    let mark := if c == '|' then Mark.literalStart else Mark.foldedStart
    match s.place? mark with
    | some lead => .decided (scanTextStart r s.layout mark lead)
    | none => .undecided r
  else .undecided r

/-- Tokens that a state asks for whatever the first character is: directive arguments, block text,
    quoted text and names. They are tried in this order, and several of them exclude all others. -/
def demanded (s : Site) (r : Reader) : Attempt :=
  let inDouble := fun (c : Char) => isQuotable c && c != '\\' && c != '"'
  let inSingle := fun (c : Char) => isQuotable c && c != '\''
  let quoted := fun (r : Reader) (mark : Mark) (ok : Char → Bool) =>
    if s.has mark .inline && s.inline then scanQuoted? r s.layout ok mark .inline
    else if s.has mark .deeper && s.deeper then scanQuoted? r s.layout ok mark .deeper
    else none
  if s.has .yamlVersion .inline && s.inline then .decided (scanVersion r s.layout)
  else if s.has .tagHandle .inline && s.inline then .decided (scanTagHandle r s.layout)
  else if s.has .tagPrefix .inline && s.inline then .decided (scanTagPrefix r s.layout)
  else if s.has .directiveParameter .inline && s.inline then .decided (scanParameter r s.layout)
  else
    match (if s.has .blockText .inline && s.deeper then scanTextRow r s.layout else .undecided r) with
    | .decided token => .decided token
    | .undecided r =>
      match (quoted r .doubleText inDouble).orElse fun _ => quoted r .singleText inSingle with
      | some token => .decided (some token)
      | none =>
        if s.has .anchorName .inline && s.inline then .decided (some (scanName r s.layout .anchorName))
        else if s.has .aliasName .inline && s.inline then
          .decided (some (scanName r s.layout .aliasName))
        else .undecided r

/-- Blanks in front of a token: the reader behind them, the spaces that open its row, and whether a
    tab is among them. A comment ends the run with a decision. -/
structure Blanks where
  reader : Reader
  spaces : Nat
  tab : Bool
  comment : Option (Option Scanned)

/-- Skip blanks. `comments` says whether a hash may start a comment here. -/
def skipBlanks (valid : TokenSet) (layout : Layout) (comments : Bool) : Nat → Reader → Nat → Bool → Blanks
  | 0, r, spaces, tab => ⟨r, spaces, tab, none⟩
  | fuel + 1, r, spaces, tab =>
    let c := r.peek
    if c == ' ' then skipBlanks valid layout comments fuel r.skip (if tab then spaces else spaces + 1) tab
    else if c == '\t' then skipBlanks valid layout comments fuel r.skip spaces true
    else if isBreak c then skipBlanks valid layout comments fuel r.skipLine 0 false
    else if comments && c == '#' then
      let inText := valid.has (Token.id ⟨.blockText, .inline⟩)
      if inText && valid.has (Token.id ⟨.blockEnd, .inline⟩) && (r.col : Int) ≤ layout.indent then
        ⟨r, spaces, tab, some (r.finishBlock layout)⟩
      else if if inText then r.row == layout.row
          else r.col == 0 || r.row != layout.row || r.col > layout.col then
        let r := (r.advance.advanceWhile fun c => !isBreak c && c != '\x00').mark
        ⟨r, spaces, tab, some (some (r.finish layout .comment))⟩
      else ⟨r, spaces, tab, none⟩
    else ⟨r, spaces, tab, none⟩

/-- The next token at character index `start`, or `none` when the text there is unusable. -/
def scan (text : SourceText) (start : Nat) (layout : Layout) (valid : TokenSet) : Option Scanned :=
  let start := text.skipOrderMark start
  let begun : Reader :=
    { text := text.chars, pos := start, start := start, stop := start, row := layout.row,
      col := layout.col, stopRow := layout.row, stopCol := layout.col, last := '\x00' }
  let has := fun (mark : Mark) (lead : Lead) => valid.has (Token.id ⟨mark, lead⟩)
  let comments := !(has .doubleText .inline || has .doubleText .deeper || has .singleText .inline ||
    has .singleText .deeper)
  let blanks := skipBlanks valid layout comments (text.chars.size + 1) begun 0 false
  match blanks.comment with
  | some decision => decision
  | none =>
    let r := blanks.reader
    let closes := has .blockEnd .inline
    if r.peek == '\x00' then
      if closes then r.mark.finishBlock layout
      else if has .endOfStream .inline then some (r.mark.finish layout .endOfStream)
      else none
    else
      let indent := layout.indent
      let outer := layout.outerIndent
      let col : Int := r.col
      let dedents :=
        if indent = outer && layout.kind? = some .sequence then col < indent || r.peek != '-'
        else col ≤ outer || layout.kind? = some .text
      if closes && col ≤ indent && !blanks.tab && dedents then r.finishBlock layout
      else
        let later := layout.row < r.row
        let site : Site :=
          { valid, layout, row := r.row, col := r.col, first := r.peek, tab := blanks.tab
            inline := r.row == layout.row
            deeper := later && (blanks.spaces : Int) > indent
            level := later && col = indent && !blanks.tab }
        match demanded site r with
        | .decided decision => decision
        | .undecided r =>
          match attempt site r with
          | .decided decision => decision
          | .undecided r =>
            match scanPlain site r with
            | .decided decision => decision
            | .undecided r =>
              if has .recovering .inline then none
              else some
                { id := Token.id ⟨.endOfStream, .inline⟩
                  start := if r.stop < r.start then r.stop else r.start
                  stop := r.stop
                  layout }

end PlaybookServer.Source

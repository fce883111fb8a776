/-
Module: PlaybookServer.Yaml.Mark
Purpose: Places in a YAML text, character classes of the format, and what can be wrong with a text. A
  mark counts characters, lines and columns from zero; texts of faults count lines and columns from one
  and leave out the very start of the text.
Main exports: Mark, Place, YamlFault, YamlFault.text
-/

namespace PlaybookServer.Yaml

/-- A place, counted from zero. -/
structure Mark where
  index : Nat := 0
  line : Nat := 0
  col : Nat := 0
deriving DecidableEq, Repr, Inhabited

/-- Whether a mark is the start of the text, which faults do not name. -/
def Mark.isStart (m : Mark) : Bool := m.line = 0 && m.col = 0

/-- Whether two marks name the same place. -/
def Mark.samePlace (a b : Mark) : Bool := a.line = b.line && a.col = b.col

/-- Text of a mark inside a fault. -/
def Mark.text (m : Mark) : String :=
  "line " ++ toString (m.line + 1) ++ " column " ++ toString (m.col + 1)

/-- The mark after a character that does not end a line. -/
def Mark.next (m : Mark) : Mark := ⟨m.index + 1, m.line, m.col + 1⟩

/-- The mark after a line break of so many characters. -/
def Mark.nextLine (m : Mark) (width : Nat) : Mark := ⟨m.index + width, m.line + 1, 0⟩

/-- What is wrong with a YAML text. -/
inductive YamlFault where
  /-- A character that may not stand in a text, at a byte offset. -/
  | forbiddenCharacter (offset : Nat)
  /-- A fault of form: the problem, where it shows, and what was being read from where. -/
  | malformed (problem : String) (place : Mark) (context : Option (String × Mark))
  /-- A reference to a name that no earlier node of the document carries. -/
  | unknownAnchor (place : Mark)
  /-- A value is missing. -/
  | endOfStream
  /-- Several documents where one is wanted. -/
  | severalDocuments
  /-- Collections nested too deeply. -/
  | tooDeep (place : Mark)
  /-- References expanded too often. -/
  | tooManyRepeats
  /-- A value of the wrong kind; the place and the path to the value are filled in by the nearest
      node that knows them. -/
  | mismatch (message : String) (place : Option (Mark × String))
deriving DecidableEq, Repr, Inhabited

/-- A mark as the end of a fault's text; the start of the text is not named. -/
def Mark.suffix (m : Mark) : String := if m.isStart then "" else " at " ++ m.text

/-- The text of a fault. -/
def YamlFault.text : YamlFault → String
  | .forbiddenCharacter offset =>
    "control characters are not allowed"
      ++ (if offset = 0 then "" else " at position " ++ toString offset)
  | .malformed problem place context =>
    let extra := match context with
      | none => ""
      | some (what, start) => ", " ++ what ++ (if start.samePlace place then "" else start.suffix)
    problem ++ place.suffix ++ extra
  | .unknownAnchor place => "unknown anchor" ++ place.suffix
  | .endOfStream => "EOF while parsing a value"
  | .severalDocuments => "deserializing from YAML containing more than one document is not supported"
  | .tooDeep place => "recursion limit exceeded" ++ place.suffix
  | .tooManyRepeats => "repetition limit exceeded"
  | .mismatch message none => message
  | .mismatch message (some (place, path)) =>
    (if path = "." then "" else path ++ ": ") ++ message ++ place.suffix

/-- Give a mismatch without a place this one. -/
def YamlFault.located (place : Mark) (path : String) : YamlFault → YamlFault
  | .mismatch message none => .mismatch message (some (place, path))
  | f => f

/-! ### Characters -/

/-- Space or tab. -/
def isGap (c : Char) : Bool := c = ' ' || c = '\t'

/-- Characters that end a line. -/
def isBreak (c : Char) : Bool :=
  c = '\n' || c = '\r' || c.toNat = 0x85 || c.toNat = 0x2028 || c.toNat = 0x2029

/-- Gap or line end. -/
def isGapOrBreak (c : Char) : Bool := isGap c || isBreak c

/-- Whether the text ends here or goes on with a gap or line end. -/
def endsWord : List Char → Bool
  | [] => true
  | c :: _ => isGapOrBreak c

/-- Whether the text or the line ends here. -/
def endsLine : List Char → Bool
  | [] => true
  | c :: _ => isBreak c

/-- Characters of names. -/
def isNameChar (c : Char) : Bool := c.isAlphanum || c = '_' || c = '-'

/-- Characters that may stand in a text. -/
def isAllowed (c : Char) : Bool :=
  let n := c.toNat
  n = 0x9 || n = 0xA || n = 0xD || (0x20 ≤ n && n ≤ 0x7E) || n = 0x85
  || (0xA0 ≤ n && n ≤ 0xD7FF) || (0xE000 ≤ n && n ≤ 0xFFFD) || 0x10000 ≤ n

/-- The byte order mark. -/
def isOrderMark (c : Char) : Bool := c.toNat = 0xFEFF

/-- Byte offset of the first character that may not stand in a text. -/
def forbiddenOffset? : Nat → List Char → Option Nat
  | _, [] => none
  | offset, c :: cs => if isAllowed c then forbiddenOffset? (offset + c.utf8Size) cs else some offset

/-! ### Reading on -/

/-- The text still to come and the mark reached. -/
structure Place where
  rest : List Char
  mark : Mark := {}
deriving Repr, Inhabited

namespace Place

/-- Skip a character that does not end a line. -/
def skip (p : Place) : Place := ⟨p.rest.drop 1, p.mark.next⟩

/-- Skip several characters that do not end a line. -/
def skipMany : Nat → Place → Place
  | 0, p => p
  | n + 1, p => skipMany n p.skip

/-- The line break ahead in its normal form, and the place after it. Two separators of paragraphs and
    lines keep their form. -/
def readBreak (p : Place) : List Char × Place :=
  match p.rest with
  | '\r' :: '\n' :: rest => (['\n'], ⟨rest, p.mark.nextLine 2⟩)
  | c :: rest =>
    if c = '\n' || c = '\r' || c.toNat = 0x85 then (['\n'], ⟨rest, p.mark.nextLine 1⟩)
    else if isBreak c then ([c], ⟨rest, p.mark.nextLine 1⟩)
    else ([], p)
  | [] => ([], p)

/-- Read characters of one class, none of which ends a line. -/
def spanWhile (f : Char → Bool) (p : Place) : List Char × Place :=
  go p.rest p.mark
where
  /-- Recursion on the text ahead. -/
  go : List Char → Mark → List Char × Place
    | [], m => ([], ⟨[], m⟩)
    | c :: cs, m =>
      if f c then
        let (taken, p) := go cs m.next
        (c :: taken, p)
      else ([], ⟨c :: cs, m⟩)

/-- Skip characters of one class. -/
def skipWhile (f : Char → Bool) (p : Place) : Place := (p.spanWhile f).2

/-- Skip the rest of the line. -/
def skipComment (p : Place) : Place := p.skipWhile fun c => !isBreak c

/-- Skip a comment if one starts here. -/
def skipCommentIfAny (p : Place) : Place := if p.rest.head? = some '#' then p.skipComment else p

/-- Whether a document marker made of three such characters stands here at the start of a line. -/
def atMarker (c : Char) (p : Place) : Bool :=
  p.mark.col = 0 && p.rest.take 3 = [c, c, c] && endsWord (p.rest.drop 3)

/-- A fault that shows here. -/
def fault (p : Place) (context : String) (start : Mark) (problem : String) : YamlFault :=
  .malformed problem p.mark (some (context, start))

end Place

end PlaybookServer.Yaml

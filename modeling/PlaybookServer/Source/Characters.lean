/-
Module: PlaybookServer.Source.Characters
Purpose: Character classes of the YAML scanner. They follow the character productions of YAML 1.2; the
  end of the text reads as NUL, which counts as white but as no content.
Main exports: isSpace, isBreak, isWhite, isContent, isIndicator, isFlowIndicator
-/

namespace PlaybookServer.Source

/-- Space or tab. -/
def isSpace (c : Char) : Bool := c == ' ' || c == '\t'

/-- Line feed or carriage return. -/
def isBreak (c : Char) : Bool := c == '\r' || c == '\n'

/-- Blank, line break or end of text. -/
def isWhite (c : Char) : Bool := isSpace c || isBreak c || c == '\x00'

def isHex (c : Char) : Bool :=
  c.isDigit || ('a' ≤ c && c ≤ 'f') || ('A' ≤ c && c ≤ 'F')

/-- Letter, digit or hyphen. -/
def isWord (c : Char) : Bool := c == '-' || c.isDigit || ('a' ≤ c && c ≤ 'z') || ('A' ≤ c && c ≤ 'Z')

/-- Characters a quoted scalar may hold. -/
def isQuotable (c : Char) : Bool := c == '\t' || 0x20 ≤ c.toNat

/-- Printable characters other than blanks and the byte order mark. -/
def isContent (c : Char) : Bool :=
  let n := c.toNat
  (0x21 ≤ n && n ≤ 0x7e) || n == 0x85 || (0xa0 ≤ n && n ≤ 0xd7ff) || (0xe000 ≤ n && n ≤ 0xfefe) ||
    (0xff00 ≤ n && n ≤ 0xfffd) || 0x10000 ≤ n

/-- Characters with a meaning of their own at the start of a node. -/
def isIndicator (c : Char) : Bool :=
  ['-', '?', ':', ',', '[', ']', '{', '}', '#', '&', '*', '!', '|', '>', '\'', '"', '%', '@', '\x60'].contains c

/-- Characters that structure flow collections. -/
def isFlowIndicator (c : Char) : Bool := [',', '[', ']', '{', '}'].contains c

/-- Content that may stand inside a plain scalar of a flow collection. -/
def isFlowContent (c : Char) : Bool := isContent c && !isFlowIndicator c

def isUriChar (c : Char) : Bool :=
  isWord c || ['#', ';', '/', '?', ':', '@', '&', '=', '+', '$', ',', '_', '.', '!', '~', '*', '\'',
    '(', ')', '[', ']'].contains c

def isTagChar (c : Char) : Bool :=
  isWord c || ['#', ';', '/', '?', ':', '@', '&', '=', '+', '$', '_', '.', '~', '*', '\'',
    '(', ')'].contains c

/-- Letters that may follow a backslash and stand for one character. -/
def isShortEscape (c : Char) : Bool :=
  ['0', 'a', 'b', 't', '\t', 'n', 'v', 'r', 'e', 'f', ' ', '"', '/', '\\', 'N', '_', 'L', 'P'].contains c

/-- How many hexadecimal digits the escape letter asks for. -/
def hexEscapeWidth? (c : Char) : Option Nat :=
  if c == 'x' then some 2 else if c == 'u' then some 4 else if c == 'U' then some 8 else none

end PlaybookServer.Source

/-
Module: PlaybookServer.Text.Blank
Purpose: Whitespace in the sense of the Unicode property White_Space, and trimming by it. Functions work
  on lists of characters, where trimming is `dropWhile` at one end or the other.
Main exports: isBlank, trimStart, trimEnd, trim, isBlankLine
-/

namespace PlaybookServer.Text

/-- The characters with the Unicode property White_Space. -/
def isBlank (c : Char) : Bool :=
  let n := c.toNat
  (0x9 ≤ n && n ≤ 0xD) || n == 0x20 || n == 0x85 || n == 0xA0 || n == 0x1680
  || (0x2000 ≤ n && n ≤ 0x200A) || n == 0x2028 || n == 0x2029 || n == 0x202F || n == 0x205F
  || n == 0x3000

/-- Drop characters satisfying `p` from the end. -/
def dropEndWhile (p : Char → Bool) (cs : List Char) : List Char := (cs.reverse.dropWhile p).reverse

/-- Without leading whitespace. -/
def trimStart (cs : List Char) : List Char := cs.dropWhile isBlank

/-- Without trailing whitespace. -/
def trimEnd (cs : List Char) : List Char := dropEndWhile isBlank cs

/-- Without whitespace at either end. -/
def trim (cs : List Char) : List Char := trimEnd (trimStart cs)

/-- Whether a line holds nothing but whitespace. -/
def isBlankLine (cs : List Char) : Bool := cs.all isBlank

/-- A string without whitespace at either end. -/
def trimmed (s : String) : String := String.ofList (trim s.toList)

end PlaybookServer.Text

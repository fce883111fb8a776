/-
Module: PlaybookServer.Url.Name.Ascii
Purpose: Names of hosts in ASCII. Characters are replaced first; then each part of the name, ASCII forms read
  back, must be a good part, and the parts that are not ASCII are written in their ASCII forms.
Main exports: asciiName?
-/
import PlaybookServer.Url.Name.Direction
import PlaybookServer.Url.Name.Joining
import PlaybookServer.Url.Name.Mapping
import PlaybookServer.Url.Name.Punycode
import PlaybookServer.Url.Percent

namespace PlaybookServer.Url

open Text

/-- Characters that no registered name holds. -/
def forbiddenInName (c : Char) : Bool := controlSet c || " %#/:<>?@[\\]^|".toList.elem c

/-- Whether a text is ASCII. -/
def isAsciiText (cs : List Char) : Bool := cs.all fun c => c.toNat < 128

/-- What the ASCII form of a part of a name starts with. -/
def asciiFormStem : List Char := "xn--".toList

/-- A part of a name as it is read: the text that an ASCII form stands for, which must need that form and be as
    the replacements would leave it. -/
def readPart? (cs : List Char) : Option (List Char) :=
  if cs.take 4 = asciiFormStem then
    if isAsciiText cs then do
      let text ← Punycode.decode? (cs.drop 4)
      if isAsciiText text || !text.all isAllowedInName || composed text ≠ text then none else some text
    else none
  else some cs

/-- Whether a part of a name is good, directions aside. -/
def isGoodPart (cs : List Char) : Bool := !cs.any forbiddenInName && !isLeadingMark cs && joinersFit cs

/-- A name in ASCII; none if it is no good name. -/
def asciiName? (cs : List Char) : Option (List Char) := do
  let parts := splitOn '.' (← mapName? cs)
  let texts ← parts.mapM readPart?
  if !texts.all isGoodPart then none
  else if texts.any hasRightToLeft && !texts.all keepsDirection then none
  else
    let written := parts.map fun p => if isAsciiText p then p else asciiFormStem ++ Punycode.encode p
    return joinWith ['.'] written

end PlaybookServer.Url

/-
Module: PlaybookServer.Text.Lines
Purpose: Cutting text at a separator and joining it again, on lists of characters and on strings.
Main exports: splitOn, joinWith, lines, cut?, splitAt?
-/
import PlaybookServer.Text.Blank

namespace PlaybookServer.Text

/-- Cut at every occurrence of a character. There is always at least one piece. -/
def splitOn (sep : Char) : List Char → List (List Char)
  | [] => [[]]
  | c :: cs =>
    if c = sep then [] :: splitOn sep cs
    else
      match splitOn sep cs with
      | [] => [[c]]
      | piece :: pieces => (c :: piece) :: pieces

/-- Join pieces with a separator between them. -/
def joinWith (sep : List Char) : List (List Char) → List Char
  | [] => []
  | [piece] => piece
  | piece :: pieces => piece ++ sep ++ joinWith sep pieces

/-- What follows `stem` if the text starts with it. -/
def stripStem? : List Char → List Char → Option (List Char)
  | [], cs => some cs
  | _ :: _, [] => none
  | p :: ps, c :: cs => if p = c then stripStem? ps cs else none

/-- Whether a text starts with another. -/
def startsWith (cs stem : List Char) : Bool := (stripStem? stem cs).isSome

/-- Whether a text ends with another. -/
def endsWith (cs tail : List Char) : Bool := startsWith cs.reverse tail.reverse

/-- What precedes `tail` if the text ends with it. -/
def stripTail? (tail cs : List Char) : Option (List Char) :=
  (stripStem? tail.reverse cs.reverse).map List.reverse

/-- The text before and after the first occurrence of a pattern. -/
def cut? (pattern : List Char) : List Char → Option (List Char × List Char)
  | [] => if pattern.isEmpty then some ([], []) else none
  | c :: cs =>
    match stripStem? pattern (c :: cs) with
    | some rest => some ([], rest)
    | none => (cut? pattern cs).map fun (before, rest) => (c :: before, rest)

/-- Whether a pattern occurs in a text. -/
def contains (cs pattern : List Char) : Bool := (cut? pattern cs).isSome

/-- Replace every occurrence of a non-empty pattern, from the left, without overlaps. -/
def replaceAll (pattern new : List Char) (cs : List Char) : List Char :=
  go cs.length cs
where
  /-- The fuel bounds the number of replacements. -/
  go : Nat → List Char → List Char
    | 0, cs => cs
    | fuel + 1, cs =>
      match cut? pattern cs with
      | none => cs
      | some (before, rest) => before ++ new ++ go fuel rest

/-- A line without the carriage return of its break. -/
def withoutReturn (line : List Char) : List Char := (stripTail? ['\r'] line).getD line

/-- The lines of a text: pieces between line feeds, where a carriage return before the feed belongs to the
    break; a final line feed does not open another line. -/
def lines (cs : List Char) : List (List Char) :=
  let pieces := splitOn '\n' cs
  match pieces.getLast? with
  | none | some [] => pieces.dropLast.map withoutReturn
  | some last => pieces.dropLast.map withoutReturn ++ [last]

/-- The words of a text: maximal runs without whitespace. -/
def words (cs : List Char) : List (List Char) :=
  go cs []
where
  /-- `word` holds the current word backwards. -/
  go : List Char → List Char → List (List Char)
    | [], word => if word.isEmpty then [] else [word.reverse]
    | c :: cs, word =>
      if isBlank c then (if word.isEmpty then go cs [] else word.reverse :: go cs [])
      else go cs (c :: word)

/-! ### The same on strings -/

/-- Cut a string at every occurrence of a character. -/
def pieces (sep : Char) (s : String) : List String := (splitOn sep s.toList).map String.ofList

/-- Join strings with a separator. -/
def join (sep : String) (parts : List String) : String :=
  String.ofList (joinWith sep.toList (parts.map String.toList))

/-- Whether a string starts with another. -/
def hasStem (s stem : String) : Bool := startsWith s.toList stem.toList

/-- Whether a string ends with another. -/
def hasTail (s tail : String) : Bool := endsWith s.toList tail.toList

/-- Whether a string occurs in another. -/
def occursIn (pattern s : String) : Bool := contains s.toList pattern.toList

/-- The rest of a string after a given beginning. -/
def afterStem? (stem s : String) : Option String := (stripStem? stem.toList s.toList).map String.ofList

/-- The beginning of a string before a given end. -/
def beforeTail? (tail s : String) : Option String := (stripTail? tail.toList s.toList).map String.ofList

/-- A string before and after the first occurrence of a pattern. -/
def cutAt? (pattern s : String) : Option (String × String) :=
  (cut? pattern.toList s.toList).map fun (a, b) => (String.ofList a, String.ofList b)

/-- A string before and after the last occurrence of a character. -/
def cutLast? (sep : Char) (s : String) : Option (String × String) :=
  let cs := s.toList
  let tail := (cs.reverse.takeWhile (· ≠ sep)).reverse
  if tail.length < cs.length then
    some (String.ofList (cs.take (cs.length - tail.length - 1)), String.ofList tail)
  else none

/-- A string with every occurrence of a pattern replaced. -/
def replaced (pattern new s : String) : String :=
  String.ofList (replaceAll pattern.toList new.toList s.toList)

/-- The lines of a string. -/
def linesOf (s : String) : List String := (lines s.toList).map String.ofList

/-- The words of a string. -/
def wordsOf (s : String) : List String := (words s.toList).map String.ofList

/-- A string without line breaks and blanks at its end. -/
def trimmedEnd (s : String) : String := String.ofList (trimEnd s.toList)

/-- A string without blanks at its start. -/
def trimmedStart (s : String) : String := String.ofList (trimStart s.toList)

end PlaybookServer.Text

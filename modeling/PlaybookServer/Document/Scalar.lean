/-
Module: PlaybookServer.Document.Scalar
Purpose: The value of a scalar from its written form: folding of line breaks, escapes of quoted scalars,
  indentation and chomping of block scalars.
Main exports: foldLines, quotedValue, unescape, Chomp, blockValue, blankLinesAfter
-/
import PlaybookServer.Text.Lines
import PlaybookServer.Text.Span

namespace PlaybookServer.Scalar

open Text

/-- Lines after the first of a folded scalar, with the number of blank lines met before them. -/
def foldRest : Nat → List (List Char) → List Char
  | _, [] => []
  | blanks, line :: rest =>
    let line := trim (dropEndWhile (· = '\r') line)
    if line.isEmpty then foldRest (blanks + 1) rest
    else
      (if blanks = 0 then [' '] else List.replicate blanks '\n') ++ line ++ foldRest 0 rest

/-- Fold the line breaks of a flow scalar: a single break becomes a space, and of several breaks all
    but one stay. Blank lines at the end vanish. -/
def foldLines (raw : List Char) : List Char :=
  match splitOn '\n' raw with
  | [] => []
  | [_] => raw
  | first :: rest => trimEnd (dropEndWhile (· = '\r') first) ++ foldRest 0 rest

/-- Value of a hexadecimal digit. -/
def hexDigit? (c : Char) : Option Nat :=
  if '0' ≤ c ∧ c ≤ '9' then some (c.toNat - '0'.toNat)
  else if 'a' ≤ c ∧ c ≤ 'f' then some (c.toNat - 'a'.toNat + 10)
  else if 'A' ≤ c ∧ c ≤ 'F' then some (c.toNat - 'A'.toNat + 10)
  else none

/-- Value of a non-empty run of hexadecimal digits. -/
def hexDigits? : List Char → Option Nat
  | [] => none
  | cs => cs.foldl (fun acc c => acc.bind fun n => (hexDigit? c).map (n * 16 + ·)) (some 0)

/-- The character a hexadecimal number names; one sign `+` may precede the digits. -/
def hexChar? (cs : List Char) : Option Char :=
  let digits := match cs with
    | '+' :: rest => rest
    | _ => cs
  (hexDigits? digits).bind fun n => if n.isValidChar then some (Char.ofNat n) else none

/-- The character a one-letter escape stands for. -/
def shortEscape? : Char → Option Char
  | 'n' => some '\n'
  | 't' => some '\t'
  | 'r' => some '\r'
  | '0' => some '\x00'
  | '"' => some '"'
  | '\\' => some '\\'
  | '/' => some '/'
  | ' ' => some ' '
  | _ => none

/-- Number of digits a hexadecimal escape takes. -/
def hexWidth? : Char → Option Nat
  | 'x' => some 2
  | 'u' => some 4
  | 'U' => some 8
  | _ => none

/-- Resolve the escapes of a double-quoted scalar; an escape that means nothing stays as written. -/
def unescape : List Char → List Char
  | [] => []
  | '\\' :: k :: rest =>
    match shortEscape? k with
    | some c => c :: unescape rest
    | none =>
      match hexWidth? k with
      | some width =>
        match hexChar? (rest.take width) with
        | some c => c :: unescape (rest.drop width)
        | none => '\\' :: k :: (rest.take width ++ unescape (rest.drop width))
      | none => '\\' :: k :: unescape rest
  | c :: rest => c :: unescape rest
termination_by cs => cs.length
decreasing_by all_goals (simp only [List.length_cons, List.length_drop]; omega)

/-- Join doubled single quotes. -/
def undouble : List Char → List Char
  | '\'' :: '\'' :: rest => '\'' :: undouble rest
  | c :: rest => c :: undouble rest
  | [] => []

/-- The value of a quoted scalar without its quotes. -/
def quotedValue (double : Bool) (raw : List Char) : List Char :=
  if double then unescape (foldLines raw) else undouble (foldLines raw)

/-- What happens to the line breaks at the end of a block scalar. -/
inductive Chomp where
  | clip
  | strip
  | keep
deriving DecidableEq, Repr, Inhabited

/-- Number of spaces a line starts with. -/
def indentOf (line : List Char) : Nat := (line.takeWhile (· = ' ')).length

/-- A content line without its indentation. A line too short for it loses its leading whitespace. -/
def unindent (indent : Nat) (line : List Char) : List Char :=
  if isBlankLine line then [] else (dropBytes? indent line).getD (trimStart line)

/-- Content lines of a block scalar joined: with `folded`, a break between two lines of text becomes a
    space unless the second is indented further. -/
def joinBlock (folded : Bool) : Bool → List (List Char) → List Char
  | _, [] => []
  | afterText, line :: rest =>
    let further := match line with
      | c :: _ => c = ' ' || c = '\t'
      | [] => false
    let joint := if folded && afterText && !line.isEmpty && !further then ' ' else '\n'
    joint :: (line ++ joinBlock folded (!line.isEmpty) rest)

/-- The value of a block scalar. `explicit` is the indentation if the header gives one, `after` the
    number of blank lines that follow the body. -/
def blockValue (body : List Char) (folded : Bool) (chomp : Chomp) (explicit : Option Nat)
    (after : Nat) : List Char :=
  let lines := (splitOn '\n' body).map (dropEndWhile (· = '\r'))
  let trailing := (lines.reverse.takeWhile isBlankLine).length
  let content := lines.take (lines.length - trailing)
  let indent := explicit.getD (((content.find? fun l => !isBlankLine l).map indentOf).getD 0)
  match content.map (unindent indent) with
  | [] => []
  | first :: rest =>
    first ++ joinBlock folded (!first.isEmpty) rest
      ++ match chomp with
        | .strip => []
        | .clip => ['\n']
        | .keep => List.replicate (trailing + after + 1) '\n'

/-- Blank lines that follow a place in a text, for a scalar that keeps its breaks. -/
def blankLinesAfter (text : List Char) (stop : Nat) : Nat :=
  let rest := dropBytes stop text
  let rest := match rest with
    | '\n' :: r => r
    | r => r
  let count := ((splitOn '\n' rest).takeWhile isBlankLine).length
  if rest.isEmpty || rest.getLast? = some '\n' then count - 1 else count

end PlaybookServer.Scalar

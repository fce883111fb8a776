/-
Module: PlaybookServer.Text.CodeTable
Purpose: Tables over code points, written as text. An entry is a code point or a first and a last one joined
  by a hyphen, in hexadecimal; a sign and code points joined by plus signs may follow it. Entries stand in
  order and do not overlap, so they are found by halving.
Main exports: CodeEntry, CodeTable, CodeTable.ofLines, CodeTable.find?, CodeTable.covers
-/
import PlaybookServer.Document.Scalar
import PlaybookServer.Text.Lines

namespace PlaybookServer.Text

/-- An entry of a table. -/
structure CodeEntry where
  first : Nat
  last : Nat
  /-- The sign before the values, if the entry has some. -/
  sign : Option Char := none
  values : List Nat := []
deriving DecidableEq, Repr, Inhabited

/-- A table. -/
abbrev CodeTable := Array CodeEntry

/-- A hexadecimal number. -/
def hexNumber (cs : List Char) : Nat := (Scalar.hexDigits? cs).getD 0

/-- Whether a character is a hexadecimal digit. -/
def isHexDigit (c : Char) : Bool := (Scalar.hexDigit? c).isSome

/-- Read an entry. -/
def CodeEntry.ofText (cs : List Char) : CodeEntry :=
  let first := cs.takeWhile isHexDigit
  let rest := cs.drop first.length
  let (last, rest) := match rest with
    | '-' :: rest => (rest.takeWhile isHexDigit, rest.dropWhile isHexDigit)
    | rest => (first, rest)
  let values := match rest with
    | _ :: values => (splitOn '+' values).map hexNumber
    | [] => []
  ⟨hexNumber first, hexNumber last, rest.head?, values⟩

namespace CodeTable

/-- Read a table from its lines. -/
def ofLines (lines : List String) : CodeTable :=
  (lines.flatMap fun s => (splitOn ' ' s.toList).map CodeEntry.ofText).toArray

/-- Halve the part of a table from `low` on, of `size` entries, in which the entry of a code point must lie. -/
def search (t : CodeTable) (n : Nat) : Nat → Nat → Nat → Option CodeEntry
  | 0, _, _ => none
  | fuel + 1, low, size =>
    if size = 0 then none
    else
      let middle := low + size / 2
      match t[middle]? with
      | none => none
      | some e =>
        if n < e.first then search t n fuel low (size / 2)
        else if e.last < n then search t n fuel (middle + 1) (size - size / 2 - 1)
        else some e

/-- The entry of a code point. -/
def find? (t : CodeTable) (n : Nat) : Option CodeEntry := search t n (t.size + 1) 0 t.size

/-- Whether a table has an entry for a character. -/
def covers (t : CodeTable) (c : Char) : Bool := (find? t c.toNat).isSome

end CodeTable

end PlaybookServer.Text

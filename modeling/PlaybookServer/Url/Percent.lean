/-
Module: PlaybookServer.Url.Percent
Purpose: Percent encoding. A set says which ASCII characters are encoded; every other character outside
  ASCII always is. Decoding works on bytes and leaves malformed escapes alone.
Main exports: EncodeSet, encodeWith, percentDecode, pathSet, fragmentSet, querySet, segmentSet
-/
import PlaybookServer.Text.Bytes
import PlaybookServer.Document.Scalar

namespace PlaybookServer.Url

open Text

/-- Which ASCII characters are encoded. -/
abbrev EncodeSet := Char → Bool

/-- Control characters. -/
def controlSet : EncodeSet := fun c => c.toNat < 0x20 || c.toNat = 0x7F

/-- Characters encoded in a fragment. -/
def fragmentSet : EncodeSet := fun c =>
  controlSet c || c = ' ' || c = '"' || c = '<' || c = '>' || c.toNat = 0x60

/-- Characters encoded in a query. -/
def querySet : EncodeSet := fun c =>
  controlSet c || c = ' ' || c = '"' || c = '#' || c = '<' || c = '>'

/-- Characters encoded in the query of a special scheme. -/
def specialQuerySet : EncodeSet := fun c => querySet c || c = '\''

/-- Characters encoded in a path. -/
def pathSet : EncodeSet := fun c =>
  fragmentSet c || c = '#' || c = '?' || c.toNat = 0x7b || c.toNat = 0x7d

/-- Characters encoded in user information. -/
def userSet : EncodeSet := fun c =>
  pathSet c || c = '/' || c = ':' || c = ';' || c = '=' || c = '@' || c = '[' || c = '\\'
  || c = ']' || c = '^' || c = '|'

/-- Characters encoded in one segment of a file path. -/
def segmentSet : EncodeSet := fun c => pathSet c || c = '/' || c = '%' || c = '\\'

/-- Upper-case hexadecimal digit. -/
def upperHex (n : Nat) : Char := "0123456789ABCDEF".toList.getD n '0'

/-- A byte as an escape. -/
def escapeByte (b : Nat) : List Char := ['%', upperHex (b / 16), upperHex (b % 16)]

/-- A character in its encoded form. -/
def encodeChar (set : EncodeSet) (c : Char) : List Char :=
  if c.toNat < 0x80 && !set c then [c] else (Text.encodeChar c).flatMap escapeByte

/-- A text in its encoded form. -/
def encodeWith (set : EncodeSet) (cs : List Char) : List Char := cs.flatMap (encodeChar set)

/-- The bytes of an encoded text. -/
def percentDecode : List Char → List Nat
  | '%' :: a :: b :: rest =>
    match Scalar.hexDigit? a, Scalar.hexDigit? b with
    | some x, some y => (x * 16 + y) :: percentDecode rest
    | _, _ => '%'.toNat :: percentDecode (a :: b :: rest)
  | c :: rest => Text.encodeChar c ++ percentDecode rest
  | [] => []
termination_by cs => cs.length

end PlaybookServer.Url

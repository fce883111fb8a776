/-
Module: PlaybookServer.Text.Bytes
Purpose: Text as bytes and back. Decoding never fails: each maximal ill-formed run that could begin a
  character is replaced by one U+FFFD.
Main exports: encodeChar, encodeUtf8, decodeLossy
-/

namespace PlaybookServer.Text

/-- The UTF-8 bytes of a character. -/
def encodeChar (c : Char) : List Nat :=
  let n := c.toNat
  if n < 0x80 then [n]
  else if n < 0x800 then [0xC0 + n / 64, 0x80 + n % 64]
  else if n < 0x10000 then [0xE0 + n / 4096, 0x80 + n / 64 % 64, 0x80 + n % 64]
  else [0xF0 + n / 262144, 0x80 + n / 4096 % 64, 0x80 + n / 64 % 64, 0x80 + n % 64]

/-- The UTF-8 bytes of a text. -/
def encodeUtf8 (cs : List Char) : List Nat := cs.flatMap encodeChar

/-- Length of a character by its first byte, and the range its second byte must lie in. -/
def leadByte? (b : Nat) : Option (Nat × Nat × Nat) :=
  if 0xC2 ≤ b && b ≤ 0xDF then some (2, 0x80, 0xBF)
  else if b = 0xE0 then some (3, 0xA0, 0xBF)
  else if (0xE1 ≤ b && b ≤ 0xEC) || b = 0xEE || b = 0xEF then some (3, 0x80, 0xBF)
  else if b = 0xED then some (3, 0x80, 0x9F)
  else if b = 0xF0 then some (4, 0x90, 0xBF)
  else if 0xF1 ≤ b && b ≤ 0xF3 then some (4, 0x80, 0xBF)
  else if b = 0xF4 then some (4, 0x80, 0x8F)
  else none

/-- The replacement character. -/
def replacement : Char := Char.ofNat 0xFFFD

/-- How many of the bytes after a lead byte belong to its character, and whether that is all. -/
def followers (length low high : Nat) (rest : List Nat) : Nat × Bool :=
  match rest with
  | [] => (0, false)
  | b :: more =>
    if low ≤ b && b ≤ high then
      let tail := (more.take (length - 2)).takeWhile fun c => 0x80 ≤ c && c ≤ 0xBF
      (1 + tail.length, tail.length = length - 2)
    else (0, false)

/-- Decode bytes as UTF-8, replacing what is ill-formed. -/
def decodeLossy : List Nat → List Char
  | [] => []
  | b :: rest =>
    if b < 0x80 then Char.ofNat b :: decodeLossy rest
    else
      match leadByte? b with
      | none => replacement :: decodeLossy rest
      | some (length, low, high) =>
        let (count, complete) := followers length low high rest
        let c := if complete then
            let lead := if length = 2 then b - 0xC0 else if length = 3 then b - 0xE0 else b - 0xF0
            Char.ofNat ((rest.take count).foldl (fun n c => n * 64 + (c - 0x80)) lead)
          else replacement
        c :: decodeLossy (rest.drop count)
termination_by bs => bs.length
decreasing_by all_goals (simp only [List.length_cons, List.length_drop]; omega)

/-- Whether bytes are well-formed UTF-8. -/
def isUtf8 (bytes : List Nat) : Bool := encodeUtf8 (decodeLossy bytes) = bytes

end PlaybookServer.Text

/-
Module: PlaybookServer.Url.Name.Punycode
Purpose: Parts of names in ASCII: the ASCII characters come first, and the others follow as numbers that say
  where each is inserted, in the order of the code points. Numbers have digits of a mixed base that adapts.
Main exports: Punycode.encode, Punycode.decode?
-/

namespace PlaybookServer.Url.Punycode

/-- The character of a digit. -/
def digitChar (d : Nat) : Char := if d < 26 then Char.ofNat (d + 97) else Char.ofNat (d + 22)

/-- The digit of a character. -/
def digitOf? (c : Char) : Option Nat :=
  if 'a' ≤ c && c ≤ 'z' then some (c.toNat - 97)
  else if '0' ≤ c && c ≤ '9' then some (c.toNat - 22)
  else none

/-- The digit from which on a number goes on at a weight. -/
def threshold (k bias : Nat) : Nat := if k ≤ bias then 1 else if bias + 26 ≤ k then 26 else k - bias

/-- Adapt the bias after a number of that size among so many characters. -/
def adapt (delta points : Nat) (first : Bool) : Nat :=
  let delta := if first then delta / 700 else delta / 2
  go 20 (delta + delta / points) 0
where
  /-- Reduce by powers of the digit range. -/
  go : Nat → Nat → Nat → Nat
    | 0, delta, k => k + 36 * delta / (delta + 38)
    | fuel + 1, delta, k => if 455 < delta then go fuel (delta / 35) (k + 36) else k + 36 * delta / (delta + 38)

/-! ### Writing -/

/-- The digits of a number. -/
def encodeNumber (bias : Nat) : Nat → Nat → Nat → List Char
  | 0, _, _ => []
  | fuel + 1, q, k =>
    let t := threshold k bias
    if q < t then [digitChar q]
    else digitChar (t + (q - t) % (36 - t)) :: encodeNumber bias fuel ((q - t) / (36 - t)) (k + 36)

/-- A text being written. -/
structure Writing where
  n : Nat := 128
  delta : Nat := 0
  bias : Nat := 72
  handled : Nat
  output : List Char

/-- Write every occurrence of the next larger code point. -/
def writeNext (label : List Char) (basic : Nat) (s : Writing) : Writing :=
  let m := (label.filter fun c => s.n ≤ c.toNat).foldl (fun m c => min m c.toNat) 0x110000
  let s := { s with delta := s.delta + (m - s.n) * (s.handled + 1), n := m }
  let s := label.foldl (fun s c =>
    if c.toNat < m then { s with delta := s.delta + 1 }
    else if c.toNat = m then
      { s with
        output := s.output ++ encodeNumber s.bias 50 s.delta 36
        bias := adapt s.delta (s.handled + 1) (s.handled = basic)
        delta := 0
        handled := s.handled + 1 }
    else s) s
  { s with delta := s.delta + 1, n := m + 1 }

/-- The ASCII form of a text. -/
def encode (label : List Char) : List Char :=
  let basic := label.filter fun c => c.toNat < 128
  let start : Writing :=
    { handled := basic.length, output := if basic.isEmpty then [] else basic ++ ['-'] }
  ((List.range label.length).foldl (fun s _ =>
    if s.handled < label.length then writeNext label basic.length s else s) start).output

/-! ### Reading -/

/-- Read a number: its value, added to `i`, and what follows it. -/
def decodeNumber? (bias : Nat) : List Char → Nat → Nat → Nat → Option (Nat × List Char)
  | [], _, _, _ => none
  | c :: rest, k, weight, i => do
    let d ← digitOf? c
    let t := threshold k bias
    if d < t then some (i + d * weight, rest)
    else decodeNumber? bias rest (k + 36) (weight * (36 - t)) (i + d * weight)

/-- Insert a character at a place. -/
def insertAt (c : Char) : Nat → List Char → List Char
  | 0, cs => c :: cs
  | n + 1, d :: cs => d :: insertAt c n cs
  | _ + 1, [] => [c]

/-- Insert the characters that numbers stand for. `first` says that none is inserted yet. -/
def decodeNumbers : Nat → Bool → Nat → Nat → Nat → List Char → List Char → Option (List Char)
  | 0, _, _, _, _, _, out => some out
  | fuel + 1, first, bias, n, i, cs, out =>
    if cs.isEmpty then some out
    else do
      let (j, rest) ← decodeNumber? bias cs 36 1 i
      let points := out.length + 1
      let m := n + j / points
      if m.isValidChar then
        decodeNumbers fuel false (adapt (j - i) points first) m (j % points + 1) rest
          (insertAt (Char.ofNat m) (j % points) out)
      else none

/-- The text of an ASCII form, if it is one. -/
def decode? (cs : List Char) : Option (List Char) :=
  let tail := (cs.reverse.takeWhile (· ≠ '-')).reverse
  let basic := cs.take (cs.length - tail.length - 1)
  decodeNumbers (tail.length + 1) true 72 128 0 tail basic

end PlaybookServer.Url.Punycode

/-
Module: PlaybookServer.Url.Address
Purpose: Hosts of URLs: registered names, IPv4 addresses in their many spellings, and IPv6 addresses with
  their shortest form.
Main exports: UrlFault, UrlFault.message, parseHost, parseOpaqueHost
-/
import PlaybookServer.Text.Lines
import PlaybookServer.Url.Name.Ascii

namespace PlaybookServer.Url

open Text

/-- Why a text is no URL. -/
inductive UrlFault where
  | emptyHost
  | internationalName
  | port
  | ipv4
  | ipv6
  | hostCharacter
  | relative
deriving DecidableEq, Repr, Inhabited

/-- The text of a fault. -/
def UrlFault.message : UrlFault → String
  | .emptyHost => "empty host"
  | .internationalName => "invalid international domain name"
  | .port => "invalid port number"
  | .ipv4 => "invalid IPv4 address"
  | .ipv6 => "invalid IPv6 address"
  | .hostCharacter => "invalid domain character"
  | .relative => "relative URL without a base"

/-! ### IPv4 -/

/-- A part of an IPv4 address: decimal, octal after `0`, hexadecimal after `0x`. -/
def ipv4Number? (part : List Char) : Option Nat :=
  let read := fun (base : Nat) (ds : List Char) =>
    ds.foldl (fun acc c => acc.bind fun n =>
      (Scalar.hexDigit? c).bind fun d => if d < base then some (n * base + d) else none) (some 0)
  match part with
  | [] => none
  | '0' :: x :: rest => if x = 'x' || x = 'X' then read 16 rest else read 8 (x :: rest)
  | _ => read 10 part

/-- The parts of a dotted name; one empty part at the end does not count. -/
def dottedParts (cs : List Char) : List (List Char) :=
  let parts := splitOn '.' cs
  if 1 < parts.length && parts.getLast? = some [] then parts.dropLast else parts

/-- Whether a name must be read as an IPv4 address: its last part is a number. -/
def endsInNumber (cs : List Char) : Bool :=
  match (dottedParts cs).getLast? with
  | none => false
  | some [] => false
  | some last => last.all Char.isDigit
      || (match last with
          | '0' :: x :: rest => (x = 'x' || x = 'X') && rest.all fun c => (Scalar.hexDigit? c).isSome
          | _ => false)

/-- Read an IPv4 address; the last part fills the bytes that are left. -/
def parseIpv4 (cs : List Char) : Except UrlFault String := do
  let parts := dottedParts cs
  if 4 < parts.length then throw .ipv4
  let numbers := parts.map ipv4Number?
  if numbers.any Option.isNone then throw .ipv4
  let numbers := numbers.filterMap id
  let last := numbers.getLastD 0
  let front := numbers.dropLast
  if front.any fun n => 255 < n then throw .ipv4
  if Nat.pow 256 (4 - front.length) ≤ last then throw .ipv4
  let value := ((List.range front.length).zip front).foldl (fun acc (i, n) => acc + n * Nat.pow 256 (3 - i)) last
  return join "." ([3, 2, 1, 0].map fun i => toString (value / Nat.pow 256 i % 256))

/-! ### IPv6 -/

/-- A group of one to four hexadecimal digits. -/
def ipv6Group? (cs : List Char) : Option Nat :=
  if cs.isEmpty || 4 < cs.length then none else Scalar.hexDigits? cs

/-- The two groups of a dotted IPv4 tail. -/
def ipv6Tail? (cs : List Char) : Option (List Nat) :=
  let parts := splitOn '.' cs
  let number := fun (p : List Char) =>
    if p.isEmpty || !p.all Char.isDigit || (1 < p.length && p.head? = some '0') then none
    else
      let n := p.foldl (fun n c => n * 10 + (c.toNat - 48)) 0
      if n ≤ 255 then some n else none
  match parts.map number with
  | [some a, some b, some c, some d] => some [a * 256 + b, c * 256 + d]
  | _ => none

/-- Groups separated by colons; the last may be an IPv4 tail. -/
def ipv6Groups? (cs : List Char) : Option (List Nat) :=
  if cs.isEmpty then some []
  else
    let parts := splitOn ':' cs
    let front := parts.dropLast.map ipv6Group?
    let last := parts.getLastD []
    let tail := if last.elem '.' then ipv6Tail? last else (ipv6Group? last).map ([·])
    if front.any Option.isNone then none
    else tail.map fun t => front.filterMap id ++ t

/-- Read the eight groups of an IPv6 address; `::` stands for at least one zero group. -/
def parseIpv6 (cs : List Char) : Except UrlFault (List Nat) :=
  let result := match cut? [':', ':'] cs with
    | some (before, after) =>
      match ipv6Groups? before, ipv6Groups? after with
      | some b, some a =>
        if b.length + a.length < 8 && !(before.elem '.') then
          some (b ++ List.replicate (8 - b.length - a.length) 0 ++ a)
        else none
      | _, _ => none
    | none =>
      match ipv6Groups? cs with
      | some g => if g.length = 8 then some g else none
      | none => none
  match result with
  | some g => .ok g
  | none => .error .ipv6

/-- Start and length of the first longest run of zero groups. -/
def longestZeros (groups : List Nat) : Nat × Nat :=
  let step := fun (acc : (Nat × Nat) × Nat × Nat) (g : Nat) =>
    let (best, run, index) := acc
    let run := if g = 0 then run + 1 else 0
    let best := if best.2 < run then (index + 1 - run, run) else best
    (best, run, index + 1)
  (groups.foldl step ((0, 0), 0, 0)).1

/-- A group without leading zeros. -/
def groupText (g : Nat) : String := String.ofList (Nat.toDigits 16 g)

/-- The shortest form of an IPv6 address. -/
def ipv6Text (groups : List Nat) : String :=
  let (start, length) := longestZeros groups
  let text := fun gs => join ":" (gs.map groupText)
  if length < 2 then text groups
  else text (groups.take start) ++ "::" ++ text (groups.drop (start + length))

/-! ### Hosts -/

/-- Characters no opaque host holds. -/
def forbiddenInOpaque (c : Char) : Bool := "\x00\t\n\r #/:<>?@[\\]^|".toList.elem c

/-- A registered name in ASCII. -/
def nameToAscii (cs : List Char) : Except UrlFault (List Char) :=
  match asciiName? cs with
  | none => .error .internationalName
  | some [] => .error .emptyHost
  | some name => .ok name

/-- Read the host of a special URL. -/
def parseHost (cs : List Char) : Except UrlFault String :=
  match cs with
  | '[' :: rest =>
    if rest.getLast? = some ']' then do
      return "[" ++ ipv6Text (← parseIpv6 rest.dropLast) ++ "]"
    else .error .ipv6
  | _ => do
    let name ← nameToAscii (decodeLossy (percentDecode cs))
    if endsInNumber name then parseIpv4 name else return String.ofList name

/-- Read the host of any other URL. -/
def parseOpaqueHost (cs : List Char) : Except UrlFault String :=
  match cs with
  | '[' :: rest =>
    if rest.getLast? = some ']' then do
      return "[" ++ ipv6Text (← parseIpv6 rest.dropLast) ++ "]"
    else .error .ipv6
  | _ =>
    if cs.any forbiddenInOpaque then .error .hostCharacter
    else .ok (String.ofList (encodeWith controlSet cs))

end PlaybookServer.Url

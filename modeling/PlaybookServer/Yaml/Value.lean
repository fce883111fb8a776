/-
Module: PlaybookServer.Yaml.Value
Purpose: YAML values, and the kinds that plain scalars resolve to.
Main exports: Number, Value, Value.get?, Value.asString?, Value.ofPlain, Plain, resolvePlain
-/
import PlaybookServer.Decimal.Read
import PlaybookServer.Decimal.Shortest
import PlaybookServer.Text.Lines
import PlaybookServer.Document.Scalar

namespace PlaybookServer.Yaml

/-- A number. Doubles are kept by their bits. -/
inductive Number where
  | int (i : Int)
  | float (bits : UInt64)
deriving DecidableEq, Repr, Inhabited

namespace Number

/-- Whether bits stand for no number. -/
def isNaN (bits : UInt64) : Bool := Decimal.Class.ofBits bits = .notANumber

/-- Whether two numbers are the same key: of one kind and equal, all NaN being one. -/
def same : Number → Number → Bool
  | .int a, .int b => a = b
  | .float a, .float b =>
    a = b || (isNaN a && isNaN b) || (a <<< 1 = 0 && b <<< 1 = 0)
  | _, _ => false

/-- Text of a number. -/
def text : Number → String
  | .int i => toString i
  | .float bits =>
    match Decimal.Class.ofBits bits with
    | .notANumber => ".nan"
    | .infinite => if Decimal.isNegative bits then "-.inf" else ".inf"
    | .finite _ => Decimal.jsonStyle.render bits

end Number

/-- A YAML value. Mappings keep their order; a tag is kept without its exclamation mark. -/
inductive Value where
  | null
  | bool (b : Bool)
  | number (n : Number)
  | string (s : String)
  | sequence (items : List Value)
  | mapping (entries : List (Value × Value))
  | tagged (tag : String) (value : Value)
deriving Repr, Inhabited

namespace Value

mutual

/-- Whether two values are the same key. Mappings are compared without regard to order. -/
def same : Value → Value → Bool
  | .null, .null => true
  | .bool a, .bool b => a = b
  | .number a, .number b => a.same b
  | .string a, .string b => a = b
  | .sequence xs, .sequence ys => sameItems xs ys
  | .mapping xs, .mapping ys => xs.length = ys.length && sameEntries xs ys
  | .tagged s a, .tagged t b => s = t && same a b
  | _, _ => false

/-- The same item by item. -/
def sameItems : List Value → List Value → Bool
  | [], [] => true
  | x :: xs, y :: ys => same x y && sameItems xs ys
  | _, _ => false

/-- Whether each entry has its like in the other mapping. -/
def sameEntries : List (Value × Value) → List (Value × Value) → Bool
  | [], _ => true
  | (k, v) :: xs, ys => (ys.any fun e => same k e.1 && same v e.2) && sameEntries xs ys

end

/-- A value without its tags. -/
def untagged : Value → Value
  | .tagged _ v => v.untagged
  | v => v

/-- The value of a text key. -/
def get? (v : Value) (key : String) : Option Value :=
  match v.untagged with
  | .mapping entries =>
    (entries.find? fun e => match e.1 with
      | .string s => s = key
      | _ => false).map Prod.snd
  | _ => none

/-- The text of a string. -/
def asString? (v : Value) : Option String :=
  match v.untagged with
  | .string s => some s
  | _ => none

/-- A truth value. -/
def asBool? (v : Value) : Option Bool :=
  match v.untagged with
  | .bool b => some b
  | _ => none

/-- The items of a sequence. -/
def asSequence? (v : Value) : Option (List Value) :=
  match v.untagged with
  | .sequence xs => some xs
  | _ => none

/-- The entries of a mapping. -/
def asMapping? (v : Value) : Option (List (Value × Value)) :=
  match v.untagged with
  | .mapping es => some es
  | _ => none

/-- Whether a value is null. -/
def isNull (v : Value) : Bool :=
  match v.untagged with
  | .null => true
  | _ => false

end Value

/-! ### Plain scalars -/

/-- What the text of a scalar stands for. -/
inductive Plain where
  | null
  | bool (b : Bool)
  /-- An integer of at most 64 bits. -/
  | int (i : Int)
  /-- An integer of at most 128 bits that does not fit 64. -/
  | wide (i : Int)
  | float (bits : UInt64)
  | text (s : String)
deriving DecidableEq, Repr, Inhabited

/-- Spellings of null. -/
def isNullWord (s : String) : Bool := ["null", "Null", "NULL", "~"].contains s

/-- Spellings of the truth values. -/
def boolWord? (s : String) : Option Bool :=
  if ["true", "True", "TRUE"].contains s then some true
  else if ["false", "False", "FALSE"].contains s then some false
  else none

/-- Digits in a base up to sixteen, at least one. -/
def baseDigits? (base : Nat) (cs : List Char) : Option Nat :=
  if cs.isEmpty then none
  else cs.foldl (fun acc c => do
    let n ← acc
    let d ← Scalar.hexDigit? c
    if d < base then some (n * base + d) else none) (some 0)

/-- Digits of a base after its mark. -/
def markedDigits? (cs : List Char) : Option Nat :=
  match cs with
  | '0' :: 'x' :: ds => baseDigits? 16 ds
  | '0' :: 'o' :: ds => baseDigits? 8 ds
  | '0' :: 'b' :: ds => baseDigits? 2 ds
  | _ => none

/-- Several digits that start with zero are text. -/
def isZeroPadded (cs : List Char) : Bool :=
  let ds := match cs with
    | '-' :: ds => ds
    | '+' :: ds => ds
    | ds => ds
  match ds with
  | '0' :: c :: more => (c :: more).all Char.isDigit
  | _ => false

/-- The integer a text denotes, of any size, with whether it has a minus sign. -/
def integer? (cs : List Char) : Option Int :=
  match cs with
  | '-' :: ds =>
    ((markedDigits? ds).orElse fun _ => if isZeroPadded cs then none else baseDigits? 10 ds).map
      fun n => -(n : Int)
  | _ =>
    let ds := match cs with
      | '+' :: ds => ds
      | ds => ds
    ((markedDigits? ds).orElse fun _ => if isZeroPadded cs then none else baseDigits? 10 ds).map
      fun n => (n : Int)

/-- Sort an integer by its size; beyond 128 bits it is none. -/
def Plain.ofInteger? (i : Int) : Option Plain :=
  if -9223372036854775808 ≤ i && i < 18446744073709551616 then some (.int i)
  else if -170141183460469231731687303715884105728 ≤ i && i < 340282366920938463463374607431768211456 then
    some (.wide i)
  else none

/-- The integer a text denotes. -/
def plainInteger? (s : String) : Option Plain := (integer? s.toList).bind Plain.ofInteger?

/-- The double a text denotes. -/
def plainFloat? (s : String) : Option UInt64 :=
  let cs := s.toList
  let unsigned := match cs with
    | '+' :: rest => rest
    | cs => cs
  let infinity : UInt64 := 0x7FF0000000000000
  if cs.head? = some '+' && (unsigned.head?.any fun c => c = '+' || c = '-') then none
  else if [".inf", ".Inf", ".INF"].contains (String.ofList unsigned) then some infinity
  else if ["-.inf", "-.Inf", "-.INF"].contains s then some (infinity + 0x8000000000000000)
  else if [".nan", ".NaN", ".NAN"].contains s then some 0x7FF8000000000000
  else Decimal.read? unsigned

/-- What a plain scalar stands for. -/
def resolvePlain (s : String) : Plain :=
  if s = "" || isNullWord s then .null
  else
    match boolWord? s with
    | some b => .bool b
    | none =>
      match plainInteger? s with
      | some p => p
      | none =>
        match if isZeroPadded s.toList then none else plainFloat? s with
        | some bits => .float bits
        | none => .text s

end PlaybookServer.Yaml

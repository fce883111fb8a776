/-
Module: PlaybookServer.Decimal.Shortest
Purpose: Decimal text of doubles. The digits are the fewest that read back as the same double, and of
  several such the nearest ones; the search is done in exact arithmetic on the bits. A `Notation` says
  where positional writing ends.
Main exports: Binary, Binary.ofBits, shortest, Notation, Notation.render, plainStyle, jsonStyle
-/

namespace PlaybookServer.Decimal

/-- A finite double `significand * 2 ^ exponent`. `narrow` marks a power of two, where the gap to the
    neighbour below is half the gap above. -/
structure Binary where
  significand : Nat
  exponent : Int
  narrow : Bool
deriving DecidableEq, Repr, Inhabited

/-- What the bits of a double stand for. -/
inductive Class where
  | finite (b : Binary)
  | infinite
  | notANumber
deriving DecidableEq, Repr, Inhabited

/-- Whether the sign bit is set. -/
def isNegative (bits : UInt64) : Bool := bits >>> 63 = 1

/-- Decode the bits of a double, the sign apart. -/
def Class.ofBits (bits : UInt64) : Class :=
  let biased := ((bits >>> 52) &&& 0x7FF).toNat
  let fraction := (bits &&& 0xFFFFFFFFFFFFF).toNat
  if biased = 0x7FF then (if fraction = 0 then .infinite else .notANumber)
  else if biased = 0 then .finite ⟨fraction, -1074, false⟩
  else .finite ⟨fraction + Nat.pow 2 52, (biased : Int) - 1075, fraction = 0 && 1 < biased⟩

/-- Numerator of `n * base ^ e` over the denominator `scaleDen e base`. -/
def scaleNum (n : Nat) (base : Nat) (e : Int) : Nat := if 0 ≤ e then n * Nat.pow base e.toNat else n

/-- Denominator that goes with `scaleNum`. -/
def scaleDen (base : Nat) (e : Int) : Nat := if 0 ≤ e then 1 else Nat.pow base (-e).toNat

/-- Whether `digits * 10 ^ e` reads back as `b`: it lies between the halfway points to the neighbours,
    which belong to `b` exactly when its significand is even. -/
def Binary.readsBack (b : Binary) (digits : Nat) (e : Int) : Bool :=
  -- Four times the value, so that quarter gaps are whole.
  let num := 4 * scaleNum digits 10 e
  let den := scaleDen 10 e
  let lowGap := if b.narrow then 1 else 2
  let low := scaleNum (4 * b.significand - lowGap) 2 b.exponent
  let high := scaleNum (4 * b.significand + 2) 2 b.exponent
  let bden := scaleDen 2 b.exponent
  let left := num * bden
  if b.significand % 2 = 0 then low * den ≤ left && left ≤ high * den
  else low * den < left && left < high * den

/-- The whole part of `b / 10 ^ e`. -/
def Binary.quotient (b : Binary) (e : Int) : Nat :=
  (scaleNum b.significand 2 b.exponent * scaleDen 10 e) / (scaleDen 2 b.exponent * scaleNum 1 10 e)

/-- Whether `b` is nearer to `(n + 1) * 10 ^ e` than to `n * 10 ^ e`, or as near and `n` odd. -/
def Binary.roundsUp (b : Binary) (n : Nat) (e : Int) : Bool :=
  let twice := 2 * scaleNum b.significand 2 b.exponent * scaleDen 10 e
  let middle := (2 * n + 1) * scaleNum 1 10 e * scaleDen 2 b.exponent
  middle < twice || (middle = twice && n % 2 = 1)

/-- Drop trailing zeros into the exponent. -/
def stripZeros : Nat → Nat → Int → Nat × Int
  | 0, n, e => (n, e)
  | fuel + 1, n, e => if n ≠ 0 && n % 10 = 0 then stripZeros fuel (n / 10) (e + 1) else (n, e)

/-- Search finer and finer grids, from `10 ^ e` down, for a decimal that reads back. -/
def Binary.search (b : Binary) : Nat → Int → Nat × Int
  | 0, e => (b.quotient e, e)
  | fuel + 1, e =>
    let n := b.quotient e
    let low := n ≠ 0 && b.readsBack n e
    let high := b.readsBack (n + 1) e
    if low && high then (if b.roundsUp n e then n + 1 else n, e)
    else if low then (n, e)
    else if high then (n + 1, e)
    else b.search fuel (e - 1)

/-- The least `k` with `b < 10 ^ k`, from an estimate at most a few steps below it. -/
def Binary.scaleFrom (b : Binary) : Nat → Int → Int
  | 0, k => k
  | fuel + 1, k => if b.quotient k = 0 then k else b.scaleFrom fuel (k + 1)

/-- Digits and exponent of the shortest decimal of a double that is not zero. -/
def Binary.shortest (b : Binary) : Nat × Int :=
  let estimate := (((b.significand.log2 : Int) + b.exponent) * 30103) / 100000 - 2
  let scale := b.scaleFrom 10 estimate
  let (n, e) := b.search 17 (scale - 1)
  stripZeros 400 n e

/-- Where positional writing ends: the decimal point of `0.digits * 10 ^ point` is written out while
    `point` lies in the range. -/
structure Notation where
  positional : Int → Bool

/-- Always positional. -/
def plainStyle : Notation := ⟨fun _ => true⟩

/-- Positional up to sixteen digits before the point and four zeros after it. -/
def jsonStyle : Notation := ⟨fun point => -5 < point && point ≤ 16⟩

/-- The digits of a natural number. -/
def digitsOf (n : Nat) : List Char := (toString n).toList

/-- Text of a double; whole numbers keep `.0`. -/
def Notation.render (style : Notation) (bits : UInt64) : String :=
  let sign := if isNegative bits then "-" else ""
  match Class.ofBits bits with
  | .infinite => sign ++ "inf"
  | .notANumber => "NaN"
  | .finite b =>
    if b.significand = 0 then sign ++ "0.0"
    else
      let (n, e) := b.shortest
      let ds := digitsOf n
      let point := (ds.length : Int) + e
      let zeros := fun (k : Int) => List.replicate k.toNat '0'
      let text :=
        if style.positional point then
          if 0 ≤ e then ds ++ zeros e ++ ['.', '0']
          else if 0 < point then ds.take point.toNat ++ ['.'] ++ ds.drop point.toNat
          else ['0', '.'] ++ zeros (-point) ++ ds
        else
          let exponent := (toString (point - 1)).toList
          match ds with
          | [d] => [d, 'e'] ++ exponent
          | d :: more => [d, '.'] ++ more ++ ['e'] ++ exponent
          | [] => []
      sign ++ String.ofList text

end PlaybookServer.Decimal

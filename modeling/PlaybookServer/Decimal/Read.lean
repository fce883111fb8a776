/-
Module: PlaybookServer.Decimal.Read
Purpose: Doubles from decimal text: an optional sign, digits with an optional point, an optional exponent.
  The result is the nearest double; text whose value is too large for one has no result.
Main exports: Decimal.read?
-/

namespace PlaybookServer.Decimal

/-- Value of a run of digits. -/
def digitsValue (ds : List Char) : Nat := ds.foldl (fun n c => n * 10 + (c.toNat - '0'.toNat)) 0

/-- The exponent a text denotes after its letter. -/
def readExponent? (cs : List Char) : Option Int :=
  let (negative, ds) := match cs with
    | '-' :: ds => (true, ds)
    | '+' :: ds => (false, ds)
    | ds => (false, ds)
  if ds.isEmpty || !ds.all Char.isDigit then none
  else
    let n : Int := digitsValue ds
    some (if negative then -n else n)

/-- The nearest double of `digits * 10 ^ e`; `none` if it is too large. -/
def nearest? (digits : List Char) (e : Int) : Option Float :=
  let significant := digits.dropWhile (· = '0')
  let top := (significant.length : Int) + e
  if significant.isEmpty || top < -400 then some 0.0
  else if 400 < top then none
  else
    let f := Float.ofScientific (digitsValue significant) (e < 0) e.natAbs
    if f.isInf then none else some f

/-- The bits of the double that a decimal text denotes. -/
def read? (cs : List Char) : Option UInt64 := do
  let (negative, cs) := match cs with
    | '-' :: rest => (true, rest)
    | '+' :: rest => (false, rest)
    | cs => (false, cs)
  let whole := cs.takeWhile Char.isDigit
  let cs := cs.dropWhile Char.isDigit
  let (decimals, cs) := match cs with
    | '.' :: rest => (rest.takeWhile Char.isDigit, rest.dropWhile Char.isDigit)
    | cs => ([], cs)
  if whole.isEmpty && decimals.isEmpty then none
  let exponent ← match cs with
    | [] => some 0
    | c :: rest => if c = 'e' || c = 'E' then readExponent? rest else none
  let f ← nearest? (whole ++ decimals) (exponent - decimals.length)
  return (if negative then -f else f).toBits

end PlaybookServer.Decimal

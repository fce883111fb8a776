/-
Module: PlaybookServer.Json.Value
Purpose: JSON values. Whole numbers in the range of 64-bit words are kept exactly; every other number is
  a double, kept by its bits. Objects keep their fields in a list with distinct names.
Main exports: Number, Json, Json.get?, Json.set
-/

namespace PlaybookServer

/-- A JSON number. -/
inductive Number where
  | int (value : Int)
  /-- A double, by its bits. -/
  | float (bits : UInt64)
deriving DecidableEq, Repr, Inhabited

/-- A JSON value. -/
inductive Json where
  | null
  | bool (b : Bool)
  | number (n : Number)
  | string (s : String)
  | array (items : List Json)
  | object (fields : List (String × Json))
deriving Repr, Inhabited

namespace Json

-- The type is nested in lists, so the instance is written out.
mutual
/-- Whether two values are equal. -/
def decEq : (a b : Json) → Decidable (a = b)
  | .null, .null => isTrue rfl
  | .bool a, .bool b => decidable_of_iff (a = b) (by simp)
  | .number a, .number b => decidable_of_iff (a = b) (by simp)
  | .string a, .string b => decidable_of_iff (a = b) (by simp)
  | .array a, .array b => @decidable_of_iff _ (a = b) (by simp) (decEqItems a b)
  | .object a, .object b => @decidable_of_iff _ (a = b) (by simp) (decEqFields a b)
  | .null, .bool _ | .null, .number _ | .null, .string _ | .null, .array _ | .null, .object _
  | .bool _, .null | .bool _, .number _ | .bool _, .string _ | .bool _, .array _ | .bool _, .object _
  | .number _, .null | .number _, .bool _ | .number _, .string _ | .number _, .array _ | .number _, .object _
  | .string _, .null | .string _, .bool _ | .string _, .number _ | .string _, .array _ | .string _, .object _
  | .array _, .null | .array _, .bool _ | .array _, .number _ | .array _, .string _ | .array _, .object _
  | .object _, .null | .object _, .bool _ | .object _, .number _ | .object _, .string _ | .object _, .array _ =>
    isFalse nofun

/-- Whether two lists of values are equal. -/
def decEqItems : (as bs : List Json) → Decidable (as = bs)
  | [], [] => isTrue rfl
  | [], _ :: _ | _ :: _, [] => isFalse nofun
  | a :: as, b :: bs => @decidable_of_iff _ (a = b ∧ as = bs) (by simp)
      (@instDecidableAnd _ _ (decEq a b) (decEqItems as bs))

/-- Whether two lists of fields are equal. -/
def decEqFields : (as bs : List (String × Json)) → Decidable (as = bs)
  | [], [] => isTrue rfl
  | [], _ :: _ | _ :: _, [] => isFalse nofun
  | (m, a) :: as, (n, b) :: bs => @decidable_of_iff _ (m = n ∧ a = b ∧ as = bs) (by simp [and_assoc])
      (@instDecidableAnd _ _ _ (@instDecidableAnd _ _ (decEq a b) (decEqFields as bs)))
end

instance : DecidableEq Json := decEq

/-- A natural number. -/
def nat (n : Nat) : Json := .number (.int n)

/-- A string or null. -/
def ofOption {α : Type} (f : α → Json) : Option α → Json
  | some a => f a
  | none => .null

/-- A list of strings. -/
def strings (xs : List String) : Json := .array (xs.map .string)

/-- Set a field of a field list: an existing field keeps its place. -/
def setField (name : String) (value : Json) : List (String × Json) → List (String × Json)
  | [] => [(name, value)]
  | (n, v) :: rest => if n = name then (n, value) :: rest else (n, v) :: setField name value rest

/-- The value of a field. -/
def get? (j : Json) (name : String) : Option Json :=
  match j with
  | .object fields => (fields.find? fun p => p.1 = name).map Prod.snd
  | _ => none

/-- The text of a string value. -/
def asString? : Json → Option String
  | .string s => some s
  | _ => none

/-- The items of an array value. -/
def asArray? : Json → Option (List Json)
  | .array xs => some xs
  | _ => none

/-- The value of a whole number that is not negative. -/
def asNat? : Json → Option Nat
  | .number (.int i) => if 0 ≤ i then some i.toNat else none
  | _ => none

/-- Whether a value is null. -/
def isNull : Json → Bool
  | .null => true
  | _ => false

end Json

end PlaybookServer

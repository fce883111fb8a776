/-
Module: PlaybookServer.Json.Decode
Purpose: Values of given shapes from JSON values. A record is an object, whose fields are looked at in the
  order of their names, or an array with the fields in their own order; what is missing keeps its default
  where it may, and what is unknown is ignored.
Main exports: described, decodeText, decodeBool, decodeList, Presence, Slot, decodeRecord, decodeChoice
-/
import PlaybookServer.Json.Value
import PlaybookServer.Decimal.Shortest
import PlaybookServer.Text.Escaped
import PlaybookServer.Text.Lines

namespace PlaybookServer.Json

/-- How a message names a value of the wrong kind. -/
def described : Json → String
  | .null => "null"
  | .bool b => "boolean `" ++ toString b ++ "`"
  | .number (.int i) => "integer `" ++ toString i ++ "`"
  | .number (.float bits) => "floating point `" ++ Decimal.jsonStyle.render bits ++ "`"
  | .string s => "string " ++ Text.escaped s
  | .array _ => "sequence"
  | .object _ => "map"

/-- The message for a value of the wrong kind. -/
def wrongKind (j : Json) (expected : String) : String :=
  "invalid type: " ++ described j ++ ", expected " ++ expected

/-- A text. -/
def decodeText : Json → Except String String
  | .string s => .ok s
  | j => .error (wrongKind j "a string")

/-- A truth value. -/
def decodeBool : Json → Except String Bool
  | .bool b => .ok b
  | j => .error (wrongKind j "a boolean")

/-- A list. -/
def decodeList {α : Type} (item : Json → Except String α) : Json → Except String (List α)
  | .array items => items.mapM item
  | j => .error (wrongKind j "a sequence")

/-- A value that may be null. -/
def decodeOptional {α : Type} (value : Json → Except String α) : Json → Except String (Option α)
  | .null => .ok none
  | j => (value j).map some

/-! ### Records -/

/-- What becomes of a field that is not there. -/
inductive Presence where
  /-- It must be there. -/
  | required
  /-- It may be missing in an object. -/
  | optional
  /-- It may be missing anywhere. -/
  | defaulted
deriving DecidableEq, Repr, Inhabited

/-- A field of a record: its name, whether it must be there, and what its value does to the record. -/
structure Slot (σ : Type) where
  name : String
  presence : Presence
  set : σ → Json → Except String σ

/-- A field that may be missing, from a decoder and a setter. -/
def Slot.of {σ α : Type} (name : String) (decode : Json → Except String α) (set : σ → α → σ) : Slot σ :=
  ⟨name, .defaulted, fun r j => (decode j).map (set r)⟩

/-- A field that must be there. -/
def Slot.needed {σ α : Type} (name : String) (decode : Json → Except String α) (set : σ → α → σ) : Slot σ :=
  { Slot.of name decode set with presence := .required }

/-- A field that may be missing in an object. -/
def Slot.perhaps {σ α : Type} (name : String) (decode : Json → Except String α) (set : σ → α → σ) : Slot σ :=
  { Slot.of name decode set with presence := .optional }

/-- So many elements, in words. -/
def elementCount (n : Nat) : String := toString n ++ (if n = 1 then " element" else " elements")

/-- Set fields by position, the first of which has the given number. `expected` says what has them. -/
def setInOrder {σ : Type} (expected : String) : Nat → List (Slot σ) → List Json → σ → Except String σ
  | _, [], _, r => .ok r
  | i, f :: fs, j :: js, r => f.set r j >>= setInOrder expected (i + 1) fs js
  | i, f :: fs, [], r =>
    if f.presence = .defaulted then setInOrder expected (i + 1) fs [] r
    else .error ("invalid length " ++ toString i ++ ", expected " ++ expected)

/-- Set fields by name; entries are looked at in the order of their names, and of the fields that must be
    there the first that is missing is named. -/
def setByName {σ : Type} (fields : List (Slot σ)) (entries : List (String × Json)) (start : σ) : Except String σ := do
  let r ← (entries.mergeSort fun a b => a.1 ≤ b.1).foldlM (fun r e =>
    match fields.find? fun f => f.name = e.1 with
    | some f => f.set r e.2
    | none => .ok r) start
  match fields.find? fun f => f.presence = .required && !entries.any fun e => e.1 = f.name with
  | some f => .error ("missing field `" ++ f.name ++ "`")
  | none => return r

/-- A record. `isCopy` says that the value was set aside before it is read, which shows in how an array that
    is too long is named. -/
def decodeRecord {σ : Type} (name : String) (fields : List (Slot σ)) (start : σ) (j : Json)
    (isCopy : Bool := false) : Except String σ :=
  let what := "struct " ++ name
  match j with
  | .object entries => setByName fields entries start
  | .array items => do
    let r ← setInOrder (what ++ " with " ++ elementCount fields.length) 0 fields items start
    if fields.length < items.length then
      let most := if isCopy then elementCount fields.length ++ " in sequence" else "fewer elements in array"
      .error ("invalid length " ++ toString items.length ++ ", expected " ++ most)
    else return r
  | j => .error (wrongKind j what)

/-- A whole number between two bounds; the expected kind names them. -/
def decodeBounded (expected : String) (low high : Int) : Json → Except String Int
  | .number (.int i) =>
    if low ≤ i && i ≤ high then .ok i
    else .error ("invalid value: integer `" ++ toString i ++ "`, expected " ++ expected)
  | j => .error (wrongKind j expected)

/-- A whole number of at most 32 bits. -/
def decodeUnsigned32 (j : Json) : Except String Nat :=
  (decodeBounded "u32" 0 4294967295 j).map Int.toNat

/-- A whole number of 32 bits with a sign. -/
def decodeSigned32 : Json → Except String Int := decodeBounded "i32" (-2147483648) 2147483647

/-- The words of a choice inside a message. -/
def listedWords (words : List String) : String :=
  let quoted := words.map fun w => "`" ++ w ++ "`"
  match quoted with
  | [a] => a
  | [a, b] => a ++ " or " ++ b
  | _ => "one of " ++ Text.join ", " quoted

/-- One of several words, as text or as the only field of an object with a null. -/
def decodeChoice {α : Type} (options : List (String × α)) (j : Json) : Except String α := do
  let pick (word : String) : Except String α :=
    match options.lookup word with
    | some v => .ok v
    | none =>
      .error ("unknown variant `" ++ word ++ "`, expected " ++ listedWords (options.map Prod.fst))
  match j with
  | .string word => pick word
  | .object [(word, content)] =>
    let v ← pick word
    if content.isNull then return v else .error (wrongKind content "unit")
  | .object _ => .error "invalid value: map, expected map with a single key"
  | j => .error (wrongKind j "string or map")

end PlaybookServer.Json

/-
Module: PlaybookServer.Json.Shape
Purpose: Shapes of JSON values of which little or nothing is used. A shape says why a value does not have
  it, or gives the value back in its normal form: records are objects of the fields they know, however they
  were written, and fields that hold null are left out where they may be missing.
Main exports: Shape, Member, Shape.record, Shape.spread, Shape.firstOf, Shape.read
-/
import PlaybookServer.Json.Decode

namespace PlaybookServer.Json

/-- A shape. `isCopy` says that the value was set aside before it is read. -/
abbrev Shape := (isCopy : Bool) → Json → Except String Json

namespace Shape

/-- Read a value of a shape. -/
def read (s : Shape) (j : Json) : Except String Json := s false j

/-- Any value. -/
def any : Shape := fun _ j => .ok j

/-- A text. -/
def text : Shape := fun _ j => (decodeText j).map .string

/-- A truth value. -/
def bool : Shape := fun _ j => (decodeBool j).map .bool

/-- A whole number of 32 bits with a sign. -/
def signed32 : Shape := fun _ j => (decodeSigned32 j).map fun n => .number (.int n)

/-- A whole number of at most 32 bits. -/
def unsigned32 : Shape := fun _ j => (decodeUnsigned32 j).map .nat

/-- Any number. -/
def fraction : Shape := fun _ j =>
  match j with
  | .number n => .ok (.number n)
  | j => .error (wrongKind j "f32")

/-- Null or a value of a shape. -/
def optional (s : Shape) : Shape := fun isCopy j => if j.isNull then .ok .null else s isCopy j

/-- A list. -/
def list (s : Shape) : Shape := fun isCopy j => (decodeList (s isCopy) j).map .array

/-- A list of two values of one shape. -/
def pair (s : Shape) : Shape := fun isCopy j =>
  match j with
  | .array [a, b] => do return .array [← s isCopy a, ← s isCopy b]
  | j => .error (wrongKind j "an array of length 2")

/-- One of several words. -/
def word (words : List String) : Shape := fun _ j => (decodeChoice (words.map fun w => (w, w)) j).map .string

/-- The first of several shapes that fits. -/
def firstOf (what : String) (shapes : List Shape) : Shape := fun _ j =>
  match shapes.findSome? fun s => (s true j).toOption with
  | some v => .ok v
  | none => .error ("data did not match any variant of untagged enum " ++ what)

/-- An object of values of one shape under any names. -/
def dictionary (expected : String) (checkName : String → Except String Unit) (s : Shape) : Shape := fun isCopy j =>
  match j with
  | .object entries => do
    let read ← (entries.mergeSort fun a b => a.1 ≤ b.1).mapM fun (name, v) => do
      checkName name
      return (name, ← s isCopy v)
    return .object read
  | j => .error (wrongKind j expected)

/-- An object of values of one shape. -/
def mapOf (s : Shape) : Shape := dictionary "a map" (fun _ => .ok ()) s

end Shape

/-! ### Records -/

/-- A field of a record. -/
structure Member where
  name : String
  presence : Presence
  shape : Shape

/-- A field that must be there. -/
def Member.needed (name : String) (s : Shape) : Member := ⟨name, .required, s⟩

/-- A field that may be null, or missing in an object. -/
def Member.perhaps (name : String) (s : Shape) : Member := ⟨name, .optional, .optional s⟩

/-- A field that may be missing anywhere. -/
def Member.defaulted (name : String) (s : Shape) : Member := ⟨name, .defaulted, s⟩

/-- A field as it adds to the fields read so far. -/
def Member.slot (isCopy : Bool) (m : Member) : Slot (List (String × Json)) :=
  ⟨m.name, m.presence, fun fields j => do
    let v ← m.shape isCopy j
    return if m.presence ≠ .required && v.isNull then fields else setField m.name v fields⟩

namespace Shape

/-- A record. -/
def record (name : String) (members : List Member) : Shape := fun isCopy j => do
  return .object (← decodeRecord name (members.map (Member.slot isCopy)) [] j isCopy)

/-- A record whose fields lie beside those of other records in one object: its own are read first, the others
    from what is left. It cannot be written as an array. -/
def spread (name : String) (own : List Member) (others : List (List Member)) : Shape := fun isCopy j =>
  match j with
  | .object entries => do
    let fields ← setByName (own.map (Member.slot isCopy)) entries []
    let left := entries.filter fun e => !own.any fun m => m.name = e.1
    return .object (← others.foldlM (fun fields ms => setByName (ms.map (Member.slot true)) left fields) fields)
  | j => .error (wrongKind j ("struct " ++ name))

/-- A record with further fields of any name and one shape. -/
def extended (name : String) (own : List Member) (further : Shape) : Shape := fun isCopy j =>
  match j with
  | .object entries => do
    let fields ← setByName (own.map (Member.slot isCopy)) entries []
    let left := entries.filter fun e => !own.any fun m => m.name = e.1
    match ← mapOf further true (.object left) with
    | .object others => return .object (fields ++ others)
    | _ => return .object fields
  | j => .error (wrongKind j ("struct " ++ name))

/-- One of several records, told apart by a word among the fields. -/
def tagged (field : String) (cases : List (String × Shape)) : Shape := fun _ j =>
  match j with
  | .object entries =>
    match entries.lookup field with
    | some (.string w) =>
      match cases.lookup w with
      | some s => s true (.object (entries.filter fun e => e.1 ≠ field))
      | none => .error ("unknown variant `" ++ w ++ "`, expected " ++ listedWords (cases.map Prod.fst))
    | _ => .error ("missing field `" ++ field ++ "`")
  | j => .error (wrongKind j "internally tagged enum")

end Shape

end PlaybookServer.Json

/-
Module: PlaybookServer.Json.Printer
Purpose: The written form of JSON values, without blanks between tokens. Strings escape quotes,
  backslashes and control characters; doubles are written with the fewest digits that read back.
Main exports: Json.render, quoted
-/
import PlaybookServer.Json.Value
import PlaybookServer.Decimal.Shortest

namespace PlaybookServer.Json

/-- Hexadecimal digit of a number below 16. -/
def hexChar (n : Nat) : Char := "0123456789abcdef".toList.getD n '0'

/-- A character inside a JSON string. -/
def escapeChar (c : Char) : List Char :=
  match c with
  | '"' => ['\\', '"']
  | '\\' => ['\\', '\\']
  | '\n' => ['\\', 'n']
  | '\r' => ['\\', 'r']
  | '\t' => ['\\', 't']
  | '\x08' => ['\\', 'b']
  | '\x0c' => ['\\', 'f']
  | c =>
    if c.toNat < 0x20 then ['\\', 'u', '0', '0', hexChar (c.toNat / 16), hexChar (c.toNat % 16)]
    else [c]

/-- A JSON string. -/
def quoted (s : String) : String := "\"" ++ String.ofList (s.toList.flatMap escapeChar) ++ "\""

/-- A JSON number. -/
def renderNumber : Number → String
  | .int i => toString i
  | .float bits => Decimal.jsonStyle.render bits

mutual

/-- The written form of a value. -/
def render : Json → String
  | .null => "null"
  | .bool true => "true"
  | .bool false => "false"
  | .number n => renderNumber n
  | .string s => quoted s
  | .array items => "[" ++ renderItems items ++ "]"
  | .object fields => "\x7b" ++ renderFields fields ++ "\x7d"

/-- Items with commas between. -/
def renderItems : List Json → String
  | [] => ""
  | [x] => render x
  | x :: xs => render x ++ "," ++ renderItems xs

/-- Fields with commas between. -/
def renderFields : List (String × Json) → String
  | [] => ""
  | [(n, v)] => quoted n ++ ":" ++ render v
  | (n, v) :: rest => quoted n ++ ":" ++ render v ++ "," ++ renderFields rest

end

end PlaybookServer.Json

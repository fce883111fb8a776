/-
Module: PlaybookServer.Simulation.Shell.Condition
Purpose: The conditions of a shell's test command: properties of files and texts, comparisons, and what joins
  them.
Main exports: ConditionFault, holds
-/
import PlaybookServer.Simulation.Shell.Machine
import PlaybookServer.Simulation.Shell.Sum

namespace PlaybookServer.Simulation.Shell

open Text Files

/-- Why a condition has no outcome. -/
inductive ConditionFault where
  | notANumber (text : String)
  | unexpectedOperator (text : String)
  | argumentExpected
  | parenthesisExpected
deriving DecidableEq, Repr, Inhabited

/-- The text of a fault. -/
def ConditionFault.text : ConditionFault → String
  | .notANumber s => "Illegal number: " ++ s
  | .unexpectedOperator s => s ++ ": unexpected operator"
  | .argumentExpected => "argument expected"
  | .parenthesisExpected => "closing paren expected"

/-- A property of a file or a text, by its sign. -/
def property? (m : Machine) (sign operand : String) : Option Bool :=
  let entry := m.disk.at? (m.pathOf operand)
  let device : Bool := operand = "/dev/null" || operand = "/dev/zero"
  match sign with
  | "-n" => some (operand ≠ "")
  | "-z" => some (operand = "")
  | "-e" | "-r" | "-w" => some (entry.isSome || device)
  | "-c" => some device
  | "-d" => some (m.disk.isDir (m.pathOf operand))
  | "-f" =>
    some (match entry with
      | some (_, .file _ _) => true
      | _ => false)
  | "-s" =>
    some (match entry with
      | some (_, .file bytes _) => !bytes.isEmpty
      | some (_, .dir) => true
      | _ => false)
  | "-x" =>
    some (match entry with
      | some (_, .file _ x) => x
      | some (_, .dir) => true
      | _ => false)
  | "-h" | "-L" =>
    some (match m.disk.locate (m.pathOf operand) with
      | .ok (.found _ (.link _)) => true
      | _ => false)
  | "-b" | "-p" | "-S" | "-t" | "-u" | "-g" | "-k" => some false
  | _ => none

/-- Compare two numbers. -/
def compareNumbers (a b : String) (holds : Int → Int → Bool) : Except ConditionFault Bool :=
  match signedNumber? false a, signedNumber? false b with
  | some x, some y => .ok (holds x y)
  | none, _ => .error (.notANumber a)
  | _, none => .error (.notANumber b)

/-- Compare two operands, by the comparison's sign. -/
def comparison? (sign a b : String) : Option (Except ConditionFault Bool) :=
  match sign with
  | "=" => some (.ok (a = b))
  | "!=" => some (.ok (a ≠ b))
  | "<" => some (.ok (a < b))
  | ">" => some (.ok (b < a))
  | "-eq" => some (compareNumbers a b (· = ·))
  | "-ne" => some (compareNumbers a b (· ≠ ·))
  | "-lt" => some (compareNumbers a b (· < ·))
  | "-le" => some (compareNumbers a b (· ≤ ·))
  | "-gt" => some (compareNumbers a b (· > ·))
  | "-ge" => some (compareNumbers a b (· ≥ ·))
  | _ => none

/-- An outcome and the words left. -/
abbrev Outcome := Except ConditionFault (Bool × List String)

mutual

/-- Conditions of which one has to hold. -/
def anyOf (m : Machine) : Nat → List String → Outcome
  | 0, _ => .error .argumentExpected
  | fuel + 1, ws => do
    let (a, rest) ← allOf m fuel ws
    match rest with
    | "-o" :: rest =>
      let (b, rest) ← anyOf m fuel rest
      return (a || b, rest)
    | rest => return (a, rest)

/-- Conditions that all have to hold. -/
def allOf (m : Machine) : Nat → List String → Outcome
  | 0, _ => .error .argumentExpected
  | fuel + 1, ws => do
    let (a, rest) ← single m fuel ws
    match rest with
    | "-a" :: rest =>
      let (b, rest) ← allOf m fuel rest
      return (a && b, rest)
    | rest => return (a, rest)

/-- A single condition. -/
def single (m : Machine) : Nat → List String → Outcome
  | 0, _ => .error .argumentExpected
  | fuel + 1, ws =>
    match ws with
    | [] => .error .argumentExpected
    | a :: sign :: b :: rest =>
      match comparison? sign a b with
      | some outcome => outcome.map (·, rest)
      | none => simpler m fuel ws
    | ws => simpler m fuel ws

/-- A condition that is no comparison. -/
def simpler (m : Machine) : Nat → List String → Outcome
  | 0, _ => .error .argumentExpected
  | fuel + 1, ws =>
    match ws with
    | "!" :: w :: rest => do
      let (a, rest) ← single m fuel (w :: rest)
      return (!a, rest)
    | "(" :: w :: rest => do
      match ← anyOf m fuel (w :: rest) with
      | (a, ")" :: rest) => return (a, rest)
      | _ => .error .parenthesisExpected
    | w :: operand :: rest =>
      match property? m w operand with
      | some outcome => .ok (outcome, rest)
      | none => .ok (w ≠ "", operand :: rest)
    | [w] => .ok (w ≠ "", [])
    | [] => .error .argumentExpected

end

/-- Whether a condition holds; none does not. -/
def holds (m : Machine) (ws : List String) : Except ConditionFault Bool :=
  if ws.isEmpty then .ok false
  else
    match anyOf m (4 * ws.length + 4) ws with
    | .ok (a, []) => .ok a
    | .ok (_, rest) => .error (.unexpectedOperator (ws.getD (ws.length - rest.length - 1) ""))
    | .error f => .error f

end PlaybookServer.Simulation.Shell

/-
Module: PlaybookServer.Simulation.Shell.Machine
Purpose: The state of a running shell: its variables, its streams and where they lead, what it was told to do on
  signals, and how it ends.
Main exports: Binding, Ending, Jump, Sink, Machine, Field, splitFields, joinFields
-/
import PlaybookServer.Files.Disk
import PlaybookServer.Simulation.Shell.Pattern
import PlaybookServer.Simulation.Shell.Script
import PlaybookServer.Text.Digit

namespace PlaybookServer.Simulation.Shell

open Text Files

/-- A variable. -/
structure Binding where
  name : String
  value : String
  exported : Bool := false
  fixed : Bool := false
deriving DecidableEq, Repr, Inhabited

/-- How a shell ended. -/
inductive Ending where
  | exited (code : Nat)
  /-- Ended by a signal of a number. -/
  | killed (signal : Nat)
deriving DecidableEq, Repr, Inhabited

/-- Why the commands that follow are passed over. -/
inductive Jump where
  /-- Out of a number of loops. -/
  | leaveLoops (n : Nat)
  /-- To the next round of the loop a number of loops out. -/
  | nextRound (n : Nat)
  /-- Out of a named command or a script that another one reads. -/
  | backOut
deriving DecidableEq, Repr, Inhabited

/-- Where a stream leads. -/
inductive Sink where
  | out
  | err
  /-- To the command that waits at a pipe. -/
  | pipe (number : Nat)
  | nowhere
  | file (path : String)
deriving DecidableEq, Repr, Inhabited

/-- A running shell. -/
structure Machine where
  disk : Disk := {}
  bindings : List Binding := []
  /-- The name it was started by. -/
  name : String := "sh"
  /-- Whether it is the richer of the two shells, whose messages differ. -/
  isRich : Bool := false
  arguments : List String := []
  cwd : String := "/"
  /-- The line that is run. -/
  line : Nat := 1
  /-- Exit code of the last command. -/
  status : Nat := 0
  ending : Option Ending := none
  jump : Option Jump := none
  /-- How many loops are running. -/
  loops : Nat := 0
  functions : List (String × Command) := []
  /-- What a running function hides of the variables around it. -/
  hidden : Option (List (String × Option Binding)) := none
  /-- Commands to run on signals, by the signal's name. -/
  traps : List (String × String) := []
  /-- Commands to run for signals that came. -/
  pending : List String := []
  stopsOnFailure : Bool := false
  needsValues : Bool := false
  showsCommands : Bool := false
  input : List Nat := []
  sinks : List (Nat × Sink) := [(1, .out), (2, .err)]
  out : List Nat := []
  err : List Nat := []
  /-- What was written into the open pipes. -/
  pipes : List (List Nat) := []
  /-- Exit code of the last command whose output a word took. -/
  substituted : Option Nat := none
  /-- Exit code of the last command that was left running. -/
  background : Option Nat := none
deriving Inhabited

namespace Machine

/-! ### Variables -/

/-- A variable by name. -/
def binding? (m : Machine) (name : String) : Option Binding := m.bindings.find? fun b => b.name = name

/-- The value of a variable. -/
def value? (m : Machine) (name : String) : Option String := (m.binding? name).map Binding.value

/-- Set a variable. One that is exported stays so. -/
def assign (m : Machine) (name value : String) : Machine :=
  if (m.binding? name).isSome then
    { m with bindings := m.bindings.map fun b => if b.name = name then { b with value } else b }
  else { m with bindings := m.bindings ++ [{ name, value }] }

/-- Export a variable. -/
def exportName (m : Machine) (name : String) : Machine :=
  { m with bindings := m.bindings.map fun b => if b.name = name then { b with exported := true } else b }

/-- Drop a variable. -/
def unassign (m : Machine) (name : String) : Machine :=
  { m with bindings := m.bindings.filter fun b => b.name ≠ name }

/-- Put back what a variable was. -/
def restore (m : Machine) (name : String) (old : Option Binding) : Machine :=
  match old with
  | none => m.unassign name
  | some b =>
    let n := m.assign name b.value
    { n with bindings := n.bindings.map fun c => if c.name = name then b else c }

/-- The row of a shell's table that a variable stands in. -/
def tableRow (name : String) : Nat :=
  let bytes := encodeUtf8 name.toList
  (16 * bytes.headD 0 + bytes.foldl (· + ·) 0) % 39

/-- Variables that other programs get, in the order of the shell's table. -/
def exported (m : Machine) : List Binding :=
  (m.bindings.filter Binding.exported).mergeSort fun a b => tableRow a.name ≤ tableRow b.name

/-! ### Streams -/

/-- Write bytes to a stream. -/
def write (m : Machine) (stream : Nat) (bytes : List Nat) : Machine :=
  match m.sinks.lookup stream with
  | some .out => { m with out := m.out ++ bytes }
  | some .err => { m with err := m.err ++ bytes }
  | some (.pipe n) => { m with pipes := m.pipes.modify n (· ++ bytes) }
  | some (.file path) =>
    match m.disk.put path ((m.disk.readBytes path).toOption.getD [] ++ bytes) with
    | .ok disk => { m with disk }
    | .error _ => m
  | some .nowhere | none => m

/-- Write to the output. -/
def say (m : Machine) (text : String) : Machine := m.write 1 (encodeUtf8 text.toList)

/-- Write to the error stream. -/
def complain (m : Machine) (text : String) : Machine := m.write 2 (encodeUtf8 text.toList)

/-- Let a stream lead elsewhere. -/
def point (m : Machine) (stream : Nat) (sink : Sink) : Machine :=
  { m with sinks := (stream, sink) :: m.sinks.filter fun s => s.1 ≠ stream }

/-- Open a pipe that the output leads to. -/
def openPipe (m : Machine) : Machine :=
  { m.point 1 (.pipe m.pipes.length) with pipes := m.pipes ++ [[]] }

/-- Write a message of the shell itself to the error stream. -/
def report (m : Machine) (text : String) : Machine :=
  let place := m.name ++ (if m.isRich then ": line " else ": ")
  m.complain (place ++ toString m.line ++ ": " ++ text ++ "\n")

/-! ### Ends -/

/-- End a command. -/
def leave (m : Machine) (status : Nat) : Machine := { m with status }

/-- End a command with a message. -/
def fail (m : Machine) (text : String) (status : Nat) : Machine := (m.report text).leave status

/-- End the shell. -/
def quit (m : Machine) (code : Nat) : Machine := { m with status := code, ending := some (.exited code) }

/-- End the shell with a message. -/
def giveUp (m : Machine) (text : String) : Machine := (m.report text).quit 2

/-- Whether the commands that follow are passed over. -/
def isHalted (m : Machine) : Bool := m.ending.isSome || m.jump.isSome

/-- Go on after a shell that had this one's streams: what it wrote stays, what it set does not. A signal to it
    reached this one. -/
def resume (m child : Machine) : Machine :=
  { m with
    disk := child.disk, out := child.out, err := child.err, input := child.input
    pipes := child.pipes.take m.pipes.length
    status := child.status
    ending := match child.ending with
      | some (.killed signal) => some (.killed signal)
      | _ => m.ending }

/-! ### Parameters -/

/-- The process number that a shell sees. -/
def processNumber : String := "4242"

/-- The process number of a command that was left running. -/
def backgroundNumber : String := "4243"

/-- The characters that divide fields. -/
def separators (m : Machine) : List Char := ((m.value? "IFS").getD " \t\n").toList

/-- The arguments as one text. -/
def joinedArguments (m : Machine) : String := join (String.ofList (m.separators.take 1)) m.arguments

/-- The value of a parameter. -/
def parameter? (m : Machine) (name : String) : Option String :=
  match name with
  | "$" => some processNumber
  | "?" => some (toString m.status)
  | "#" => some (toString m.arguments.length)
  | "!" => m.background.map fun _ => backgroundNumber
  | "*" | "@" => if m.arguments.isEmpty then none else some m.joinedArguments
  | "0" => some m.name
  | "-" => some ((if m.stopsOnFailure then "e" else "") ++ (if m.needsValues then "u" else ""))
  | name =>
    match decimalValue? name.toList with
    | some n => m.arguments[n - 1]?
    | none => m.value? name

/-- A path as seen from the current directory. -/
def pathOf (m : Machine) (path : String) : String := if path = "" then "" else joinPath m.cwd path

/-- The bytes of a file. Two devices are always there: one that is empty, and one that gives zeros, as many as are
    asked for. -/
def readFile (m : Machine) (path : String) (most : Nat) : Except IoFault (List Nat) :=
  if path = "/dev/null" then .ok []
  else if path = "/dev/zero" then .ok (List.replicate most 0)
  else m.disk.readBytes (m.pathOf path)

end Machine

/-! ### Fields -/

/-- A part of a word after parameters were replaced. -/
inductive Field where
  /-- Text that stays as it is. -/
  | literal (chars : List Char)
  /-- Text of the script that may be a pattern. -/
  | bare (c : Char)
  /-- Text that is split at blanks. -/
  | loose (chars : List Char)
  /-- Texts that are fields of their own, the first and last joined to what stands around them. -/
  | several (texts : List String)
deriving DecidableEq, Repr, Inhabited

/-- Fields so far and the one that is open. With `gap` blanks closed the last field, and a separator that is no
    blank still belongs to it. -/
structure Fields where
  done : List String := []
  current : Option (List Char) := none
  gap : Bool := false
deriving DecidableEq, Repr, Inhabited

/-- Add text to the open field. -/
def Fields.extend (f : Fields) (cs : List Char) : Fields :=
  { f with current := some (f.current.getD [] ++ cs), gap := false }

/-- Close the open field. -/
def Fields.close (f : Fields) : Fields :=
  { done := f.done ++ (f.current.map String.ofList).toList, gap := f.gap || f.current.isSome }

/-- Add a character that may be a separator. -/
def Fields.addLoose (separators : List Char) (f : Fields) (c : Char) : Fields :=
  if !separators.contains c then f.extend [c]
  else if c = ' ' || c = '\t' || c = '\n' then f.close
  else if f.current.isSome then { f.close with gap := false }
  else if f.gap then { f with gap := false }
  else { (f.extend []).close with gap := false }

/-- Add fields of their own. -/
def Fields.addSeveral (f : Fields) : List String → Fields
  | [] => f
  | [t] => f.extend t.toList
  | t :: ts => Fields.addSeveral (Fields.close (f.extend t.toList)) ts

/-- Add a part. -/
def Fields.add (separators : List Char) (f : Fields) : Field → Fields
  | .literal cs => f.extend cs
  | .bare c => f.extend [c]
  | .loose cs => cs.foldl (Fields.addLoose separators) f
  | .several ts => f.addSeveral ts

/-- The fields of a word. -/
def splitFields (separators : List Char) (parts : List Field) : List String :=
  (parts.foldl (Fields.add separators) {}).close.done

/-- The characters of a part that is not split, each with whether it stands for itself only. -/
def Field.glyphs : Field → List Glyph
  | .literal cs => cs.map (·, true)
  | .bare c => [(c, false)]
  | .loose cs => cs.map (·, false)
  | .several ts => (join " " ts).toList.map (·, true)

/-- The pattern of a word. -/
def patternOf (parts : List Field) : Pattern := Pattern.ofGlyphs (parts.flatMap Field.glyphs)

/-- The text of a word that is not split. -/
def joinFields (parts : List Field) : String := String.ofList ((parts.flatMap Field.glyphs).map Prod.fst)

end PlaybookServer.Simulation.Shell

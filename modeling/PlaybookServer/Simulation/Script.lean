/-
Module: PlaybookServer.Simulation.Script
Purpose: Commands that are not run but answered by a script: the first rule whose text occurs in the command
  line decides the outcome.
Main exports: Rule, Rule.outcome, ruleFor?, unknownCommand
-/
import PlaybookServer.Effect.Query
import PlaybookServer.Text.Lines

namespace PlaybookServer.Simulation

open Effect Text

/-- A rule of a script. -/
structure Rule where
  /-- Text that occurs in the command line. -/
  pattern : String
  output : CommandOutput := {}
  /-- The command cannot be started. -/
  refused : Bool := false
  /-- Files that the command writes. -/
  writes : List (String × String) := []
  /-- The command waits until it is let go. -/
  gated : Bool := false
deriving DecidableEq, Repr, Inhabited

/-- The rule for a command line. -/
def ruleFor? (rules : List Rule) (command : String) : Option Rule :=
  rules.find? fun r => occursIn r.pattern command

/-- What a command without a rule leaves behind. -/
def unknownCommand : CommandOutput := { status := some 127, stderr := "command not found" }

/-- The outcome that a rule gives a command. -/
def Rule.outcome (r : Rule) (command : String) : Except ExecFault CommandOutput :=
  if r.refused then .error (.spawn command .notFound) else .ok r.output

/-- The outcome of a command line. -/
def outcomeOf (rules : List Rule) (command : String) : Except ExecFault CommandOutput :=
  match ruleFor? rules command with
  | some r => r.outcome command
  | none => .ok unknownCommand

/-- The files that a command line writes. -/
def writesOf (rules : List Rule) (command : String) : List (String × String) :=
  match ruleFor? rules command with
  | some r => r.writes
  | none => []

end PlaybookServer.Simulation

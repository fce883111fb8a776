/-
Module: PlaybookServer.Simulation.Shell.Signal
Purpose: Signals by number and name, what a shell says of a program that one ended, and which of them end none.
Main exports: Signal, Signal.ofText?, Signal.named
-/
import PlaybookServer.Simulation.Shell.Sum

namespace PlaybookServer.Simulation.Shell

/-- A signal. -/
structure Signal where
  number : Nat
  name : String
  /-- What is said of a program that it ended. -/
  text : Option String
  /-- Whether a program that does nothing about it goes on. -/
  harmless : Bool := false
deriving DecidableEq, Repr, Inhabited

/-- The signals that have a name. -/
def namedSignals : List Signal :=
  [⟨1, "HUP", some "Hangup", false⟩, ⟨2, "INT", none, false⟩, ⟨3, "QUIT", some "Quit", false⟩,
   ⟨4, "ILL", some "Illegal instruction", false⟩, ⟨5, "TRAP", some "Trace/breakpoint trap", false⟩,
   ⟨6, "ABRT", some "Aborted", false⟩, ⟨7, "BUS", some "Bus error", false⟩,
   ⟨8, "FPE", some "Floating point exception", false⟩, ⟨9, "KILL", some "Killed", false⟩,
   ⟨10, "USR1", some "User defined signal 1", false⟩, ⟨11, "SEGV", some "Segmentation fault", false⟩,
   ⟨12, "USR2", some "User defined signal 2", false⟩, ⟨13, "PIPE", none, false⟩,
   ⟨14, "ALRM", some "Alarm clock", false⟩, ⟨15, "TERM", some "Terminated", false⟩,
   ⟨16, "16", some "Stack fault", false⟩, ⟨17, "CHLD", none, true⟩, ⟨18, "CONT", none, true⟩,
   ⟨19, "STOP", none, true⟩, ⟨20, "TSTP", none, true⟩, ⟨21, "TTIN", none, true⟩, ⟨22, "TTOU", none, true⟩,
   ⟨23, "URG", none, true⟩, ⟨24, "XCPU", some "CPU time limit exceeded", false⟩,
   ⟨25, "XFSZ", some "File size limit exceeded", false⟩, ⟨26, "VTALRM", some "Virtual timer expired", false⟩,
   ⟨27, "PROF", some "Profiling timer expired", false⟩, ⟨28, "WINCH", none, true⟩,
   ⟨29, "IO", some "I/O possible", false⟩, ⟨30, "PWR", some "Power failure", false⟩,
   ⟨31, "SYS", some "Bad system call", false⟩, ⟨32, "32", some "Unknown signal 32", false⟩,
   ⟨33, "33", some "Unknown signal 33", false⟩]

/-- The name of a signal that only has a place in a row: counted from the row's start or from its end. -/
def rowName (place : Nat) : String :=
  if place = 0 then "RTMIN"
  else if place ≤ 15 then "RTMIN+" ++ toString place
  else if place < 30 then "RTMAX-" ++ toString (30 - place)
  else "RTMAX"

/-- All signals. -/
def allSignals : List Signal :=
  namedSignals ++ (List.range 31).map fun i => ⟨34 + i, rowName i, some ("Real-time signal " ++ toString i), false⟩

/-- A signal by number. -/
def Signal.ofNumber? (n : Nat) : Option Signal := allSignals.find? fun s => s.number = n

/-- A signal by its name or number; the exit counts as the signal zero. -/
def Signal.ofText? (text : String) : Option Signal :=
  let exit : Signal := ⟨0, "EXIT", none, true⟩
  if text.toList.all Char.isDigit && text ≠ "" then
    let n := digitsValue 10 text.toList
    if n = 0 then some exit else Signal.ofNumber? n
  else
    let name := text.map Char.toUpper
    if name = "EXIT" then some exit else allSignals.find? fun s => s.name = name

end PlaybookServer.Simulation.Shell

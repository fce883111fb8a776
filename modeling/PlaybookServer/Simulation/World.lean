/-
Module: PlaybookServer.Simulation.World
Purpose: A world in memory: files in a tree, commands answered by a script, and a record of what was asked.
Main exports: Note, World, World.answers, perform
-/
import PlaybookServer.Effect.Program
import PlaybookServer.Files.Tree
import PlaybookServer.Simulation.Script

namespace PlaybookServer.Simulation

open Effect Files

/-- What the user was told. -/
inductive Note where
  | error (message : String)
  | info (message : String)
  | beginProgress (title message : String) (number : Nat)
  | endProgress (token : String)
deriving DecidableEq, Repr, Inhabited

/-- A world in memory. -/
structure World where
  tree : Tree := {}
  rules : List Rule := []
  /-- Progress indicators are shown. -/
  showsProgress : Bool := false
  /-- Nothing that the user is told is noted. -/
  isSilent : Bool := false
  /-- Progress indicators shown so far. -/
  indicators : Nat := 0
  commands : List CommandRequest := []
  notes : List Note := []
deriving Inhabited

namespace World

/-- Note what the user was told. -/
def note (w : World) (n : Note) : World := if w.isSilent then w else { w with notes := w.notes ++ [n] }

/-- Answer a command by the script. -/
def execute (w : World) (request : CommandRequest) : Except ExecFault CommandOutput × World :=
  let tree := (writesOf w.rules request.command).foldl (fun (t : Tree) (path, text) => t.addFile path text) w.tree
  (outcomeOf w.rules request.command, { w with tree, commands := w.commands ++ [request] })

/-- Answer every question. -/
def answers : Answers World
  | .run request, w => let (r, w) := w.execute request; (some r, w)
  | .showError message, w => (some (), w.note (.error message))
  | .showInfo message, w => (some (), w.note (.info message))
  | .beginProgress title message, w =>
    if w.showsProgress && !w.isSilent then
      let n := w.indicators + 1
      (some (some (toString n)), ({ w with indicators := n } : World).note (.beginProgress title message n))
    else (some none, w)
  | .endProgress token, w => (some (), w.note (.endProgress token))
  | .seeFiles, w => (some w.tree.view, w)
  | .createDirs path, w =>
    match w.tree.createDirs path with
    | .ok tree => (some (.ok ()), { w with tree })
    | .error e => (some (.error e), w)
  | .write path text, w =>
    match w.tree.write path text with
    | .ok tree => (some (.ok ()), { w with tree })
    | .error e => (some (.error e), w)
  | .freshName, w => (some "UUID", w)
  | .log _ _, w => (some (), w)
  | .publish _ _, w => (some (), w)
  | .watchFiles, w => (some (), w)
  | .noteProgress shown, w => (some (), { w with showsProgress := shown })

end World

/-- Run a program in a world that answers every question; none if it has to wait for ever. -/
def perform {σ α : Type} (p : Program σ α) (s : σ) (w : World) : Option α × σ × World :=
  match p.run World.answers s w with
  | .finished v s w => (some v, s, w)
  | .held _ _ s w => (none, s, w)
  | .blocked _ s w => (none, s, w)

end PlaybookServer.Simulation

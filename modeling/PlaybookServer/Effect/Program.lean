/-
Module: PlaybookServer.Effect.Program
Purpose: Programs as trees of questions to the world and looks at a shared state. Between two questions a
  program runs without interruption; at a question, or where it waits, others may run.
Main exports: Program, Program.bind, Program.zoom, ask, look, change, wait, Outcome, Program.run
-/
import PlaybookServer.Effect.Query

namespace PlaybookServer.Effect

/-- A program over a shared state `σ`. -/
inductive Program (σ : Type) (α : Type) : Type where
  | done (value : α)
  | ask (q : Query) (next : q.Answer → Program σ α)
  /-- Look at the state. -/
  | look (next : σ → Program σ α)
  /-- Change the state. -/
  | change (f : σ → σ) (next : Program σ α)
  /-- Go on once the state allows it. -/
  | wait (ready : σ → Bool) (next : Program σ α)

namespace Program

variable {σ α β : Type}

/-- Run one program after another. -/
def bind : Program σ α → (α → Program σ β) → Program σ β
  | .done v, f => f v
  | .ask q next, f => .ask q fun a => (next a).bind f
  | .look next, f => .look fun s => (next s).bind f
  | .change g next, f => .change g (next.bind f)
  | .wait ready next, f => .wait ready (next.bind f)

/-- Run a program over a part of the state. -/
def zoom {τ : Type} (get : σ → τ) (put : τ → σ → σ) : Program τ α → Program σ α
  | .done v => .done v
  | .ask q next => .ask q fun a => (next a).zoom get put
  | .look next => .look fun s => (next (get s)).zoom get put
  | .change f next => .change (fun s => put (f (get s)) s) (next.zoom get put)
  | .wait ready next => .wait (fun s => ready (get s)) (next.zoom get put)

instance : Monad (Program σ) where
  pure := .done
  bind := bind

end Program

variable {σ α : Type}

/-- Ask a question. -/
def ask (q : Query) : Program σ q.Answer := .ask q .done

/-- Run a command. -/
def run (request : CommandRequest) : Program σ (Except ExecFault CommandOutput) := ask (.run request)

/-- Run a command line without changes to the environment. -/
def runLine (command : String) : Program σ (Except ExecFault CommandOutput) := run { command }

/-- See the files as they are now. -/
def seeFiles : Program σ Files.FileView := ask .seeFiles

/-- Tell the user of a fault. -/
def showError (message : String) : Program σ Unit := ask (.showError message)

/-- Start a progress indicator. -/
def beginProgress (title message : String) : Program σ (Option String) := ask (.beginProgress title message)

/-- End a progress indicator, if one was started. -/
def endProgress : Option String → Program σ Unit
  | some token => ask (.endProgress token)
  | none => .done ()

/-- Look at a part of the state. -/
def look (f : σ → α) : Program σ α := .look fun s => .done (f s)

/-- Change the state. -/
def change (f : σ → σ) : Program σ Unit := .change f (.done ())

/-- Change the state and see something of it, without interruption. -/
def changing (f : σ → α × σ) : Program σ α := .look fun s => .change (fun s => (f s).2) (.done (f s).1)

/-- Wait until the state allows it. -/
def wait (ready : σ → Bool) : Program σ Unit := .wait ready (.done ())

/-! ### Running -/

/-- How a program stands after a run. -/
inductive Outcome (σ ω α : Type) where
  | finished (value : α) (state : σ) (world : ω)
  /-- Held at a command. -/
  | held (request : CommandRequest) (next : Except ExecFault CommandOutput → Program σ α) (state : σ)
      (world : ω)
  /-- Waiting for the state to change. -/
  | blocked (rest : Program σ α) (state : σ) (world : ω)

/-- A world that answers questions. Without an answer the program is held there. -/
abbrev Answers (ω : Type) := (q : Query) → ω → Option q.Answer × ω

/-- Hold a program at a question that has no answer yet. -/
def holdAt {ω : Type} (s : σ) (w : ω) : (q : Query) → (q.Answer → Program σ α) → Outcome σ ω α
  | .run request, next => .held request next s w
  | q, next => .blocked (.ask q next) s w

/-- Run a program until it ends, is held or has to wait. -/
def Program.run {ω : Type} (answers : Answers ω) : Program σ α → σ → ω → Outcome σ ω α
  | .done v, s, w => .finished v s w
  | .ask q next, s, w =>
    match answers q w with
    | (some a, w) => (next a).run answers s w
    | (none, w) => holdAt s w q next
  | .look next, s, w => (next s).run answers s w
  | .change f next, s, w => next.run answers (f s) w
  | .wait ready next, s, w =>
    if ready s then next.run answers s w else .blocked (.wait ready next) s w

end PlaybookServer.Effect

/-
Module: PlaybookServer.Effect.Jobs
Purpose: Several programs over one state that take turns: each runs until it ends or has to wait, in the
  order in which they started.
Main exports: Job, runJobs
-/
import PlaybookServer.Effect.Program

namespace PlaybookServer.Effect

variable {σ ω : Type}

/-- A program without a result. -/
abbrev Job (σ : Type) := Program σ Unit

/-- Give every job a turn: the jobs that wait, whether one ended, and the state. -/
def takeTurns (answers : Answers ω) : List (Job σ) → σ → ω → List (Job σ) × Bool × σ × ω
  | [], s, w => ([], false, s, w)
  | t :: ts, s, w =>
    match t.run answers s w with
    | .finished _ s w =>
      let (rest, _, s, w) := takeTurns answers ts s w
      (rest, true, s, w)
    | .blocked t s w =>
      let (rest, ended, s, w) := takeTurns answers ts s w
      (t :: rest, ended, s, w)
    | .held request next s w =>
      let (rest, ended, s, w) := takeTurns answers ts s w
      (.ask (.run request) next :: rest, ended, s, w)

/-- Give turns as long as jobs end. The fuel bounds the rounds. -/
def runRounds (answers : Answers ω) : Nat → List (Job σ) → σ → ω → List (Job σ) × σ × ω
  | 0, ts, s, w => (ts, s, w)
  | fuel + 1, ts, s, w =>
    match takeTurns answers ts s w with
    | (ts, true, s, w) => runRounds answers fuel ts s w
    | (ts, false, s, w) => (ts, s, w)

/-- Run jobs until each of them waits. -/
def runJobs (answers : Answers ω) (ts : List (Job σ)) (s : σ) (w : ω) : List (Job σ) × σ × ω :=
  runRounds answers (ts.length + 1) ts s w

end PlaybookServer.Effect

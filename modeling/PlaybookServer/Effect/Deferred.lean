/-
Module: PlaybookServer.Effect.Deferred
Purpose: Values that are built when first asked for. Callers who come while a value is being built share that
  build. After an invalidation the next caller builds anew; a build that was under way goes on, and its
  value reaches those who wait for it but is not kept.
Main exports: Deferred, Deferred.claim, Deferred.complete, Deferred.keep, Deferred.invalidate,
  Deferred.value?, takeResult, awaitBuild, getOrBuild
-/
import PlaybookServer.Effect.Program

namespace PlaybookServer.Effect

/-- How a value stands. -/
inductive Deferred.Phase (α : Type) where
  | unbuilt
  /-- Being built, by the build of this number. -/
  | building (number : Nat)
  | ready (value : α)
  | invalidated
deriving DecidableEq, Repr, Inhabited

/-- A value that is built when first asked for. -/
structure Deferred (α : Type) where
  phase : Deferred.Phase α := .unbuilt
  /-- Number of builds started so far. -/
  builds : Nat := 0
  /-- Values of the builds that ended, by number. -/
  finished : List (Nat × α) := []
deriving Repr, Inhabited

/-- What a caller has to do. -/
inductive Claim (α : Type) where
  | take (value : α)
  /-- Wait for a build of another caller. -/
  | join (number : Nat)
  /-- Build the value. -/
  | build (number : Nat)
deriving DecidableEq, Repr, Inhabited

namespace Deferred

variable {α : Type}

/-- Ask for the value. -/
def claim (d : Deferred α) : Claim α × Deferred α :=
  match d.phase with
  | .ready v => (.take v, d)
  | .building n => (.join n, d)
  | .unbuilt | .invalidated =>
    (.build (d.builds + 1), { d with phase := .building (d.builds + 1), builds := d.builds + 1 })

/-- The value of a build that ended. -/
def result? (d : Deferred α) (number : Nat) : Option α := d.finished.lookup number

/-- End a build: its value is there for those who wait for it. -/
def complete (d : Deferred α) (number : Nat) (value : α) : Deferred α :=
  { d with finished := (number, value) :: d.finished }

/-- Keep the value of a build, unless the value was given up since the build started. -/
def keep (d : Deferred α) (number : Nat) (value : α) : Deferred α :=
  match d.phase with
  | .building n => if n = number then { d with phase := .ready value } else d
  | _ => d

/-- Give the value up. -/
def invalidate (d : Deferred α) : Deferred α := { d with phase := .invalidated }

/-- The value, if it is there. -/
def value? (d : Deferred α) : Option α :=
  match d.phase with
  | .ready v => some v
  | _ => none

/-- Whether the value is being built. -/
def isBuilding (d : Deferred α) : Bool :=
  match d.phase with
  | .building _ => true
  | _ => false

/-- Change the value in place, if it is there. -/
def modify (d : Deferred α) (f : α → α) : Deferred α :=
  match d.phase with
  | .ready v => { d with phase := .ready (f v) }
  | _ => d

end Deferred

/-- Keep the value of a build and take it. Without a value there is nothing to keep, and it is built. -/
def takeResult {σ α : Type} (get : σ → Deferred α) (put : Deferred α → σ → σ) (number : Nat)
    (build : Program σ α) : Option α → Program σ α
  | some v => do
    change fun s => put ((get s).keep number v) s
    return v
  | none => build

/-- Wait until a build ends, keep its value and take it. -/
def awaitBuild {σ α : Type} (get : σ → Deferred α) (put : Deferred α → σ → σ) (number : Nat)
    (build : Program σ α) : Program σ α := do
  wait fun s => ((get s).result? number).isSome
  takeResult get put number build (← look fun s => (get s).result? number)

/-- Take a value, wait for the build that is under way, or build it. -/
def getOrBuild {σ α : Type} (get : σ → Deferred α) (put : Deferred α → σ → σ) (build : Program σ α) :
    Program σ α := do
  match ← changing fun s => ((get s).claim.1, put (get s).claim.2 s) with
  | .take v => return v
  | .join n => awaitBuild get put n build
  | .build n =>
    let v ← build
    change fun s => put ((get s).complete n v) s
    awaitBuild get put n build

end PlaybookServer.Effect

/-
Module: PlaybookServer.Proofs.Effect.Timeline
Purpose: Programs over one state that run in any order, with the order kept: which program ran when, what state it
  left, and what was noted of its questions. So it can be said when the program that did something last had begun. A
  program that upholds an invariant is at its end after each run, and has done as promised, or it is suspended with
  the invariant in place.
Main exports: Moment, Timeline, begun?, Program.ReadyTo, Advances.upholds_to, Resumes.upholds_to, Advances.spares,
  Resumes.spares, Timeline.play?, Timeline.of_play?
-/
import PlaybookServer.Proofs.Effect.Interleaving

namespace PlaybookServer.Effect

variable {σ τ ω α : Type} {sch : Schedule ω}

/-- A run of a program without interruption. Programs are numbered in the order of their starts. -/
structure Moment (σ ω : Type) where
  task : Nat
  /-- The state that the run left. -/
  state : σ
  /-- What was noted during the run. -/
  noted : ω

/-- What happened, the last run first, how the programs stand that were started, and the state. -/
inductive Timeline (sch : Schedule ω) (fresh : ω) (startable : Program σ α → Prop) (s : σ) :
    List (Moment σ ω) → List (Program σ α) → σ → Prop where
  | initial : Timeline sch fresh startable s [] [] s
  | start {past : List (Moment σ ω)} {tasks : List (Program σ α)} {t t' : σ} {p p' : Program σ α} {w : ω}
      (earlier : Timeline sch fresh startable s past tasks t) (hp : startable p)
      (run : Advances sch p t fresh p' t' w) :
      Timeline sch fresh startable s (⟨tasks.length, t', w⟩ :: past) (tasks ++ [p']) t'
  | resume {past : List (Moment σ ω)} {before after : List (Program σ α)} {t t' : σ} {p p' : Program σ α} {w : ω}
      (earlier : Timeline sch fresh startable s past (before ++ p :: after) t)
      (run : Resumes sch p t fresh p' t' w) :
      Timeline sch fresh startable s (⟨before.length, t', w⟩ :: past) (before ++ p' :: after) t'

/-- What is put in one place leaves the other places as they are. -/
theorem getElem?_replace {before after : List α} {a b : α} {i : Nat} (hi : i ≠ before.length) :
    (before ++ b :: after)[i]? = (before ++ a :: after)[i]? := by
  rcases Nat.lt_or_gt_of_ne hi with hlt | hgt
  · rw [List.getElem?_append_left hlt, List.getElem?_append_left hlt]
  · obtain ⟨k, hk⟩ : ∃ k, i - before.length = k + 1 := ⟨i - before.length - 1, by omega⟩
    rw [List.getElem?_append_right (Nat.le_of_lt hgt), List.getElem?_append_right (Nat.le_of_lt hgt), hk,
      List.getElem?_cons_succ, List.getElem?_cons_succ]

/-- The state that the first run of a program left. -/
def begun? (task : Nat) : List (Moment σ ω) → Option σ
  | [] => none
  | m :: past => (begun? task past).or (if m.task = task then some m.state else none)

theorem begun?_cons_of_some {task : Nat} {past : List (Moment σ ω)} {t : σ} (h : begun? task past = some t)
    (m : Moment σ ω) : begun? task (m :: past) = some t := by
  rw [begun?, h, Option.some_or]

theorem begun?_cons_self {past : List (Moment σ ω)} {m : Moment σ ω} (h : begun? m.task past = none) :
    begun? m.task (m :: past) = some m.state := by
  rw [begun?, h, Option.none_or, if_pos rfl]

/-- Programs that were not started have not begun. -/
theorem Timeline.begun?_eq_none {fresh : ω} {startable : Program σ α → Prop} {s t : σ} {past : List (Moment σ ω)}
    {tasks : List (Program σ α)} (h : Timeline sch fresh startable s past tasks t) {task : Nat}
    (htask : tasks.length ≤ task) : begun? task past = none := by
  induction h with
  | initial => rfl
  | start earlier hp run ih =>
      rw [List.length_append, List.length_singleton] at htask
      rw [begun?, ih (by omega), Option.none_or, if_neg (by dsimp only; omega)]
  | resume earlier run ih =>
      simp only [List.length_append, List.length_cons] at htask ih
      rw [begun?, ih htask, Option.none_or, if_neg (by dsimp only; omega)]

/-! ### Programs that keep a promise -/

/-- A program is suspended; from any moment at which the invariant holds it goes on correctly and ends as promised. -/
def Program.ReadyTo (sch : Schedule ω) (I : σ → ω → Prop) (promised : α → σ → ω → Prop) : Program σ α → Prop
  | .ask _ next => ∀ a s w, I s w → (next a).Upholds sch I promised s w
  | .wait ready next => ∀ s w, I s w → ready s = true → next.Upholds sch I promised s w
  | _ => False

section Runs

variable {I : σ → ω → Prop} {promised : α → σ → ω → Prop} {get : σ → τ} {p p' : Program σ α} {s s' : σ} {w w' : ω}

/-- After a run a program has ended as promised, or it is suspended with the invariant in place. -/
theorem Advances.upholds_to (run : Advances sch p s w p' s' w') (h : p.Upholds sch I promised s w) :
    (∃ v, p' = .done v ∧ promised v s' w') ∨ I s' w' ∧ p'.ReadyTo sch I promised := by
  induction run with
  | done v s w => exact .inl ⟨v, rfl, h⟩
  | held next s w hq =>
      simp only [Program.Upholds, hq, if_true] at h
      exact .inr h
  | answered hq a run ih =>
      simp only [Program.Upholds, hq, Bool.false_eq_true, if_false] at h
      exact ih (h a)
  | look run ih => exact ih h
  | change run ih => exact ih h
  | waits ready next s w => exact .inr h

theorem Resumes.upholds_to (run : Resumes sch p s w p' s' w') (h : p.ReadyTo sch I promised) (hI : I s w) :
    (∃ v, p' = .done v ∧ promised v s' w') ∨ I s' w' ∧ p'.ReadyTo sch I promised := by
  cases run with
  | answered a run => exact run.upholds_to (h a s w hI)
  | ready hready run => exact run.upholds_to (h s w hI hready)

/-- A run of a program that leaves a part of the state alone leaves it alone. -/
theorem Advances.spares (run : Advances sch p s w p' s' w') (h : p.Spares get) : get s' = get s ∧ p'.Spares get := by
  induction run with
  | done v s w => exact ⟨rfl, h⟩
  | held next s w hq => exact ⟨rfl, h⟩
  | answered hq a run ih => exact ih (h.2 a)
  | look run ih => exact ih (h _)
  | change run ih =>
      obtain ⟨hget, hp⟩ := ih h.2
      exact ⟨hget.trans (h.1 _), hp⟩
  | waits ready next s w => exact ⟨rfl, h⟩

theorem Resumes.spares (run : Resumes sch p s w p' s' w') (h : p.Spares get) : get s' = get s ∧ p'.Spares get := by
  cases run with
  | answered a run => exact run.spares (h.2 a)
  | ready hready run => exact run.spares h

end Runs

/-! ### Timelines that are computed -/

namespace Timeline

/-- One move after another, with given answers: what happened, how the programs stand, and the state. -/
def play? (sch : Schedule ω) (fresh : ω) (answer : (q : Query) → q.Answer) :
    List (Move σ α) → List (Moment σ ω) → List (Program σ α) → σ →
      Option (List (Moment σ ω) × List (Program σ α) × σ)
  | [], past, tasks, s => some (past, tasks, s)
  | .start p :: moves, past, tasks, s =>
    let (p', s', w) := advance sch answer p s fresh
    play? sch fresh answer moves (⟨tasks.length, s', w⟩ :: past) (tasks ++ [p']) s'
  | .resume task :: moves, past, tasks, s => do
    let (p', s', w) ← resume? sch answer (← tasks[task]?) s fresh
    play? sch fresh answer moves (⟨task, s', w⟩ :: past) (tasks.set task p') s'

/-- What is played happens on some timeline. -/
theorem of_play? {fresh : ω} {startable : Program σ α → Prop} {answer : (q : Query) → q.Answer} {s t t' : σ}
    {moves : List (Move σ α)} {past past' : List (Moment σ ω)} {tasks tasks' : List (Program σ α)}
    (earlier : Timeline sch fresh startable s past tasks t) (hstart : ∀ p, .start p ∈ moves → startable p)
    (hplay : play? sch fresh answer moves past tasks t = some (past', tasks', t')) :
    Timeline sch fresh startable s past' tasks' t' := by
  induction moves generalizing past tasks t with
  | nil =>
      cases hplay
      exact earlier
  | cons move moves ih =>
      have hlater : ∀ p, .start p ∈ moves → startable p := fun p hp => hstart p (List.mem_cons_of_mem _ hp)
      cases move with
      | start p =>
          exact ih (earlier.start (hstart p List.mem_cons_self) (advances_advance sch answer p t fresh)) hlater hplay
      | resume task =>
          simp only [play?, Option.bind_eq_bind, Option.bind_eq_some_iff] at hplay
          obtain ⟨p, hp, r, hr, hplay⟩ := hplay
          obtain ⟨before, after, rfl, rfl, hset⟩ := exists_around hp
          rw [hset] at hplay
          exact ih (earlier.resume (resumes_of_resume? sch answer hr)) hlater hplay

end Timeline

end PlaybookServer.Effect

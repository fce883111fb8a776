/-
Module: PlaybookServer.Proofs.Effect.Interleaving
Purpose: Programs over one state that run in any order. A program runs without interruption from one point of
  suspension to the next; there others may run, any of them first. Answers are whatever the world likes. An
  invariant of the state holds at every moment between two runs if every program upholds it: it leaves the
  invariant in place wherever it is suspended, and relies on no more when it goes on.
Main exports: Schedule, Advances, Resumes, Pool, Pool.Step, Pool.Reachable, Program.Upholds,
  Program.upholds_bind, Program.Within.upholds, Pool.Reachable.invariant, Program.Leaves, Advances.of_bind,
  advance, resume?, Pool.play?, Pool.Reachable.of_play?
-/
import PlaybookServer.Proofs.Effect.Program

namespace PlaybookServer.Effect

variable {σ τ ω α β : Type}

/-- How questions are treated: whether others may run before the answer comes, and what is noted of them. -/
structure Schedule (ω : Type) where
  suspends : Query → Bool
  note : Query → ω → ω

/-! ### Runs -/

/-- A program runs without interruption, to its end or to the next point where it is suspended. -/
inductive Advances (sch : Schedule ω) : Program σ α → σ → ω → Program σ α → σ → ω → Prop where
  | done (v : α) (s : σ) (w : ω) : Advances sch (.done v) s w (.done v) s w
  | held {q : Query} (next : q.Answer → Program σ α) (s : σ) (w : ω) (h : sch.suspends q = true) :
      Advances sch (.ask q next) s w (.ask q next) s (sch.note q w)
  | answered {q : Query} {next : q.Answer → Program σ α} {s s' : σ} {w w' : ω} {p : Program σ α}
      (h : sch.suspends q = false) (a : q.Answer) (run : Advances sch (next a) s (sch.note q w) p s' w') :
      Advances sch (.ask q next) s w p s' w'
  | look {next : σ → Program σ α} {s s' : σ} {w w' : ω} {p : Program σ α}
      (run : Advances sch (next s) s w p s' w') : Advances sch (.look next) s w p s' w'
  | change {f : σ → σ} {next : Program σ α} {s s' : σ} {w w' : ω} {p : Program σ α}
      (run : Advances sch next (f s) w p s' w') : Advances sch (.change f next) s w p s' w'
  | waits (ready : σ → Bool) (next : Program σ α) (s : σ) (w : ω) :
      Advances sch (.wait ready next) s w (.wait ready next) s w

/-- A suspended program goes on: with an answer, or because the state allows it. -/
inductive Resumes (sch : Schedule ω) : Program σ α → σ → ω → Program σ α → σ → ω → Prop where
  | answered {q : Query} {next : q.Answer → Program σ α} {s s' : σ} {w w' : ω} {p : Program σ α}
      (a : q.Answer) (run : Advances sch (next a) s w p s' w') : Resumes sch (.ask q next) s w p s' w'
  | ready {ready : σ → Bool} {next : Program σ α} {s s' : σ} {w w' : ω} {p : Program σ α}
      (h : ready s = true) (run : Advances sch next s w p s' w') : Resumes sch (.wait ready next) s w p s' w'

/-- A state, what was noted, and the programs that were started, in the order of their starts. -/
structure Pool (σ ω α : Type) where
  state : σ
  noted : ω
  tasks : List (Program σ α)

namespace Pool

/-- One program is started, or one goes on. -/
inductive Step (sch : Schedule ω) (startable : Program σ α → Prop) : Pool σ ω α → Pool σ ω α → Prop where
  | start {s s' : σ} {w w' : ω} {p p' : Program σ α} (tasks : List (Program σ α)) (h : startable p)
      (run : Advances sch p s w p' s' w') : Step sch startable ⟨s, w, tasks⟩ ⟨s', w', tasks ++ [p']⟩
  | resume {s s' : σ} {w w' : ω} {p p' : Program σ α} (before after : List (Program σ α))
      (run : Resumes sch p s w p' s' w') :
      Step sch startable ⟨s, w, before ++ p :: after⟩ ⟨s', w', before ++ p' :: after⟩

/-- What can be reached from a state in which nothing was started. -/
inductive Reachable (sch : Schedule ω) (startable : Program σ α → Prop) (s : σ) (w : ω) :
    Pool σ ω α → Prop where
  | initial : Reachable sch startable s w ⟨s, w, []⟩
  | step {pool pool' : Pool σ ω α} (reached : Reachable sch startable s w pool)
      (move : Step sch startable pool pool') : Reachable sch startable s w pool'

end Pool

/-! ### Programs that uphold an invariant -/

namespace Program

variable {sch : Schedule ω} {I : σ → ω → Prop}

/-- Started here, a program has the invariant in place wherever it is suspended, goes on correctly from any
    moment at which the invariant holds, and ends as promised. -/
def Upholds (sch : Schedule ω) (I : σ → ω → Prop) (promised : α → σ → ω → Prop) :
    Program σ α → σ → ω → Prop
  | .done v, s, w => promised v s w
  | .ask q next, s, w =>
    if sch.suspends q then
      I s (sch.note q w) ∧ ∀ a s' w', I s' w' → (next a).Upholds sch I promised s' w'
    else ∀ a, (next a).Upholds sch I promised s (sch.note q w)
  | .look next, s, w => (next s).Upholds sch I promised s w
  | .change f next, s, w => next.Upholds sch I promised (f s) w
  | .wait ready next, s, w =>
    I s w ∧ ∀ s' w', I s' w' → ready s' = true → next.Upholds sch I promised s' w'

theorem Upholds.mono {promised promised' : α → σ → ω → Prop} {p : Program σ α} {s : σ} {w : ω}
    (h : p.Upholds sch I promised s w) (himp : ∀ v s w, promised v s w → promised' v s w) :
    p.Upholds sch I promised' s w := by
  induction p generalizing s w with
  | done v => exact himp v s w h
  | ask q next ih =>
      simp only [Upholds] at h ⊢
      split at h
      next hq =>
          rw [if_pos hq]
          exact ⟨h.1, fun a s' w' hI => ih a (h.2 a s' w' hI)⟩
      next hq =>
          rw [if_neg hq]
          exact fun a => ih a (h a)
  | look next ih => exact ih s h
  | change f next ih => exact ih h
  | wait ready next ih => exact ⟨h.1, fun s' w' hI hready => ih (h.2 s' w' hI hready)⟩

/-- A sequence: the first part promises that the second can be started. -/
theorem upholds_bind (promised : β → σ → ω → Prop) (p : Program σ α) (f : α → Program σ β) (s : σ) (w : ω) :
    (p.bind f).Upholds sch I promised s w ↔
      p.Upholds sch I (fun v => (f v).Upholds sch I promised) s w := by
  induction p generalizing s w with
  | done v => exact Iff.rfl
  | ask q next ih => simp only [bind, Upholds, ih]
  | look next ih => exact ih s s w
  | change g next ih => exact ih (g s) w
  | wait ready next ih => simp only [bind, Upholds, ih]

theorem Upholds.bind {between : α → σ → ω → Prop} {promised : β → σ → ω → Prop} {p : Program σ α}
    {f : α → Program σ β} {s : σ} {w : ω} (hp : p.Upholds sch I between s w)
    (hf : ∀ v s w, between v s w → (f v).Upholds sch I promised s w) :
    (p >>= f).Upholds sch I promised s w :=
  (upholds_bind promised p f s w).2 (hp.mono hf)

theorem upholds_look (f : σ → α) (s : σ) (w : ω) :
    (Effect.look f).Upholds sch I (fun v s' w' => v = f s ∧ s' = s ∧ w' = w) s w :=
  ⟨rfl, rfl, rfl⟩

/-- A program that does nothing but what keeps the invariant, and asks nothing of note, upholds it. -/
theorem Within.upholds {allowed : Act σ → Prop} {returned : α → Prop} {promised : α → σ → ω → Prop}
    {p : Program σ α} (hp : p.Within allowed returned)
    (hchange : ∀ f s w, allowed (.change f) → I s w → I (f s) w)
    (hnote : ∀ q w, allowed (.ask q) → sch.note q w = w)
    (hend : ∀ v s w, returned v → I s w → promised v s w) {s : σ} {w : ω} (hI : I s w) :
    p.Upholds sch I promised s w := by
  induction p generalizing s w with
  | done v => exact hend v s w hp hI
  | ask q next ih =>
      simp only [Upholds, hnote q w hp.1]
      split
      next => exact ⟨hI, fun a s' w' hI' => ih a (hp.2 a) hI'⟩
      next => exact fun a => ih a (hp.2 a) hI
  | look next ih => exact ih s (hp s) hI
  | change f next ih => exact ih hp.2 (hchange f s w hp.1 hI)
  | wait ready next ih => exact ⟨hI, fun s' w' hI' _ => ih hp hI'⟩

/-- A suspended program goes on correctly from any moment at which the invariant holds. -/
def Ready (sch : Schedule ω) (I : σ → ω → Prop) : Program σ α → Prop
  | .ask _ next => ∀ a s w, I s w → (next a).Upholds sch I (fun _ => I) s w
  | .wait ready next => ∀ s w, I s w → ready s = true → next.Upholds sch I (fun _ => I) s w
  | _ => True

end Program

variable {sch : Schedule ω} {I : σ → ω → Prop}

/-- A run of a program that upholds the invariant ends with the invariant in place. -/
theorem Advances.upholds {p p' : Program σ α} {s s' : σ} {w w' : ω} (run : Advances sch p s w p' s' w')
    (h : p.Upholds sch I (fun _ => I) s w) : I s' w' ∧ p'.Ready sch I := by
  induction run with
  | done v s w => exact ⟨h, trivial⟩
  | held next s w hq =>
      simp only [Program.Upholds, hq, if_true] at h
      exact h
  | answered hq a run ih =>
      simp only [Program.Upholds, hq, Bool.false_eq_true, if_false] at h
      exact ih (h a)
  | look run ih => exact ih h
  | change run ih => exact ih h
  | waits ready next s w => exact h

theorem Resumes.upholds {p p' : Program σ α} {s s' : σ} {w w' : ω} (run : Resumes sch p s w p' s' w')
    (h : p.Ready sch I) (hI : I s w) : I s' w' ∧ p'.Ready sch I := by
  cases run with
  | answered a run => exact run.upholds (h a s w hI)
  | ready hready run => exact run.upholds (h s w hI hready)

namespace Pool

variable {startable : Program σ α → Prop}

/-- One step keeps the invariant, and every suspended program ready to go on. -/
theorem Step.invariant (hstart : ∀ p, startable p → ∀ s w, I s w → p.Upholds sch I (fun _ => I) s w)
    {pool pool' : Pool σ ω α} (move : Step sch startable pool pool')
    (h : I pool.state pool.noted ∧ ∀ p ∈ pool.tasks, p.Ready sch I) :
    I pool'.state pool'.noted ∧ ∀ p ∈ pool'.tasks, p.Ready sch I := by
  obtain ⟨hI, htasks⟩ := h
  cases move with
  | start tasks hp run =>
      obtain ⟨hI', hready⟩ := run.upholds (hstart _ hp _ _ hI)
      refine ⟨hI', ?_⟩
      intro p hmem
      rcases List.mem_append.1 hmem with hold | hnew
      · exact htasks p hold
      · obtain rfl := List.mem_singleton.1 hnew
        exact hready
  | resume before after run =>
      obtain ⟨hI', hready⟩ := run.upholds (htasks _ (by simp)) hI
      refine ⟨hI', ?_⟩
      intro p hmem
      rcases List.mem_append.1 hmem with hold | hmem
      · exact htasks p (List.mem_append_left _ hold)
      · rcases List.mem_cons.1 hmem with rfl | hold
        · exact hready
        · exact htasks p (List.mem_append_right _ (List.mem_cons_of_mem _ hold))

/-- An invariant that holds at first and that every startable program upholds holds at every moment between two
    runs, for every order of starts and resumptions and for all answers. -/
theorem Reachable.invariant (hstart : ∀ p, startable p → ∀ s w, I s w → p.Upholds sch I (fun _ => I) s w)
    {s : σ} {w : ω} (hinitial : I s w) {pool : Pool σ ω α} (reached : Reachable sch startable s w pool) :
    I pool.state pool.noted := by
  have hboth : I pool.state pool.noted ∧ ∀ p ∈ pool.tasks, p.Ready sch I := by
    induction reached with
    | initial => exact ⟨hinitial, fun p hp => absurd hp List.not_mem_nil⟩
    | step reached move ih => exact move.invariant hstart ih
  exact hboth.1

end Pool

/-! ### What is left of a program -/

namespace Program

/-- What can be left of a program after a part of it has run, for some answers and some states. -/
inductive Leaves : Program σ α → Program σ α → Prop where
  | start (p : Program σ α) : Leaves p p
  | ask {p : Program σ α} {q : Query} {next : q.Answer → Program σ α} (left : Leaves p (.ask q next))
      (a : q.Answer) : Leaves p (next a)
  | look {p : Program σ α} {next : σ → Program σ α} (left : Leaves p (.look next)) (s : σ) : Leaves p (next s)
  | change {p : Program σ α} {f : σ → σ} {next : Program σ α} (left : Leaves p (.change f next)) : Leaves p next
  | wait {p : Program σ α} {ready : σ → Bool} {next : Program σ α} (left : Leaves p (.wait ready next)) :
      Leaves p next

/-- A program that others may run before. -/
def Suspended : Program σ α → Prop
  | .ask _ _ => True
  | .wait _ _ => True
  | _ => False

theorem Leaves.spares {get : σ → τ} {p r : Program σ α} (h : p.Leaves r) (hp : p.Spares get) :
    r.Spares get := by
  induction h with
  | start => exact hp
  | ask left a ih => exact ih.2 a
  | look left s ih => exact ih s
  | change left ih => exact ih.2
  | wait left ih => exact ih

end Program

/-- How a sequence runs: it is suspended in its first part, or that part ends and the second runs. -/
theorem Advances.of_bind {get : σ → τ} {p r : Program σ α} {f : α → Program σ β} {s s' : σ} {w w' : ω}
    {rest : Program σ β} (run : Advances sch (r.bind f) s w rest s' w') (hp : p.Leaves r)
    (hr : r.Spares get) :
    (∃ r', p.Leaves r' ∧ r'.Suspended ∧ rest = r'.bind f ∧ get s' = get s) ∨
    ∃ v t u, p.Leaves (.done v) ∧ get t = get s ∧ Advances sch (f v) t u rest s' w' := by
  induction r generalizing s w with
  | done v => exact .inr ⟨v, s, w, hp, rfl, run⟩
  | ask q next ih =>
      cases run with
      | held next s w hq => exact .inl ⟨_, hp, trivial, rfl, rfl⟩
      | answered hq a run => exact ih a run (hp.ask a) (hr.2 a)
  | look next ih =>
      cases run with
      | look run => exact ih s run (hp.look s) (hr s)
  | change g next ih =>
      cases run with
      | change run =>
          rw [← hr.1 s]
          exact ih run hp.change hr.2
  | wait ready next ih =>
      cases run with
      | waits ready next s w => exact .inl ⟨_, hp, trivial, rfl, rfl⟩

theorem Resumes.of_bind {get : σ → τ} {p r : Program σ α} {f : α → Program σ β} {s s' : σ} {w w' : ω}
    {rest : Program σ β} (run : Resumes sch (r.bind f) s w rest s' w') (hp : p.Leaves r)
    (hr : r.Spares get) (hsuspended : r.Suspended) :
    (∃ r', p.Leaves r' ∧ r'.Suspended ∧ rest = r'.bind f ∧ get s' = get s) ∨
    ∃ v t u, p.Leaves (.done v) ∧ get t = get s ∧ Advances sch (f v) t u rest s' w' := by
  cases r with
  | ask q next =>
      cases run with
      | answered a run => exact run.of_bind (hp.ask a) (hr.2 a)
  | wait ready next =>
      cases run with
      | ready hready run => exact run.of_bind hp.wait hr
  | done v => exact absurd hsuspended id
  | look next => exact absurd hsuspended id
  | change f next => exact absurd hsuspended id

/-! ### Runs that are computed -/

section Computed

variable (sch : Schedule ω) (answer : (q : Query) → q.Answer)

/-- Run a program without interruption, to its end or to the next point where it is suspended. -/
def advance : Program σ α → σ → ω → Program σ α × σ × ω
  | .done v, s, w => (.done v, s, w)
  | .ask q next, s, w =>
    if sch.suspends q then (.ask q next, s, sch.note q w) else advance (next (answer q)) s (sch.note q w)
  | .look next, s, w => advance (next s) s w
  | .change f next, s, w => advance next (f s) w
  | .wait ready next, s, w => (.wait ready next, s, w)

/-- Let a suspended program go on, if it can. -/
def resume? : Program σ α → σ → ω → Option (Program σ α × σ × ω)
  | .ask q next, s, w => some (advance sch answer (next (answer q)) s w)
  | .wait ready next, s, w => if ready s then some (advance sch answer next s w) else none
  | _, _, _ => none

theorem advances_advance (p : Program σ α) (s : σ) (w : ω) :
    Advances sch p s w (advance sch answer p s w).1 (advance sch answer p s w).2.1 (advance sch answer p s w).2.2 := by
  induction p generalizing s w with
  | done v => exact .done v s w
  | ask q next ih =>
      rw [advance]
      split
      next hq => exact .held next s w hq
      next hq => exact .answered (by simpa using hq) (answer q) (ih _ s _)
  | look next ih => exact .look (ih s s w)
  | change f next ih => exact .change (ih (f s) w)
  | wait ready next ih => exact .waits ready next s w

theorem resumes_of_resume? {p : Program σ α} {s : σ} {w : ω} {r : Program σ α × σ × ω}
    (h : resume? sch answer p s w = some r) : Resumes sch p s w r.1 r.2.1 r.2.2 := by
  cases p with
  | ask q next =>
      cases h
      exact .answered (answer q) (advances_advance sch answer _ s w)
  | wait ready next =>
      rw [resume?] at h
      split at h
      next hready =>
          cases h
          exact .ready hready (advances_advance sch answer next s w)
      next => cases h
  | done v => cases h
  | look next => cases h
  | change f next => cases h

end Computed

/-- A list around one of its items, and with another one in its place. -/
theorem exists_around {xs : List α} {i : Nat} {x : α} (h : xs[i]? = some x) :
    ∃ before after, before.length = i ∧ xs = before ++ x :: after ∧ ∀ y, xs.set i y = before ++ y :: after := by
  obtain ⟨hi, rfl⟩ := List.getElem?_eq_some_iff.1 h
  refine ⟨xs.take i, xs.drop (i + 1), List.length_take_of_le (Nat.le_of_lt hi), ?_, fun y => ?_⟩
  · rw [← List.drop_eq_getElem_cons hi, List.take_append_drop]
  · rw [List.set_eq_take_append_cons_drop, if_pos hi]

/-- What happens next: a program is started, or one that is suspended goes on. -/
inductive Move (σ α : Type) where
  | start (p : Program σ α)
  | resume (task : Nat)

namespace Pool

/-- One move after another, with given answers. -/
def play? (sch : Schedule ω) (answer : (q : Query) → q.Answer) :
    List (Move σ α) → Pool σ ω α → Option (Pool σ ω α)
  | [], pool => some pool
  | .start p :: moves, ⟨s, w, tasks⟩ =>
    let (p', s', w') := advance sch answer p s w
    play? sch answer moves ⟨s', w', tasks ++ [p']⟩
  | .resume task :: moves, ⟨s, w, tasks⟩ => do
    let (p', s', w') ← resume? sch answer (← tasks[task]?) s w
    play? sch answer moves ⟨s', w', tasks.set task p'⟩

/-- What is played can be reached. -/
theorem Reachable.of_play? {startable : Program σ α → Prop} {answer : (q : Query) → q.Answer} {s : σ} {w : ω}
    {moves : List (Move σ α)} {pool pool' : Pool σ ω α} (reached : Reachable sch startable s w pool)
    (hstart : ∀ p, .start p ∈ moves → startable p) (hplay : play? sch answer moves pool = some pool') :
    Reachable sch startable s w pool' := by
  induction moves generalizing pool with
  | nil =>
      cases hplay
      exact reached
  | cons move moves ih =>
      have hlater : ∀ p, .start p ∈ moves → startable p := fun p hp => hstart p (List.mem_cons_of_mem _ hp)
      cases move with
      | start p =>
          exact ih (reached.step (.start _ (hstart p List.mem_cons_self) (advances_advance sch answer p _ _)))
            hlater hplay
      | resume task =>
          simp only [play?, Option.bind_eq_bind, Option.bind_eq_some_iff] at hplay
          obtain ⟨p, hp, r, hr, hplay⟩ := hplay
          obtain ⟨before, after, -, htasks, hset⟩ := exists_around hp
          rw [hset] at hplay
          refine ih (reached.step ?_) hlater hplay
          rw [show pool = ⟨pool.state, pool.noted, before ++ p :: after⟩ by rw [← htasks]]
          exact .resume before after (resumes_of_resume? sch answer hr)

end Pool

end PlaybookServer.Effect

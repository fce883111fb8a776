/-
Module: PlaybookServer.Proofs.Effect.History
Purpose: Programs over one state that run in any order, with a history of what happened: the questions that were
  asked, the states that programs looked at, the changes they made, and what was done to the state from outside.
  The history only grows. So what a program knows of it stays true while others run, and a program may rely, when it
  goes on, on all that it knew when it was suspended.
Main exports: Occurrence, History, Runs, exists_runs_iff_exists_advances, Course, Course.Step, Course.Reachable,
  Program.Proceeds, Program.Proceeds.bind, Program.Within.proceeds, Program.Converses.proceeds,
  Course.Reachable.invariant
-/
import PlaybookServer.Proofs.Effect.Conversation
import PlaybookServer.Proofs.Effect.Interleaving

namespace PlaybookServer.Effect

variable {σ μ α β : Type}

/-- What happens. -/
inductive Occurrence (σ μ : Type) where
  /-- Something is done from outside, in a state. -/
  | outside (act : μ) (s : σ)
  | asked (q : Query)
  /-- A program looks at a state. -/
  | looked (s : σ)
  /-- A program changes one state to another. -/
  | changed (s s' : σ)

/-- What happened, the latest first. -/
abbrev History (σ μ : Type) := List (Occurrence σ μ)

/-! ### Runs -/

/-- A program runs without interruption, to its end or to the next point where it is suspended. -/
inductive Runs (suspends : Query → Bool) :
    Program σ α → σ → History σ μ → Program σ α → σ → History σ μ → Prop where
  | done (v : α) (s : σ) (h : History σ μ) : Runs suspends (.done v) s h (.done v) s h
  | held {q : Query} (next : q.Answer → Program σ α) (s : σ) (h : History σ μ) (hq : suspends q = true) :
      Runs suspends (.ask q next) s h (.ask q next) s (.asked q :: h)
  | answered {q : Query} {next : q.Answer → Program σ α} {s s' : σ} {h h' : History σ μ} {p : Program σ α}
      (hq : suspends q = false) (a : q.Answer) (run : Runs suspends (next a) s (.asked q :: h) p s' h') :
      Runs suspends (.ask q next) s h p s' h'
  | look {next : σ → Program σ α} {s s' : σ} {h h' : History σ μ} {p : Program σ α}
      (run : Runs suspends (next s) s (.looked s :: h) p s' h') : Runs suspends (.look next) s h p s' h'
  | change {f : σ → σ} {next : Program σ α} {s s' : σ} {h h' : History σ μ} {p : Program σ α}
      (run : Runs suspends next (f s) (.changed s (f s) :: h) p s' h') :
      Runs suspends (.change f next) s h p s' h'
  | waits (ready : σ → Bool) (next : Program σ α) (s : σ) (h : History σ μ) :
      Runs suspends (.wait ready next) s h (.wait ready next) s h

section Noting

variable {ω : Type} {sch : Schedule ω} {p p' : Program σ α} {s s' : σ}

theorem Runs.advances {h h' : History σ μ} (run : Runs sch.suspends p s h p' s' h') (w : ω) :
    ∃ w', Advances sch p s w p' s' w' := by
  induction run generalizing w with
  | done v s h => exact ⟨w, .done v s w⟩
  | held next s h hq => exact ⟨_, .held next s w hq⟩
  | answered hq a run ih =>
      obtain ⟨w', run⟩ := ih (sch.note _ w)
      exact ⟨w', .answered hq a run⟩
  | look run ih =>
      obtain ⟨w', run⟩ := ih w
      exact ⟨w', .look run⟩
  | change run ih =>
      obtain ⟨w', run⟩ := ih w
      exact ⟨w', .change run⟩
  | waits ready next s h => exact ⟨w, .waits ready next s w⟩

theorem runs_of_advances {w w' : ω} (run : Advances sch p s w p' s' w') (h : History σ μ) :
    ∃ h', Runs sch.suspends p s h p' s' h' := by
  induction run generalizing h with
  | done v s w => exact ⟨h, .done v s h⟩
  | held next s w hq => exact ⟨_, .held next s h hq⟩
  | answered hq a run ih =>
      obtain ⟨h', run⟩ := ih (.asked _ :: h)
      exact ⟨h', .answered hq a run⟩
  | look run ih =>
      obtain ⟨h', run⟩ := ih (.looked _ :: h)
      exact ⟨h', .look run⟩
  | change run ih =>
      obtain ⟨h', run⟩ := ih (.changed _ _ :: h)
      exact ⟨h', .change run⟩
  | waits ready next s w => exact ⟨h, .waits ready next s h⟩

/-- Whether a history is kept or something else is noted, the runs of a program are the same. -/
theorem exists_runs_iff_exists_advances (h : History σ μ) (w : ω) :
    (∃ h', Runs sch.suspends p s h p' s' h') ↔ ∃ w', Advances sch p s w p' s' w' :=
  ⟨fun ⟨_, run⟩ => run.advances w, fun ⟨_, run⟩ => runs_of_advances run h⟩

end Noting

/-- A suspended program goes on: with an answer, or because the state allows it. -/
inductive GoesOn (suspends : Query → Bool) :
    Program σ α → σ → History σ μ → Program σ α → σ → History σ μ → Prop where
  | answered {q : Query} {next : q.Answer → Program σ α} {s s' : σ} {h h' : History σ μ} {p : Program σ α}
      (a : q.Answer) (run : Runs suspends (next a) s h p s' h') : GoesOn suspends (.ask q next) s h p s' h'
  | ready {ready : σ → Bool} {next : Program σ α} {s s' : σ} {h h' : History σ μ} {p : Program σ α}
      (hready : ready s = true) (run : Runs suspends next s h p s' h') :
      GoesOn suspends (.wait ready next) s h p s' h'

/-- A state, its history, and the programs that were started, in the order of their starts. -/
structure Course (σ μ : Type) where
  state : σ
  history : History σ μ
  tasks : List (Program σ Unit)

namespace Course

/-- Something is done from outside, a program is started, or one goes on. -/
inductive Step (suspends : Query → Bool) (apply : μ → σ → σ) (startable : Program σ Unit → Prop) :
    Course σ μ → Course σ μ → Prop where
  | outside (act : μ) (s : σ) (h : History σ μ) (tasks : List (Program σ Unit)) :
      Step suspends apply startable ⟨s, h, tasks⟩ ⟨apply act s, .outside act s :: h, tasks⟩
  | start {s s' : σ} {h h' : History σ μ} {p p' : Program σ Unit} (tasks : List (Program σ Unit))
      (hp : startable p) (run : Runs suspends p s h p' s' h') :
      Step suspends apply startable ⟨s, h, tasks⟩ ⟨s', h', tasks ++ [p']⟩
  | goOn {s s' : σ} {h h' : History σ μ} {p p' : Program σ Unit} (before after : List (Program σ Unit))
      (run : GoesOn suspends p s h p' s' h') :
      Step suspends apply startable ⟨s, h, before ++ p :: after⟩ ⟨s', h', before ++ p' :: after⟩

/-- What can be reached from a state in which nothing has happened. -/
inductive Reachable (suspends : Query → Bool) (apply : μ → σ → σ) (startable : Program σ Unit → Prop) (s : σ) :
    Course σ μ → Prop where
  | initial : Reachable suspends apply startable s ⟨s, [], []⟩
  | step {course course' : Course σ μ} (reached : Reachable suspends apply startable s course)
      (move : Step suspends apply startable course course') : Reachable suspends apply startable s course'

end Course

/-! ### Programs that proceed correctly -/

namespace Program

variable {suspends : Query → Bool} {I : σ → History σ μ → Prop}

/-- Started here, a program has the invariant in place wherever it is suspended, goes on correctly from any later
    moment at which the invariant holds, and ends as promised. -/
def Proceeds (suspends : Query → Bool) (I : σ → History σ μ → Prop) (promised : α → σ → History σ μ → Prop) :
    Program σ α → σ → History σ μ → Prop
  | .done v, s, h => promised v s h
  | .ask q next, s, h =>
    if suspends q then
      I s (.asked q :: h) ∧ ∀ a s' h', .asked q :: h <:+ h' → I s' h' → (next a).Proceeds suspends I promised s' h'
    else ∀ a, (next a).Proceeds suspends I promised s (.asked q :: h)
  | .look next, s, h => (next s).Proceeds suspends I promised s (.looked s :: h)
  | .change f next, s, h => next.Proceeds suspends I promised (f s) (.changed s (f s) :: h)
  | .wait ready next, s, h =>
    I s h ∧ ∀ s' h', h <:+ h' → I s' h' → ready s' = true → next.Proceeds suspends I promised s' h'

theorem Proceeds.mono {promised promised' : α → σ → History σ μ → Prop} {p : Program σ α} {s : σ}
    {h : History σ μ} (hp : p.Proceeds suspends I promised s h)
    (himp : ∀ v s' h', h <:+ h' → promised v s' h' → promised' v s' h') :
    p.Proceeds suspends I promised' s h := by
  induction p generalizing s h with
  | done v => exact himp v s h (List.suffix_refl h) hp
  | ask q next ih =>
      have hasked : h <:+ .asked q :: h := List.suffix_cons _ h
      simp only [Proceeds] at hp ⊢
      split at hp
      next hq =>
          rw [if_pos hq]
          refine ⟨hp.1, fun a s' h' hgrown hI => ?_⟩
          exact ih a (hp.2 a s' h' hgrown hI) fun v t g hlater =>
            himp v t g ((hasked.trans hgrown).trans hlater)
      next hq =>
          rw [if_neg hq]
          exact fun a => ih a (hp a) fun v t g hlater => himp v t g (hasked.trans hlater)
  | look next ih => exact ih s hp fun v t g hlater => himp v t g ((List.suffix_cons _ h).trans hlater)
  | change f next ih => exact ih hp fun v t g hlater => himp v t g ((List.suffix_cons _ h).trans hlater)
  | wait ready next ih =>
      refine ⟨hp.1, fun s' h' hgrown hI hready => ?_⟩
      exact ih (hp.2 s' h' hgrown hI hready) fun v t g hlater => himp v t g (hgrown.trans hlater)

/-- A sequence: the first part promises that the second can be started. -/
theorem proceeds_bind (promised : β → σ → History σ μ → Prop) (p : Program σ α) (f : α → Program σ β) (s : σ)
    (h : History σ μ) : (p.bind f).Proceeds suspends I promised s h ↔
      p.Proceeds suspends I (fun v => (f v).Proceeds suspends I promised) s h := by
  induction p generalizing s h with
  | done v => exact Iff.rfl
  | ask q next ih => simp only [bind, Proceeds, ih]
  | look next ih => exact ih s s _
  | change g next ih => exact ih (g s) _
  | wait ready next ih => simp only [bind, Proceeds, ih]

theorem Proceeds.bind {between : α → σ → History σ μ → Prop} {promised : β → σ → History σ μ → Prop}
    {p : Program σ α} {f : α → Program σ β} {s : σ} {h : History σ μ}
    (hp : p.Proceeds suspends I between s h)
    (hf : ∀ v s' h', h <:+ h' → between v s' h' → (f v).Proceeds suspends I promised s' h') :
    (p >>= f).Proceeds suspends I promised s h :=
  (proceeds_bind promised p f s h).2 (hp.mono hf)

/-- What is changed at once is looked at first. -/
theorem proceeds_changing (promised : β → σ → History σ μ → Prop) (f : σ → α × σ) (next : α → Program σ β) (s : σ)
    (h : History σ μ) : (changing f >>= next).Proceeds suspends I promised s h ↔
      (next (f s).1).Proceeds suspends I promised (f s).2 (.changed s (f s).2 :: .looked s :: h) :=
  Iff.rfl

/-- A program that does nothing but what keeps the invariant proceeds correctly. -/
theorem Within.proceeds {allowed : Act σ → Prop} {returned : α → Prop} {p : Program σ α}
    (hp : p.Within allowed returned) (hask : ∀ q s h, I s h → I s (.asked q :: h))
    (hlook : ∀ s h, I s h → I s (.looked s :: h))
    (hchange : ∀ f s h, allowed (.change f) → I s h → I (f s) (.changed s (f s) :: h)) {s : σ}
    {h : History σ μ} (hI : I s h) : p.Proceeds suspends I (fun v s' h' => I s' h' ∧ returned v) s h := by
  induction p generalizing s h with
  | done v => exact ⟨hI, hp⟩
  | ask q next ih =>
      simp only [Proceeds]
      split
      next => exact ⟨hask q s h hI, fun a s' h' _ hI' => ih a (hp.2 a) hI'⟩
      next => exact fun a => ih a (hp.2 a) (hask q s h hI)
  | look next ih => exact ih s (hp s) (hlook s h hI)
  | change f next ih => exact ih hp.2 (hchange f s h hp.1 hI)
  | wait ready next ih => exact ⟨hI, fun s' h' _ hI' _ => ih hp hI'⟩

/-- A program that converses proceeds correctly wherever questions and looks keep the invariant. -/
theorem Converses.proceeds {promised : List Exchange → α → Prop} {p : Program σ α} (hp : p.Converses promised)
    (hask : ∀ q s h, I s h → I s (.asked q :: h)) (hlook : ∀ s h, I s h → I s (.looked s :: h)) {s : σ}
    {h : History σ μ} (hI : I s h) :
    p.Proceeds suspends I (fun v s' h' => I s' h' ∧ ∃ said, promised said v) s h := by
  induction p generalizing promised s h with
  | done v => exact ⟨hI, [], hp⟩
  | ask q next ih =>
      have hnext (a : q.Answer) {s' : σ} {h' : History σ μ} (hI' : I s' h') :
          (next a).Proceeds suspends I (fun v s' h' => I s' h' ∧ ∃ said, promised said v) s' h' :=
        (ih a (hp a) hI').mono fun v s'' h'' _ hv => ⟨hv.1, hv.2.elim fun said hsaid => ⟨_, hsaid⟩⟩
      simp only [Proceeds]
      split
      next => exact ⟨hask q s h hI, fun a s' h' _ hI' => hnext a hI'⟩
      next => exact fun a => hnext a (hask q s h hI)
  | look next ih => exact ih s (hp s) (hlook s h hI)
  | change f next ih => exact absurd hp id
  | wait ready next ih => exact absurd hp id

/-- A program that was suspended goes on correctly from any later moment at which the invariant holds. -/
def Resumable (suspends : Query → Bool) (I : σ → History σ μ → Prop) (since : History σ μ) :
    Program σ α → Prop
  | .ask _ next => ∀ a s h, since <:+ h → I s h → (next a).Proceeds suspends I (fun _ => I) s h
  | .wait ready next =>
    ∀ s h, since <:+ h → I s h → ready s = true → next.Proceeds suspends I (fun _ => I) s h
  | _ => True

end Program

section Runs

variable {suspends : Query → Bool} {I : σ → History σ μ → Prop} {p p' : Program σ α} {s s' : σ}
  {h h' : History σ μ}

theorem Runs.grows (run : Runs suspends p s h p' s' h') : h <:+ h' := by
  induction run with
  | done v s h => exact List.suffix_refl h
  | held next s h hq => exact List.suffix_cons _ h
  | answered hq a run ih => exact (List.suffix_cons _ _).trans ih
  | look run ih => exact (List.suffix_cons _ _).trans ih
  | change run ih => exact (List.suffix_cons _ _).trans ih
  | waits ready next s h => exact List.suffix_refl h

/-- A run of a program that proceeds correctly ends with the invariant in place. -/
theorem Runs.proceeds (run : Runs suspends p s h p' s' h') (hp : p.Proceeds suspends I (fun _ => I) s h) :
    I s' h' ∧ p'.Resumable suspends I h' := by
  induction run with
  | done v s h => exact ⟨hp, trivial⟩
  | held next s h hq =>
      simp only [Program.Proceeds, hq, if_true] at hp
      exact hp
  | answered hq a run ih =>
      simp only [Program.Proceeds, hq, Bool.false_eq_true, if_false] at hp
      exact ih (hp a)
  | look run ih => exact ih hp
  | change run ih => exact ih hp
  | waits ready next s h => exact hp

theorem GoesOn.grows (run : GoesOn suspends p s h p' s' h') : h <:+ h' := by
  cases run with
  | answered a run => exact run.grows
  | ready hready run => exact run.grows

theorem GoesOn.proceeds {since : History σ μ} (run : GoesOn suspends p s h p' s' h')
    (hp : p.Resumable suspends I since) (hsince : since <:+ h) (hI : I s h) :
    h <:+ h' ∧ I s' h' ∧ p'.Resumable suspends I h' := by
  cases run with
  | answered a run => exact ⟨run.grows, run.proceeds (hp a s h hsince hI)⟩
  | ready hready run => exact ⟨run.grows, run.proceeds (hp s h hsince hI hready)⟩

end Runs

theorem goesOn_of_resumes {ω : Type} {sch : Schedule ω} {p p' : Program σ α} {s s' : σ} {w w' : ω}
    (run : Resumes sch p s w p' s' w') (h : History σ μ) : ∃ h', GoesOn sch.suspends p s h p' s' h' := by
  cases run with
  | answered a run =>
      obtain ⟨h', run⟩ := runs_of_advances run h
      exact ⟨h', .answered a run⟩
  | ready hready run =>
      obtain ⟨h', run⟩ := runs_of_advances run h
      exact ⟨h', .ready hready run⟩

namespace Course

variable {suspends : Query → Bool} {apply : μ → σ → σ} {startable : Program σ Unit → Prop}
  {I : σ → History σ μ → Prop}

/-- The invariant holds, and every program goes on correctly that was suspended at some moment. -/
structure Sound (suspends : Query → Bool) (I : σ → History σ μ → Prop) (course : Course σ μ) : Prop where
  holds : I course.state course.history
  resumable : ∀ p ∈ course.tasks, ∃ since, since <:+ course.history ∧ p.Resumable suspends I since

/-- One step keeps the invariant, and every suspended program able to go on. -/
theorem Step.sound (houtside : ∀ act s h, I s h → I (apply act s) (.outside act s :: h))
    (hstart : ∀ p, startable p → ∀ s h, I s h → p.Proceeds suspends I (fun _ => I) s h)
    {course course' : Course σ μ} (move : Step suspends apply startable course course')
    (hsound : course.Sound suspends I) : course'.Sound suspends I := by
  obtain ⟨hI, htasks⟩ := hsound
  have hlater {h h' : History σ μ} (hgrown : h <:+ h') {p : Program σ Unit}
      (hp : ∃ since, since <:+ h ∧ p.Resumable suspends I since) :
      ∃ since, since <:+ h' ∧ p.Resumable suspends I since := by
    obtain ⟨since, hsince, hp⟩ := hp
    exact ⟨since, hsince.trans hgrown, hp⟩
  cases move with
  | outside act s h tasks =>
      exact ⟨houtside act s h hI, fun p hmem => hlater (List.suffix_cons _ h) (htasks p hmem)⟩
  | start tasks hp run =>
      obtain ⟨hI', hresumable⟩ := run.proceeds (hstart _ hp _ _ hI)
      refine ⟨hI', ?_⟩
      intro p hmem
      rcases List.mem_append.1 hmem with hold | hnew
      · exact hlater run.grows (htasks p hold)
      · obtain rfl := List.mem_singleton.1 hnew
        exact ⟨_, List.suffix_refl _, hresumable⟩
  | goOn before after run =>
      obtain ⟨since, hsince, hp⟩ := htasks _ (List.mem_append_right before List.mem_cons_self)
      obtain ⟨hgrown, hI', hresumable⟩ := run.proceeds hp hsince hI
      refine ⟨hI', ?_⟩
      intro p hmem
      rcases List.mem_append.1 hmem with hold | hmem
      · exact hlater hgrown (htasks p (List.mem_append_left _ hold))
      · rcases List.mem_cons.1 hmem with rfl | hold
        · exact ⟨_, List.suffix_refl _, hresumable⟩
        · exact hlater hgrown (htasks p (List.mem_append_right _ (List.mem_cons_of_mem _ hold)))

/-- What is played goes on from what was reached, with all that has happened. -/
theorem Reachable.of_play? {ω : Type} {sch : Schedule ω} {answer : (q : Query) → q.Answer} {s : σ}
    {moves : List (Move σ Unit)} {pool pool' : Pool σ ω Unit} {h : History σ μ}
    (hplay : Pool.play? sch answer moves pool = some pool') (hstart : ∀ p, .start p ∈ moves → startable p)
    (reached : Reachable sch.suspends apply startable s ⟨pool.state, h, pool.tasks⟩) :
    ∃ since, Reachable sch.suspends apply startable s ⟨pool'.state, since ++ h, pool'.tasks⟩ := by
  induction moves generalizing pool h with
  | nil =>
      cases hplay
      exact ⟨[], reached⟩
  | cons move moves ih =>
      have hlater : ∀ p, .start p ∈ moves → startable p := fun p hp => hstart p (List.mem_cons_of_mem _ hp)
      -- The rest goes on from what one move adds to the history.
      have hrest {h' : History σ μ} {pool'' : Pool σ ω Unit} (hgrown : h <:+ h')
          (hstep : Step sch.suspends apply startable ⟨pool.state, h, pool.tasks⟩ ⟨pool''.state, h', pool''.tasks⟩)
          (hplay : Pool.play? sch answer moves pool'' = some pool') :
          ∃ since, Reachable sch.suspends apply startable s ⟨pool'.state, since ++ h, pool'.tasks⟩ := by
        obtain ⟨between, rfl⟩ := hgrown
        obtain ⟨since, hreached⟩ := ih hplay hlater (reached.step hstep)
        exact ⟨since ++ between, by rwa [List.append_assoc]⟩
      cases move with
      | start p =>
          obtain ⟨h', run⟩ := runs_of_advances (advances_advance sch answer p pool.state pool.noted) h
          exact hrest run.grows (.start _ (hstart p List.mem_cons_self) run) hplay
      | resume task =>
          simp only [Pool.play?, Option.bind_eq_bind, Option.bind_eq_some_iff] at hplay
          obtain ⟨p, hp, r, hr, hplay⟩ := hplay
          obtain ⟨before, after, -, htasks, hset⟩ := exists_around hp
          obtain ⟨h', run⟩ := goesOn_of_resumes (resumes_of_resume? sch answer hr) h
          refine hrest run.grows ?_ hplay
          rw [hset, htasks]
          exact .goOn before after run

/-- An invariant that holds at first, that what is done from outside keeps, and with which every startable program
    proceeds correctly, holds at every moment between two runs, for every order of starts and resumptions and for
    all answers. -/
theorem Reachable.invariant (houtside : ∀ act s h, I s h → I (apply act s) (.outside act s :: h))
    (hstart : ∀ p, startable p → ∀ s h, I s h → p.Proceeds suspends I (fun _ => I) s h) {s : σ}
    (hinitial : I s []) {course : Course σ μ} (reached : Reachable suspends apply startable s course) :
    I course.state course.history := by
  have hsound : course.Sound suspends I := by
    induction reached with
    | initial => exact ⟨hinitial, fun p hp => absurd hp List.not_mem_nil⟩
    | step reached move ih => exact move.sound houtside hstart ih
  exact hsound.holds

end Course

end PlaybookServer.Effect

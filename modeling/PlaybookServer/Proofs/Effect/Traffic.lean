/-
Module: PlaybookServer.Proofs.Effect.Traffic
Purpose: Programs over one state that are started for messages and run in any order. Of each program it is kept which
  message it was started for, which state it found and which one its first run left. A program that is nowhere held
  up runs to its end at once.
Main exports: Start, Traffic, Traffic.Step, Traffic.Reaches, Program.Leaves.within, Program.Prompt,
  Program.Prompt.bind, Advances.of_prompt
-/
import Mathlib.Logic.Relation
import PlaybookServer.Proofs.Effect.Timeline

namespace PlaybookServer.Effect

variable {σ τ ω μ α β : Type}

/-- How a program was started: for a message, in a state, and its first run left a state. -/
structure Start (σ μ : Type) where
  message : μ
  found : σ
  left : σ

/-- A state, and the programs that were started, in the order of their starts, with what is left of each. -/
structure Traffic (σ μ α : Type) where
  state : σ
  tasks : List (Start σ μ × Program σ α)

namespace Traffic

variable {sch : Schedule Unit} {handler : μ → Program σ α}

/-- How the programs were started. -/
def starts (traffic : Traffic σ μ α) : List (Start σ μ) := traffic.tasks.map Prod.fst

/-- A message comes, and its program is started; or a suspended program goes on. -/
inductive Step (sch : Schedule Unit) (handler : μ → Program σ α) : Traffic σ μ α → Traffic σ μ α → Prop where
  | start {s s' : σ} {p : Program σ α} (tasks : List (Start σ μ × Program σ α)) (m : μ)
      (run : Advances sch (handler m) s () p s' ()) :
      Step sch handler ⟨s, tasks⟩ ⟨s', tasks ++ [(⟨m, s, s'⟩, p)]⟩
  | resume {s s' : σ} {p p' : Program σ α} (before after : List (Start σ μ × Program σ α)) (begun : Start σ μ)
      (run : Resumes sch p s () p' s' ()) :
      Step sch handler ⟨s, before ++ (begun, p) :: after⟩ ⟨s', before ++ (begun, p') :: after⟩

/-- What can become of traffic. -/
abbrev Reaches (sch : Schedule Unit) (handler : μ → Program σ α) : Traffic σ μ α → Traffic σ μ α → Prop :=
  Relation.ReflTransGen (Step sch handler)

theorem getElem?_starts {traffic : Traffic σ μ α} {i : Nat} {begun : Start σ μ} {rest : Program σ α}
    (h : traffic.tasks[i]? = some (begun, rest)) : traffic.starts[i]? = some begun := by
  rw [starts, List.getElem?_map, h]
  rfl

/-- Going on leaves the starts as they were. -/
theorem starts_replace (s s' : σ) (before after : List (Start σ μ × Program σ α)) (begun : Start σ μ)
    (p p' : Program σ α) : (⟨s', before ++ (begun, p') :: after⟩ : Traffic σ μ α).starts =
      (⟨s, before ++ (begun, p) :: after⟩ : Traffic σ μ α).starts := by
  simp [starts]

/-- The programs after one has gone on: that one, and the others as they were. -/
theorem getElem?_tasks_replace {before after : List (Start σ μ × Program σ α)} {begun begun' : Start σ μ}
    {p p' rest : Program σ α} {i : Nat} (h : (before ++ (begun, p') :: after)[i]? = some (begun', rest)) :
    (i = before.length ∧ begun' = begun ∧ rest = p') ∨
      (before ++ (begun, p) :: after)[i]? = some (begun', rest) := by
  by_cases hi : i = before.length
  · subst hi
    rw [List.getElem?_append_right (Nat.le_refl _), Nat.sub_self, List.getElem?_cons_zero] at h
    obtain ⟨rfl, rfl⟩ := Prod.mk.inj (Option.some.inj h)
    exact .inl ⟨rfl, rfl, rfl⟩
  · exact .inr ((getElem?_replace hi).trans h)

/-- The programs after one was started: the new one, and the others as they were. -/
theorem getElem?_concat {γ : Type} {xs : List γ} {x y : γ} {i : Nat} (h : (xs ++ [x])[i]? = some y) :
    (i = xs.length ∧ y = x) ∨ xs[i]? = some y := by
  rcases Nat.lt_trichotomy i xs.length with hlt | rfl | hgt
  · exact .inr ((List.getElem?_append_left hlt).symm.trans h)
  · rw [List.getElem?_concat_length] at h
    exact .inl ⟨rfl, (Option.some.inj h).symm⟩
  · rw [List.getElem?_eq_none (by rw [List.length_append, List.length_singleton]; omega)] at h
    cases h

end Traffic

/-! ### What is left of a program -/

namespace Program

/-- What bounds a program bounds what is left of it. -/
theorem Leaves.within {allowed : Act σ → Prop} {promised : α → Prop} {p r : Program σ α} (h : p.Leaves r)
    (hp : p.Within allowed promised) : r.Within allowed promised := by
  induction h with
  | start => exact hp
  | ask left a ih => exact ih.2 a
  | look left s ih => exact ih s
  | change left ih => exact ih.2
  | wait left ih => exact ih

/-- A sequence that is suspended in its first part has not ended. -/
theorem Suspended.bind_ne_done {p : Program σ α} (h : p.Suspended) (f : α → Program σ β) (v : β) :
    p >>= f ≠ .done v := by
  cases p with
  | ask q next => exact nofun
  | wait ready next => exact nofun
  | done v => exact absurd h id
  | look next => exact absurd h id
  | change f next => exact absurd h id

/-- A program that is held up by none of its questions, and waits for nothing. -/
def Prompt (sch : Schedule ω) : Program σ α → Prop
  | .done _ => True
  | .ask q next => sch.suspends q = false ∧ ∀ a, (next a).Prompt sch
  | .look next => ∀ s, (next s).Prompt sch
  | .change _ next => next.Prompt sch
  | .wait _ _ => False

variable {sch : Schedule ω}

theorem Prompt.bind {p : Program σ α} {f : α → Program σ β} (hp : p.Prompt sch) (hf : ∀ v, (f v).Prompt sch) :
    (p >>= f).Prompt sch := by
  show (p.bind f).Prompt sch
  induction p with
  | done v => exact hf v
  | ask q next ih => exact ⟨hp.1, fun a => ih a (hp.2 a)⟩
  | look next ih => exact fun s => ih s (hp s)
  | change g next ih => exact ih hp
  | wait ready next ih => exact absurd hp id

theorem Prompt.zoom {get : σ → τ} {put : τ → σ → σ} {p : Program τ α} (hp : p.Prompt sch) :
    (p.zoom get put).Prompt sch := by
  induction p with
  | done v => trivial
  | ask q next ih => exact ⟨hp.1, fun a => ih a (hp.2 a)⟩
  | look next ih => exact fun s => ih (get s) (hp (get s))
  | change f next ih => exact ih hp
  | wait ready next ih => exact absurd hp id

end Program

section Runs

variable {sch : Schedule ω} {s s' : σ} {w w' : ω}

/-- What is held up nowhere runs to its end. -/
theorem Advances.of_prompt {p rest : Program σ α} (run : Advances sch p s w rest s' w') (hp : p.Prompt sch) :
    ∃ v, rest = .done v := by
  induction run with
  | done v => exact ⟨v, rfl⟩
  | held next s w hq => exact absurd (hp.1.symm.trans hq) Bool.false_ne_true
  | answered hq a run ih => exact ih (hp.2 a)
  | look run ih => exact ih (hp _)
  | change run ih => exact ih hp
  | waits => exact absurd hp id

theorem Advances.of_done {v : α} {rest : Program σ α} (run : Advances sch (.done v) s w rest s' w') :
    rest = .done v ∧ s' = s := by
  cases run
  exact ⟨rfl, rfl⟩

theorem Advances.of_look {f : σ → α} {g : α → Program σ β} {rest : Program σ β}
    (run : Advances sch (Effect.look f >>= g) s w rest s' w') : Advances sch (g (f s)) s w rest s' w' := by
  cases run with
  | look run => exact run

theorem Advances.of_changing {f : σ → α × σ} {g : α → Program σ β} {rest : Program σ β}
    (run : Advances sch (changing f >>= g) s w rest s' w') :
    Advances sch (g (f s).1) (f s).2 w rest s' w' := by
  cases run with
  | look run =>
      cases run with
      | change run => exact run

/-- A sequence that is suspended in its first part goes on in it. -/
theorem Resumes.advances_of_bind {p r : Program σ α} {f : α → Program σ β} {rest : Program σ β}
    (run : Resumes sch (r >>= f) s w rest s' w') (hp : p.Leaves r) (hsuspended : r.Suspended) :
    ∃ r', p.Leaves r' ∧ Advances sch (r' >>= f) s w rest s' w' := by
  cases r with
  | ask q next =>
      cases run with
      | answered a run => exact ⟨next a, hp.ask a, run⟩
  | wait ready next =>
      cases run with
      | ready hready run => exact ⟨next, hp.wait, run⟩
  | done v => exact absurd hsuspended id
  | look next => exact absurd hsuspended id
  | change f next => exact absurd hsuspended id

end Runs

end PlaybookServer.Effect

/-
Module: PlaybookServer.Proofs.Effect.Program
Purpose: What a program may do and what it may return, whatever it is answered and whatever others do to the
  state meanwhile. The rules follow the ways in which programs are put together.
Main exports: Act, Program.Within, Program.Outward, Program.Quiet, Program.Spares, Program.zoom_bind,
  Program.zoom_zoom, Program.within_bind, Program.within_zoom, within_getOrBuild
-/
import PlaybookServer.Effect.Deferred

namespace PlaybookServer.Effect

/-- A question that publishes no diagnostics. -/
def Query.PublishesNothing : Query → Prop
  | .publish _ _ => False
  | _ => True

/-- What a program does: it asks the world, or it changes the state. -/
inductive Act (σ : Type) where
  | ask (q : Query)
  | change (f : σ → σ)

namespace Act

variable {σ τ : Type}

/-- Nothing is published. -/
def Quiet : Act σ → Prop
  | .ask q => q.PublishesNothing
  | .change _ => True

/-- Nothing is published, and the state stays as it is. -/
def Outward : Act σ → Prop
  | .ask q => q.PublishesNothing
  | .change _ => False

/-- A part of the state stays as it is. -/
def Sparing (get : σ → τ) : Act σ → Prop
  | .ask _ => True
  | .change f => ∀ s, get (f s) = get s

end Act

namespace Program

variable {σ τ α β : Type} {allowed allowed' : Act σ → Prop}

theorem zoom_bind (get : σ → τ) (put : τ → σ → σ) (p : Program τ α) (f : α → Program τ β) :
    (p >>= f).zoom get put = p.zoom get put >>= fun v => (f v).zoom get put := by
  show (p.bind f).zoom get put = (p.zoom get put).bind fun v => (f v).zoom get put
  induction p with
  | done v => rfl
  | ask q next ih => simp only [bind, zoom, ih]
  | look next ih => simp only [bind, zoom, ih]
  | change g next ih => simp only [bind, zoom, ih]
  | wait ready next ih => simp only [bind, zoom, ih]

theorem bind_assoc {γ : Type} (p : Program σ α) (f : α → Program σ β) (g : β → Program σ γ) :
    p >>= f >>= g = p >>= fun v => f v >>= g := by
  show (p.bind f).bind g = p.bind fun v => (f v).bind g
  induction p with
  | done v => rfl
  | ask q next ih => simp only [bind, ih]
  | look next ih => simp only [bind, ih]
  | change g next ih => simp only [bind, ih]
  | wait ready next ih => simp only [bind, ih]

/-- A part of a part is a part. -/
theorem zoom_zoom {ρ : Type} (get : σ → τ) (put : τ → σ → σ) (get' : τ → ρ) (put' : ρ → τ → τ)
    (p : Program ρ α) : (p.zoom get' put').zoom get put =
      p.zoom (fun s => get' (get s)) fun r s => put (put' r (get s)) s := by
  induction p with
  | done v => rfl
  | ask q next ih => simp only [zoom, ih]
  | look next ih => simp only [zoom, ih]
  | change f next ih => simp only [zoom, ih]
  | wait ready next ih => simp only [zoom, ih]

/-- Everything a program does is allowed, and every value it returns is as promised, for all answers and all
    states it may find. -/
def Within (allowed : Act σ → Prop) (promised : α → Prop) : Program σ α → Prop
  | .done v => promised v
  | .ask q next => allowed (.ask q) ∧ ∀ a, (next a).Within allowed promised
  | .look next => ∀ s, (next s).Within allowed promised
  | .change f next => allowed (.change f) ∧ next.Within allowed promised
  | .wait _ next => next.Within allowed promised

/-- A program that publishes nothing. -/
abbrev Quiet (p : Program σ α) : Prop := p.Within Act.Quiet fun _ => True

/-- A program that works on the world alone, and publishes nothing. -/
abbrev Outward (p : Program σ α) : Prop := p.Within Act.Outward fun _ => True

/-- A program that leaves a part of the state alone. -/
abbrev Spares (get : σ → τ) (p : Program σ α) : Prop := p.Within (Act.Sparing get) fun _ => True

theorem Within.mono {promised promised' : α → Prop} {p : Program σ α} (h : p.Within allowed promised)
    (hallowed : ∀ act, allowed act → allowed' act) (himp : ∀ v, promised v → promised' v) :
    p.Within allowed' promised' := by
  induction p with
  | done v => exact himp v h
  | ask q next ih => exact ⟨hallowed _ h.1, fun a => ih a (h.2 a)⟩
  | look next ih => exact fun s => ih s (h s)
  | change f next ih => exact ⟨hallowed _ h.1, ih h.2⟩
  | wait ready next ih => exact ih h

/-- What works on the world alone does so wherever its questions are allowed. -/
theorem Outward.within {p : Program σ α} (h : p.Outward)
    (hallowed : ∀ q : Query, q.PublishesNothing → allowed (.ask q)) : p.Within allowed fun _ => True := by
  refine h.mono ?_ fun _ hv => hv
  intro act hact
  cases act with
  | ask q => exact hallowed q hact
  | change f => exact absurd hact id

theorem Outward.quiet {p : Program σ α} (h : p.Outward) : p.Quiet := h.within fun _ hq => hq

theorem Outward.spares {p : Program σ α} (h : p.Outward) (get : σ → τ) : p.Spares get :=
  h.within fun _ _ => trivial

/-- A sequence is within bounds if its second part is for every value that the first may return. -/
theorem within_bind (promised : β → Prop) (p : Program σ α) (f : α → Program σ β) :
    (p.bind f).Within allowed promised ↔ p.Within allowed fun v => (f v).Within allowed promised := by
  induction p with
  | done v => exact Iff.rfl
  | ask q next ih => exact and_congr_right fun _ => forall_congr' ih
  | look next ih => exact forall_congr' ih
  | change g next ih => exact and_congr_right fun _ => ih
  | wait ready next ih => exact ih

theorem Within.bind {promised : α → Prop} {promised' : β → Prop} {p : Program σ α} {f : α → Program σ β}
    (hp : p.Within allowed promised) (hf : ∀ v, promised v → (f v).Within allowed promised') :
    (p >>= f).Within allowed promised' :=
  (within_bind promised' p f).2 (hp.mono (fun _ hact => hact) hf)

theorem within_pure (v : α) : (pure v : Program σ α).Within allowed fun _ => True := trivial

/-- Every program does something and returns something. -/
theorem within_anything (p : Program σ α) : p.Within (fun _ => True) fun _ => True := by
  induction p with
  | done v => trivial
  | ask q next ih => exact ⟨trivial, ih⟩
  | look next ih => exact ih
  | change f next ih => exact ⟨trivial, ih⟩
  | wait ready next ih => exact ih

/-- Two bounds of a program bound it together. -/
theorem Within.and {promised promised' : α → Prop} {p : Program σ α} (h : p.Within allowed promised)
    (h' : p.Within allowed' promised') :
    p.Within (fun act => allowed act ∧ allowed' act) fun v => promised v ∧ promised' v := by
  induction p with
  | done v => exact ⟨h, h'⟩
  | ask q next ih => exact ⟨⟨h.1, h'.1⟩, fun a => ih a (h.2 a) (h'.2 a)⟩
  | look next ih => exact fun s => ih s (h s) (h' s)
  | change f next ih => exact ⟨⟨h.1, h'.1⟩, ih h.2 h'.2⟩
  | wait ready next ih => exact ih h h'

/-- A program over a part of the state, where what it does to the part is allowed for the whole. -/
theorem within_zoom {get : σ → τ} {put : τ → σ → σ} {part : Act τ → Prop} {promised : α → Prop}
    {p : Program τ α} (h : p.Within part promised) (hask : ∀ q, part (.ask q) → allowed (.ask q))
    (hchange : ∀ f, part (.change f) → allowed (.change fun s => put (f (get s)) s)) :
    (p.zoom get put).Within allowed promised := by
  induction p with
  | done v => exact h
  | ask q next ih => exact ⟨hask q h.1, fun a => ih a (h.2 a)⟩
  | look next ih => exact fun s => ih (get s) (h (get s))
  | change f next ih => exact ⟨hchange f h.1, ih h.2⟩
  | wait ready next ih => exact ih h

end Program

section Parts

variable {σ α : Type} {allowed : Act σ → Prop}

theorem within_ask {q : Query} (h : allowed (.ask q)) :
    (ask q : Program σ q.Answer).Within allowed fun _ => True :=
  ⟨h, fun _ => trivial⟩

theorem within_look (f : σ → α) : (look f : Program σ α).Within allowed fun _ => True :=
  fun _ => trivial

theorem within_change {f : σ → σ} (h : allowed (.change f)) :
    (change f : Program σ Unit).Within allowed fun _ => True :=
  ⟨h, trivial⟩

theorem within_changing {f : σ → α × σ} (h : allowed (.change fun s => (f s).2)) :
    (changing f : Program σ α).Within allowed fun _ => True :=
  fun _ => ⟨h, trivial⟩

variable {get : σ → Deferred α} {put : Deferred α → σ → σ} {build : Program σ α}

theorem within_awaitBuild (h : build.Within allowed fun _ => True)
    (hput : ∀ f : Deferred α → Deferred α, allowed (.change fun s => put (f (get s)) s)) (number : Nat) :
    (awaitBuild get put number build).Within allowed fun _ => True := by
  intro s
  show Program.Within _ _ (takeResult get put number build ((get s).result? number))
  cases (get s).result? number with
  | none => exact h
  | some v => exact (within_change (hput fun d => d.keep number v)).bind fun _ _ => trivial

/-- A value that is built when first asked for does nothing but what its build does, and changes of the value
    itself. -/
theorem within_getOrBuild (h : build.Within allowed fun _ => True)
    (hput : ∀ f : Deferred α → Deferred α, allowed (.change fun s => put (f (get s)) s)) :
    (getOrBuild get put build).Within allowed fun _ => True := by
  refine (within_changing (hput fun d => d.claim.2)).bind fun claim _ => ?_
  cases claim with
  | take v => trivial
  | join n => exact within_awaitBuild h hput n
  | build n =>
      refine h.bind fun v _ => (within_change (hput fun d => d.complete n v)).bind fun _ _ => ?_
      exact within_awaitBuild h hput n

end Parts

end PlaybookServer.Effect

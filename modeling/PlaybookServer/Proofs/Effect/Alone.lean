/-
Module: PlaybookServer.Proofs.Effect.Alone
Purpose: Programs that run while nobody else does. Such a program sees the state as it left it itself, so what is
  said, what it returns and the state it leaves can be promised together. It may wait only for what is so already.
  Run in any world that answers everything it finishes, and the promise is kept. A value that nobody builds is there
  at once or is built by its caller.
Main exports: Program.Completes, Program.Completes.bind, Program.Completes.run, Program.Completes.of_run,
  Program.Completes.within, Program.Converses.completes, Program.Completes.zoom, completes_getOrBuild_of,
  completes_getOrBuild
-/
import PlaybookServer.Effect.Deferred
import PlaybookServer.Proofs.Effect.Conversation

namespace PlaybookServer.Effect

namespace Program

variable {σ τ α β : Type}

/-- Whatever a program is answered, it ends if nobody else runs, and what was said, what it returns and the state it
    leaves are as promised. -/
def Completes : Program σ α → (List Exchange → α → σ → Prop) → σ → Prop
  | .done v, promised, s => promised [] v s
  | .ask q next, promised, s => ∀ a, (next a).Completes (fun said v s' => promised (⟨q, a⟩ :: said) v s') s
  | .look next, promised, s => (next s).Completes promised s
  | .change f next, promised, s => next.Completes promised (f s)
  | .wait ready next, promised, s => ready s = true ∧ next.Completes promised s

theorem Completes.mono {promised promised' : List Exchange → α → σ → Prop} {p : Program σ α} {s : σ}
    (h : p.Completes promised s) (himp : ∀ said v s', promised said v s' → promised' said v s') :
    p.Completes promised' s := by
  induction p generalizing promised promised' s with
  | done v => exact himp [] v s h
  | ask q next ih => exact fun a => ih a (h a) fun said v s' hv => himp _ v s' hv
  | look next ih => exact ih s h himp
  | change f next ih => exact ih h himp
  | wait ready next ih => exact ⟨h.1, ih h.2 himp⟩

/-- A sequence: the second part goes on where the first part left off. -/
theorem completes_bind (promised : List Exchange → β → σ → Prop) (p : Program σ α) (f : α → Program σ β) (s : σ) :
    (p.bind f).Completes promised s ↔
      p.Completes (fun said v s' => (f v).Completes (fun said' u s'' => promised (said ++ said') u s'') s') s := by
  induction p generalizing promised s with
  | done v => exact Iff.rfl
  | ask q next ih => exact forall_congr' fun a => ih a _ s
  | look next ih => exact ih s _ s
  | change g next ih => exact ih _ (g s)
  | wait ready next ih => exact and_congr_right fun _ => ih _ s

theorem Completes.bind {between : List Exchange → α → σ → Prop} {promised : List Exchange → β → σ → Prop}
    {p : Program σ α} {f : α → Program σ β} {s : σ} (hp : p.Completes between s)
    (hf : ∀ said v s', between said v s' →
      (f v).Completes (fun said' u s'' => promised (said ++ said') u s'') s') :
    (p >>= f).Completes promised s :=
  (completes_bind promised p f s).2 (hp.mono hf)

/-- What ends in every state without changing it does so alone. -/
theorem Converses.completes {promised : List Exchange → α → Prop} {p : Program σ α} (h : p.Converses promised)
    (s : σ) : p.Completes (fun said v s' => promised said v ∧ s' = s) s := by
  induction p generalizing promised with
  | done v => exact ⟨h, rfl⟩
  | ask q next ih => exact fun a => ih a (h a)
  | look next ih => exact ih s (h s)
  | change f next ih => exact absurd h id
  | wait ready next ih => exact absurd h id

/-- In a world that answers everything a program that completes alone finishes. -/
theorem Completes.run {ω : Type} {promised : List Exchange → α → σ → Prop} {p : Program σ α} {s : σ}
    (h : p.Completes promised s) (answer : (q : Query) → ω → q.Answer × ω) (w : ω) (before : List Exchange) :
    ∃ v s' w' said, p.run (recording answer) s (w, before) = .finished v s' (w', before ++ said) ∧
      promised said v s' := by
  induction p generalizing promised s w before with
  | done v => exact ⟨v, s, w, [], by rw [List.append_nil]; rfl, h⟩
  | ask q next ih =>
      obtain ⟨v, s', w', said, hrun, hsaid⟩ :=
        ih (answer q w).1 (h (answer q w).1) (answer q w).2 (before ++ [⟨q, (answer q w).1⟩])
      refine ⟨v, s', w', ⟨q, (answer q w).1⟩ :: said, ?_, hsaid⟩
      rw [List.append_assoc] at hrun
      exact hrun
  | look next ih => exact ih s h w before
  | change f next ih => exact ih h w before
  | wait ready next ih =>
      obtain ⟨v, s', w', said, hrun, hsaid⟩ := ih h.2 w before
      refine ⟨v, s', w', said, ?_, hsaid⟩
      rw [Program.run, if_pos h.1]
      exact hrun

/-- The promise of a program that completes is kept by every run of it. -/
theorem Completes.of_run {ω : Type} {promised : List Exchange → α → σ → Prop} {p : Program σ α} {s s' : σ}
    (h : p.Completes promised s) {answer : (q : Query) → ω → q.Answer × ω} {w w' : ω} {v : α} {said : List Exchange}
    (hrun : p.run (recording answer) s (w, []) = .finished v s' (w', said)) : promised said v s' := by
  obtain ⟨v', s'', w'', said', hrun', hpromised⟩ := h.run answer w []
  rw [hrun', List.nil_append] at hrun
  cases hrun
  exact hpromised

/-- What a program is allowed to do bounds what it does alone. -/
theorem Completes.within {allowed : Act σ → Prop} {returned : α → Prop} {promised : List Exchange → α → σ → Prop}
    {p : Program σ α} {s : σ} (h : p.Completes promised s) (hp : p.Within allowed returned) :
    p.Completes (fun said v s' => promised said v s' ∧ ∀ x ∈ said, allowed (.ask x.question)) s := by
  induction p generalizing promised s with
  | done v => exact ⟨h, List.forall_mem_nil _⟩
  | ask q next ih =>
      intro a
      apply (ih a (h a) (hp.2 a)).mono
      rintro said v s' ⟨hpromised, hsaid⟩
      exact ⟨hpromised, List.forall_mem_cons.2 ⟨hp.1, hsaid⟩⟩
  | look next ih => exact ih s h (hp s)
  | change f next ih => exact ih h hp.2
  | wait ready next ih => exact ⟨h.1, ih h.2 hp⟩

/-- A part of the state that can be put and got back, the rest staying as it is. -/
structure PartOf (get : σ → τ) (put : τ → σ → σ) (s : σ) : Prop where
  get_put : ∀ t, get (put t s) = t
  put_put : ∀ t t', put t' (put t s) = put t' s
  put_get : put (get s) s = s

/-- A program over a part of the state leaves the rest as it is. -/
theorem Completes.zoom {get : σ → τ} {put : τ → σ → σ} {promised : List Exchange → α → τ → Prop}
    {p : Program τ α} {s : σ} (hpart : PartOf get put s) (h : p.Completes promised (get s)) :
    (p.zoom get put).Completes (fun said v s' => ∃ t, s' = put t s ∧ promised said v t) s := by
  suffices hput : ∀ t, p.Completes promised t →
      (p.zoom get put).Completes (fun said v s' => ∃ t, s' = put t s ∧ promised said v t) (put t s) by
    have hself := hput (get s) h
    rwa [hpart.put_get] at hself
  clear h
  intro t h
  induction p generalizing promised t with
  | done v => exact ⟨t, rfl, h⟩
  | ask q next ih => exact fun a => ih a t (h a)
  | look next ih =>
      show ((next (get (put t s))).zoom get put).Completes _ _
      rw [hpart.get_put]
      exact ih t t h
  | change f next ih =>
      show (next.zoom get put).Completes _ (put (f (get (put t s))) (put t s))
      rw [hpart.get_put, hpart.put_put]
      exact ih (f t) h
  | wait ready next ih =>
      refine ⟨?_, ih t h.2⟩
      show ready (get (put t s)) = true
      rw [hpart.get_put]
      exact h.1

end Program

section Parts

variable {σ α : Type}

theorem completes_look (f : σ → α) (s : σ) :
    (look f).Completes (fun said v s' => said = [] ∧ v = f s ∧ s' = s) s :=
  ⟨rfl, rfl, rfl⟩

theorem completes_change (f : σ → σ) (s : σ) :
    (change f).Completes (fun said _ s' => said = [] ∧ s' = f s) s :=
  ⟨rfl, rfl⟩

theorem completes_changing (f : σ → α × σ) (s : σ) :
    (changing f).Completes (fun said v s' => said = [] ∧ v = (f s).1 ∧ s' = (f s).2) s :=
  ⟨rfl, rfl, rfl⟩

/-- Who built a value keeps it and takes it. -/
theorem completes_awaitBuild {get : σ → Deferred α} {put : Deferred α → σ → σ} {build : Program σ α} {s : σ}
    {d : Deferred α} {number : Nat} {v : α} (hpart : Program.PartOf get put s) (hphase : d.phase = .building number) :
    (awaitBuild get put number build).Completes (fun said u s' => said = [] ∧ u = v ∧
      s' = put { d.complete number v with phase := .ready v } s) (put (d.complete number v) s) := by
  have hget : get (put (d.complete number v) s) = d.complete number v := hpart.get_put _
  have hresult : (d.complete number v).result? number = some v := by
    simp [Deferred.result?, Deferred.complete]
  have hkeep : (d.complete number v).keep number v = { d.complete number v with phase := .ready v } := by
    simp [Deferred.keep, Deferred.complete, hphase]
  have hready : ((get (put (d.complete number v) s)).result? number).isSome = true := by
    rw [hget, hresult, Option.isSome_some]
  refine ⟨hready, ?_⟩
  show Program.Completes (takeResult get put number build ((get (put (d.complete number v) s)).result? number)) _ _
  rw [hget, hresult]
  refine (completes_change _ _).bind ?_
  rintro said u s' ⟨rfl, rfl⟩
  exact ⟨rfl, rfl, by rw [hget, hkeep, hpart.put_put]⟩

/-- A value that nobody builds is there, or its caller builds it and keeps it. The build may change other parts of the
    state; what is promised holds whatever stands in the place of the value. -/
theorem completes_getOrBuild_of {get : σ → Deferred α} {put : Deferred α → σ → σ} {build : Program σ α} {s : σ}
    {promised : List Exchange → α → σ → Prop} (hpart : ∀ s, Program.PartOf get put s)
    (hidle : (get s).isBuilding = false) (htake : ∀ v, (get s).value? = some v → promised [] v s)
    (hbuild : (get s).value? = none → ∀ d, build.Completes
      (fun said v s' => get s' = d ∧ ∀ d', promised said v (put d' s')) (put d s)) :
    (getOrBuild get put build).Completes (fun said v s' =>
      promised said v s' ∧ (get s').isBuilding = false ∧ (get s').value? = some v) s := by
  have hbuilds (hnone : (get s).value? = none) (hclaim : (get s).claim = (.build ((get s).builds + 1),
      { get s with phase := .building ((get s).builds + 1), builds := (get s).builds + 1 })) :
      (getOrBuild get put build).Completes (fun said v s' =>
        promised said v s' ∧ (get s').isBuilding = false ∧ (get s').value? = some v) s := by
    refine (completes_changing _ s).bind ?_
    rintro said claim s' ⟨rfl, rfl, rfl⟩
    rw [hclaim]
    refine (hbuild hnone _).bind ?_
    rintro said v s' ⟨hget, hpromised⟩
    refine (completes_change _ _).bind ?_
    rintro said' _ s'' ⟨rfl, rfl⟩
    rw [hget]
    refine (completes_awaitBuild (hpart s') rfl).mono ?_
    rintro said' u s'' ⟨rfl, rfl, rfl⟩
    rw [(hpart s').get_put]
    refine ⟨?_, rfl, rfl⟩
    simpa using hpromised _
  cases hphase : (get s).phase with
  | unbuilt =>
      exact hbuilds (by simp only [Deferred.value?, hphase]) (by simp only [Deferred.claim, hphase])
  | invalidated =>
      exact hbuilds (by simp only [Deferred.value?, hphase]) (by simp only [Deferred.claim, hphase])
  | building number => simp [Deferred.isBuilding, hphase] at hidle
  | ready v =>
      have hclaim : (get s).claim = (.take v, get s) := by simp only [Deferred.claim, hphase]
      have hvalue : (get s).value? = some v := by simp only [Deferred.value?, hphase]
      refine (completes_changing _ s).bind ?_
      rintro said claim s' ⟨rfl, rfl, rfl⟩
      rw [hclaim, (hpart s).put_get]
      exact ⟨htake v hvalue, hidle, hvalue⟩

/-- A value that nobody builds is had: it is there, or it is built and kept. -/
theorem completes_getOrBuild {get : σ → Deferred α} {put : Deferred α → σ → σ} {build : Program σ α} {s : σ}
    {promised : List Exchange → α → Prop} (hpart : ∀ s, Program.PartOf get put s)
    (hidle : (get s).isBuilding = false) (hbuild : build.Converses promised) :
    (getOrBuild get put build).Completes (fun said v s' => ∃ d, s' = put d s ∧ d.isBuilding = false ∧
      d.value? = some v ∧ ((get s).value? = some v ∧ said = [] ∨ promised said v)) s := by
  have hhad : (getOrBuild get put build).Completes (fun said v s' =>
      (∃ d, s' = put d s ∧ ((get s).value? = some v ∧ said = [] ∨ promised said v)) ∧
        (get s').isBuilding = false ∧ (get s').value? = some v) s := by
    apply completes_getOrBuild_of hpart hidle
    · intro v hvalue
      exact ⟨get s, (hpart s).put_get.symm, .inl ⟨hvalue, rfl⟩⟩
    · intro _ d
      refine (hbuild.completes _).mono ?_
      rintro said v s' ⟨hsaid, rfl⟩
      exact ⟨(hpart s).get_put d, fun d' => ⟨d', (hpart s).put_put d d', .inr hsaid⟩⟩
  refine hhad.mono ?_
  rintro said v s' ⟨⟨d, rfl, hsaid⟩, hd, hv⟩
  rw [(hpart s).get_put] at hd hv
  exact ⟨d, rfl, hd, hv, hsaid⟩

end Parts

end PlaybookServer.Effect

/-
Module: PlaybookServer.Proofs.Effect.Deferred
Purpose: Callers of a value that is built when first asked for. An epoch is the time between two invalidations.
  However callers, builds and invalidations are interleaved, an epoch has at most one build, every caller of the
  epoch gets the value of that build, also after later invalidations, and what is kept is never older than the
  last invalidation.
Main exports: Started, Caller, Session, Session.Step, Session.Reachable, Started.Running,
  epoch_shares_one_build
-/
import Mathlib.Data.List.Nodup
import PlaybookServer.Proofs.Effect.Interleaving

namespace PlaybookServer.Effect

variable {σ α : Type}

/-! ### One deferred value -/

namespace Deferred

variable (d : Deferred α)

theorem result?_complete (n m : Nat) (v : α) :
    (d.complete n v).result? m = if m = n then some v else d.result? m := by
  simp only [complete, result?, List.lookup_cons]
  by_cases h : m = n
  · simp [h]
  · simp [h, beq_false_of_ne h]

@[simp] theorem result?_keep (n m : Nat) (v : α) : (d.keep n v).result? m = d.result? m := by
  unfold keep
  split
  next => split <;> rfl
  next => rfl

end Deferred

/-! ### Sessions -/

/-- A build that was started: the epoch it was started in, its number and its program. -/
structure Started (σ α : Type) where
  epoch : Nat
  number : Nat
  build : Program σ α

/-- A caller: the epoch in which it asked, and what is left of its program. -/
structure Caller (σ α : Type) where
  epoch : Nat
  rest : Program σ α

/-- A state with a deferred value in it, the number of invalidations so far, the builds that were started, the
    last one first, and the callers in the order in which they asked. -/
structure Session (σ α : Type) where
  state : σ
  epoch : Nat
  starts : List (Started σ α)
  callers : List (Caller σ α)

/-- The build that a caller starts by asking, if it has to. -/
def Deferred.starts (d : Deferred α) (epoch : Nat) (build : Program σ α) : List (Started σ α) :=
  match d.claim.1 with
  | .build n => [⟨epoch, n, build⟩]
  | _ => []

namespace Session

/-- Somebody asks, a caller goes on, the value is given up, or something else in the state changes. What is left
    of a caller may be its build: to go on is to come nearer to its end, to end it, or to take its value. -/
inductive Step (get : σ → Deferred α) (put : Deferred α → σ → σ) (sch : Schedule Unit) :
    Session σ α → Session σ α → Prop where
  | ask {s s' : σ} {p : Program σ α} (epoch : Nat) (starts : List (Started σ α)) (callers : List (Caller σ α))
      (build : Program σ α) (hbuild : build.Spares get)
      (run : Advances sch (getOrBuild get put build) s () p s' ()) :
      Step get put sch ⟨s, epoch, starts, callers⟩
        ⟨s', epoch, (get s).starts epoch build ++ starts, callers ++ [⟨epoch, p⟩]⟩
  | goOn {s s' : σ} {p p' : Program σ α} (epoch asked : Nat) (starts : List (Started σ α))
      (before after : List (Caller σ α)) (run : Resumes sch p s () p' s' ()) :
      Step get put sch ⟨s, epoch, starts, before ++ ⟨asked, p⟩ :: after⟩
        ⟨s', epoch, starts, before ++ ⟨asked, p'⟩ :: after⟩
  | invalidate {s s' : σ} (epoch : Nat) (starts : List (Started σ α)) (callers : List (Caller σ α))
      (h : get s' = (get s).invalidate) :
      Step get put sch ⟨s, epoch, starts, callers⟩ ⟨s', epoch + 1, starts, callers⟩
  | other {s s' : σ} (epoch : Nat) (starts : List (Started σ α)) (callers : List (Caller σ α))
      (h : get s' = get s) : Step get put sch ⟨s, epoch, starts, callers⟩ ⟨s', epoch, starts, callers⟩

/-- What can be reached from a state in which nobody has asked. -/
inductive Reachable (get : σ → Deferred α) (put : Deferred α → σ → σ) (sch : Schedule Unit) (s : σ) :
    Session σ α → Prop where
  | initial : Reachable get put sch s ⟨s, 0, [], []⟩
  | step {session session' : Session σ α} (reached : Reachable get put sch s session)
      (move : Step get put sch session session') : Reachable get put sch s session'

end Session

/-! ### Callers while they run -/

section Callers

variable {get : σ → Deferred α} {put : Deferred α → σ → σ} {sch : Schedule Unit}

/-- What a caller does with the value of the build it started. -/
def Started.finish (get : σ → Deferred α) (put : Deferred α → σ → σ) (b : Started σ α) (v : α) :
    Program σ α := do
  change fun s => put ((get s).complete b.number v) s
  awaitBuild get put b.number b.build

/-- A caller is running a build. -/
def Started.Running (get : σ → Deferred α) (put : Deferred α → σ → σ) (b : Started σ α) (p : Program σ α) :
    Prop :=
  ∃ r, b.build.Leaves r ∧ r.Suspended ∧ p = r.bind (b.finish get put)

/-- A caller that waits for a build stays where it is. -/
theorem advances_awaitBuild {n : Nat} {own p : Program σ α} {s s' : σ}
    (run : Advances sch (awaitBuild get put n own) s () p s' ()) :
    p = awaitBuild get put n own ∧ s' = s := by
  cases run with
  | waits => exact ⟨rfl, rfl⟩

/-- A build that ends leaves its value there, and the one who ran it waits like the others. -/
theorem advances_finish (hput : ∀ d s, get (put d s) = d) {b : Started σ α} {v : α} {p : Program σ α}
    {s s' : σ} (run : Advances sch (b.finish get put v) s () p s' ()) :
    p = awaitBuild get put b.number b.build ∧ get s' = (get s).complete b.number v := by
  cases run with
  | change run =>
      obtain ⟨hp, rfl⟩ := advances_awaitBuild run
      exact ⟨hp, hput _ _⟩

/-- How a build goes on: it is still running, or it ends and its value is there. -/
theorem advances_build (hput : ∀ d s, get (put d s) = d) {b : Started σ α} {p : Program σ α} {s s' : σ}
    (h : (∃ r', b.build.Leaves r' ∧ r'.Suspended ∧ p = r'.bind (b.finish get put) ∧ get s' = get s) ∨
      ∃ v t u, b.build.Leaves (.done v) ∧ get t = get s ∧ Advances sch (b.finish get put v) t u p s' ()) :
    (b.Running get put p ∧ get s' = get s) ∨
    ∃ v, b.build.Leaves (.done v) ∧ p = awaitBuild get put b.number b.build ∧
      get s' = (get s).complete b.number v := by
  rcases h with ⟨r', hleaves, hsuspended, hp, hs⟩ | ⟨v, t, u, hleaves, ht, run⟩
  · exact .inl ⟨⟨r', hleaves, hsuspended, hp⟩, hs⟩
  · obtain ⟨hp, hs⟩ := advances_finish hput run
    exact .inr ⟨v, hleaves, hp, hs.trans (congrArg (Deferred.complete · b.number v) ht)⟩

/-- A caller that waits takes the value once it is there. -/
theorem resumes_awaitBuild (hput : ∀ d s, get (put d s) = d) {n : Nat} {own p : Program σ α} {s s' : σ}
    (run : Resumes sch (awaitBuild get put n own) s () p s' ()) :
    ∃ v, (get s).result? n = some v ∧ p = .done v ∧ get s' = (get s).keep n v := by
  cases run with
  | ready hready run =>
      obtain ⟨v, hv⟩ := Option.isSome_iff_exists.1 hready
      cases run with
      | look run =>
          replace run : Advances sch (takeResult get put n own ((get s).result? n)) s () p s' () := run
          rw [hv] at run
          cases run with
          | change run =>
              cases run with
              | done => exact ⟨v, hv, rfl, hput _ _⟩

/-- A caller has returned a value, or can return it at once and do nothing else. -/
def Caller.Returns (sch : Schedule Unit) (s : σ) (c : Caller σ α) (v : α) : Prop :=
  c.rest = .done v ∨
    (∃ s', Resumes sch c.rest s () (.done v) s' ()) ∧ ∀ p s', Resumes sch c.rest s () p s' () → p = .done v

/-- A caller has not returned and cannot go on. -/
def Caller.Waits (sch : Schedule Unit) (s : σ) (c : Caller σ α) : Prop :=
  (∀ v, c.rest ≠ .done v) ∧ ∀ p s', ¬ Resumes sch c.rest s () p s' ()

/-- A caller that waits can take the value as soon as it is there. -/
theorem awaitBuild_resumes {n : Nat} {v : α} {s : σ} (hv : (get s).result? n = some v) (own : Program σ α) :
    ∃ s', Resumes sch (awaitBuild get put n own) s () (.done v) s' () := by
  refine ⟨put ((get s).keep n v) s, .ready (by rw [hv]; rfl) (.look ?_)⟩
  show Advances sch (takeResult get put n own ((get s).result? n)) s () _ _ ()
  rw [hv]
  exact .change (.done _ _ _)

end Callers

/-! ### The record of builds -/

/-- The builds that were started are one an epoch, in order, and the deferred value is where they left it. -/
structure Recorded (get : σ → Deferred α) (d : Deferred α) (epoch : Nat) (starts : List (Started σ α)) :
    Prop where
  epochs : starts.Pairwise fun b b' => b'.epoch < b.epoch
  numbers : starts.Pairwise fun b b' => b'.number < b.number
  bounded : ∀ b ∈ starts, b.epoch ≤ epoch ∧ b.number ≤ d.builds
  spares : ∀ b ∈ starts, b.build.Spares get
  finished : ∀ n v, d.result? n = some v → ∃ b ∈ starts, b.number = n ∧ b.build.Leaves (.done v)
  given_up : d.phase = .unbuilt ∨ d.phase = .invalidated → ∀ b ∈ starts, b.epoch < epoch
  building : ∀ n, d.phase = .building n → ∃ b ∈ starts, b.epoch = epoch ∧ b.number = n
  ready : ∀ v, d.phase = .ready v → ∃ b ∈ starts, b.epoch = epoch ∧ d.result? b.number = some v

namespace Recorded

variable {get : σ → Deferred α} {d : Deferred α} {epoch : Nat} {starts : List (Started σ α)}
  {b b' : Started σ α} {v : α}

/-- A build is known by its number. -/
theorem eq_of_number (h : Recorded get d epoch starts) (hb : b ∈ starts) (hb' : b' ∈ starts)
    (hnumber : b.number = b'.number) : b = b' := by
  have hnodup : (starts.map Started.number).Nodup :=
    List.pairwise_map.2 (h.numbers.imp fun hlt => Nat.ne_of_gt hlt)
  exact List.inj_on_of_nodup_map hnodup hb hb' hnumber

/-- The value of a build that ended is one that its program can return. -/
theorem leaves (h : Recorded get d epoch starts) (hb : b ∈ starts) (hv : d.result? b.number = some v) :
    b.build.Leaves (.done v) := by
  obtain ⟨b', hb', hnumber, hleaves⟩ := h.finished _ v hv
  rwa [h.eq_of_number hb hb' hnumber.symm]

theorem initial : Recorded get ({} : Deferred α) 0 [] where
  epochs := .nil
  numbers := .nil
  bounded := nofun
  spares := nofun
  finished := nofun
  given_up := fun _ => nofun
  building := nofun
  ready := nofun

/-- The first caller of an epoch starts a build. -/
theorem build (h : Recorded get d epoch starts) (hphase : d.phase = .unbuilt ∨ d.phase = .invalidated)
    {p : Program σ α} (hp : p.Spares get) :
    Recorded get { d with phase := .building (d.builds + 1), builds := d.builds + 1 } epoch
      (⟨epoch, d.builds + 1, p⟩ :: starts) where
  epochs := List.pairwise_cons.2 ⟨h.given_up hphase, h.epochs⟩
  numbers := List.pairwise_cons.2 ⟨fun b hb => Nat.lt_succ_of_le (h.bounded b hb).2, h.numbers⟩
  bounded b hb := by
    rcases List.mem_cons.1 hb with rfl | hb
    · exact ⟨Nat.le_refl _, Nat.le_refl _⟩
    · exact ⟨(h.bounded b hb).1, Nat.le_succ_of_le (h.bounded b hb).2⟩
  spares b hb := by
    rcases List.mem_cons.1 hb with rfl | hb
    · exact hp
    · exact h.spares b hb
  finished n v hv := by
    obtain ⟨b, hb, hfound⟩ := h.finished n v hv
    exact ⟨b, List.mem_cons_of_mem _ hb, hfound⟩
  given_up := nofun
  building n hn := by
    cases hn
    exact ⟨_, List.mem_cons_self, rfl, rfl⟩
  ready := nofun

/-- A build that ends has had no value before. -/
theorem complete (h : Recorded get d epoch starts) (hb : b ∈ starts) (hleaves : b.build.Leaves (.done v))
    (hnone : d.result? b.number = none) : Recorded get (d.complete b.number v) epoch starts where
  epochs := h.epochs
  numbers := h.numbers
  bounded := h.bounded
  spares := h.spares
  finished n v' hv' := by
    rw [Deferred.result?_complete] at hv'
    split at hv'
    next hn =>
        cases hv'
        exact ⟨b, hb, hn.symm, hleaves⟩
    next => exact h.finished n v' hv'
  given_up := h.given_up
  building := h.building
  ready v' hv' := by
    obtain ⟨b', hb', hepoch, hresult⟩ := h.ready v' hv'
    refine ⟨b', hb', hepoch, ?_⟩
    rw [Deferred.result?_complete, if_neg]
    · exact hresult
    · intro hnumber
      rw [hnumber, hnone] at hresult
      exact nomatch hresult

/-- A value is kept only for the build that is under way, which is the one of the epoch. -/
theorem keep (h : Recorded get d epoch starts) {n : Nat} (hv : d.result? n = some v) :
    Recorded get (d.keep n v) epoch starts := by
  unfold Deferred.keep
  split
  next m hphase =>
      split
      next hm =>
          subst hm
          refine { h with given_up := nofun, building := nofun, ready := ?_ }
          intro v' hv'
          cases hv'
          obtain ⟨b, hb, hepoch, hnumber⟩ := h.building m hphase
          exact ⟨b, hb, hepoch, hnumber ▸ hv⟩
      next => exact h
  next => exact h

theorem invalidate (h : Recorded get d epoch starts) : Recorded get d.invalidate (epoch + 1) starts where
  epochs := h.epochs
  numbers := h.numbers
  bounded b hb := ⟨Nat.le_succ_of_le (h.bounded b hb).1, (h.bounded b hb).2⟩
  spares := h.spares
  finished := h.finished
  given_up := fun _ b hb => Nat.lt_succ_of_le (h.bounded b hb).1
  building := nofun
  ready := nofun

end Recorded

/-! ### The roll of callers -/

/-- How far a caller has come. -/
inductive Stage (α : Type) where
  | running
  | waiting
  | returned (v : α)

/-- A caller, the build that serves it and how far it has come. -/
structure Entry (σ α : Type) where
  caller : Caller σ α
  build : Started σ α
  stage : Stage α

/-- What is left of a caller agrees with how far it has come. -/
def Entry.Stands (get : σ → Deferred α) (put : Deferred α → σ → σ) (d : Deferred α) (e : Entry σ α) : Prop :=
  match e.stage with
  | .running => e.build.Running get put e.caller.rest ∧ d.result? e.build.number = none
  | .waiting => ∃ own, e.caller.rest = awaitBuild get put e.build.number own
  | .returned v => e.caller.rest = .done v ∧ d.result? e.build.number = some v

/-- Every caller is served by the build of its epoch, and every build that has no value yet is run by exactly
    one caller. -/
structure Manned (get : σ → Deferred α) (put : Deferred α → σ → σ) (d : Deferred α)
    (starts : List (Started σ α)) (roll : List (Entry σ α)) : Prop where
  known : ∀ e ∈ roll, e.build ∈ starts
  epoch : ∀ e ∈ roll, e.build.epoch = e.caller.epoch
  stands : ∀ e ∈ roll, e.Stands get put d
  run : ∀ b ∈ starts, d.result? b.number = none → ∃ e ∈ roll, e.build = b ∧ e.stage = .running
  alone : roll.Pairwise fun e e' => e.stage = .running → e'.stage = .running → e.build ≠ e'.build

namespace Entry

variable {get : σ → Deferred α} {put : Deferred α → σ → σ} {d d' : Deferred α} {e : Entry σ α}

theorem Stands.running (h : e.Stands get put d) (hrunning : e.stage = .running) :
    e.build.Running get put e.caller.rest ∧ d.result? e.build.number = none := by
  simpa only [Stands, hrunning] using h

/-- Once the build has ended, its callers return the value. -/
theorem Stands.returns (hput : ∀ d s, get (put d s) = d) {sch : Schedule Unit} {s : σ}
    (h : e.Stands get put (get s)) {v : α} (hv : (get s).result? e.build.number = some v) :
    e.caller.Returns sch s v := by
  unfold Stands at h
  split at h
  next =>
      rw [hv] at h
      exact nomatch h.2
  next =>
      obtain ⟨own, hrest⟩ := h
      unfold Caller.Returns
      rw [hrest]
      refine .inr ⟨awaitBuild_resumes hv own, ?_⟩
      intro p s' run
      obtain ⟨v', hv', rfl, -⟩ := resumes_awaitBuild hput run
      rw [hv] at hv'
      exact congrArg Program.done (Option.some.inj hv'.symm)
  next =>
      rw [hv] at h
      cases h.2
      exact .inl h.1

/-- Before the build has ended, its callers run it or wait. -/
theorem Stands.waits (hput : ∀ d s, get (put d s) = d) {sch : Schedule Unit} {s : σ}
    (h : e.Stands get put (get s)) (hnone : (get s).result? e.build.number = none) :
    e.build.Running get put e.caller.rest ∨ e.caller.Waits sch s := by
  unfold Stands at h
  split at h
  next => exact .inl h.1
  next =>
      obtain ⟨own, hrest⟩ := h
      unfold Caller.Waits
      rw [hrest]
      refine .inr ⟨nofun, ?_⟩
      intro p s' run
      obtain ⟨v, hv, -, -⟩ := resumes_awaitBuild hput run
      rw [hnone] at hv
      exact nomatch hv
  next =>
      rw [hnone] at h
      exact nomatch h.2

/-- Only what became of its own build concerns a caller. -/
theorem Stands.congr (h : e.Stands get put d)
    (hresult : d'.result? e.build.number = d.result? e.build.number) : e.Stands get put d' := by
  unfold Stands at h ⊢
  split at h
  next => exact ⟨h.1, hresult.trans h.2⟩
  next => exact h
  next => exact ⟨h.1, hresult.trans h.2⟩

end Entry

namespace Manned

variable {get : σ → Deferred α} {put : Deferred α → σ → σ} {d d' : Deferred α}
  {starts starts' : List (Started σ α)} {roll roll' : List (Entry σ α)} {e e' : Entry σ α}

theorem initial : Manned get put ({} : Deferred α) [] [] where
  known := nofun
  epoch := nofun
  stands := nofun
  run := nofun
  alone := .nil

/-- The order of the callers does not matter. -/
theorem perm (h : Manned get put d starts roll) (hperm : roll.Perm roll') :
    Manned get put d starts roll' where
  known e he := h.known e (hperm.mem_iff.2 he)
  epoch e he := h.epoch e (hperm.mem_iff.2 he)
  stands e he := h.stands e (hperm.mem_iff.2 he)
  run b hb hnone := by
    obtain ⟨e, he, hfound⟩ := h.run b hb hnone
    exact ⟨e, hperm.mem_iff.1 he, hfound⟩
  alone := by
    refine (hperm.pairwise_iff ?_).1 h.alone
    exact fun halone he he' => (halone he' he).symm

theorem frame (h : Manned get put d starts roll) (hresult : ∀ n, d'.result? n = d.result? n) :
    Manned get put d' starts roll where
  known := h.known
  epoch := h.epoch
  stands e he := (h.stands e he).congr (hresult _)
  run b hb hnone := h.run b hb (hresult _ ▸ hnone)
  alone := h.alone

/-- A caller comes, perhaps with a build of its own. -/
theorem enter (h : Manned get put d starts roll)
    (hresult : ∀ b ∈ starts, d'.result? b.number = d.result? b.number)
    (hstarts : ∀ b, b ∈ starts' ↔ b ∈ starts ∨ b = e.build)
    (hepoch : e.build.epoch = e.caller.epoch) (hstands : e.Stands get put d')
    (hnew : e.build ∉ starts → d'.result? e.build.number = none → e.stage = .running)
    (hrunning : e.stage = .running → e.build ∉ starts) : Manned get put d' starts' (e :: roll) where
  known := by
    intro x hx
    rcases List.mem_cons.1 hx with rfl | hx
    · exact (hstarts _).2 (.inr rfl)
    · exact (hstarts _).2 (.inl (h.known x hx))
  epoch := by
    intro x hx
    rcases List.mem_cons.1 hx with rfl | hx
    · exact hepoch
    · exact h.epoch x hx
  stands := by
    intro x hx
    rcases List.mem_cons.1 hx with rfl | hx
    · exact hstands
    · exact (h.stands x hx).congr (hresult _ (h.known x hx))
  run b hb hnone := by
    by_cases hold : b ∈ starts
    · obtain ⟨x, hx, hfound⟩ := h.run b hold (hresult b hold ▸ hnone)
      exact ⟨x, List.mem_cons_of_mem _ hx, hfound⟩
    · obtain rfl := ((hstarts b).1 hb).resolve_left hold
      exact ⟨e, List.mem_cons_self, rfl, hnew hold hnone⟩
  alone := by
    refine List.pairwise_cons.2 ⟨?_, h.alone⟩
    intro x hx he _ heq
    exact hrunning he (heq ▸ h.known x hx)

/-- A caller goes on with the build that serves it. Only the one who runs a build can change what became of
    it, and nobody has relied on that yet. -/
theorem goOn (h : Manned get put d starts (e :: roll)) (hbuild : e'.build = e.build)
    (hepoch : e'.caller.epoch = e.caller.epoch)
    (hresult : ∀ b ∈ starts, d'.result? b.number = d.result? b.number ∨ b = e.build ∧ e.stage = .running)
    (hstands : e'.Stands get put d') (hrunning : e'.stage = .running → e.stage = .running)
    (hpending : d'.result? e.build.number = none → e'.stage = .running ∨ e.stage ≠ .running) :
    Manned get put d' starts (e' :: roll) := by
  obtain ⟨halone, hrest⟩ := List.pairwise_cons.1 h.alone
  have hstand : e.Stands get put d := h.stands e List.mem_cons_self
  constructor
  case known =>
      intro x hx
      rcases List.mem_cons.1 hx with rfl | hx
      · exact hbuild ▸ h.known e List.mem_cons_self
      · exact h.known x (List.mem_cons_of_mem _ hx)
  case epoch =>
      intro x hx
      rcases List.mem_cons.1 hx with rfl | hx
      · rw [hbuild, hepoch]
        exact h.epoch e List.mem_cons_self
      · exact h.epoch x (List.mem_cons_of_mem _ hx)
  case stands =>
      intro x hx
      rcases List.mem_cons.1 hx with rfl | hx
      · exact hstands
      · have hstandsx : x.Stands get put d := h.stands x (List.mem_cons_of_mem _ hx)
        rcases hresult x.build (h.known x (List.mem_cons_of_mem _ hx)) with hsame | ⟨hsame, hrun⟩
        · exact hstandsx.congr hsame
        · cases hstage : x.stage with
          | running => exact absurd hsame.symm (halone x hx hrun hstage)
          | waiting => simpa only [Entry.Stands, hstage] using hstandsx
          | returned v =>
              simp only [Entry.Stands, hstage, hsame, (hstand.running hrun).2] at hstandsx
              exact nomatch hstandsx.2
  case run =>
      intro b hb hnone
      by_cases hown : b = e.build ∧ e'.stage = .running
      · exact ⟨e', List.mem_cons_self, hbuild.trans hown.1.symm, hown.2⟩
      · have hother : ¬(b = e.build ∧ e.stage = .running) := by
          rintro ⟨rfl, hrun⟩
          rcases hpending hnone with hrun' | hrun'
          · exact hown ⟨rfl, hrun'⟩
          · exact hrun' hrun
        have hsame := (hresult b hb).resolve_right hother
        obtain ⟨x, hx, hxb, hxrun⟩ := h.run b hb (hsame ▸ hnone)
        rcases List.mem_cons.1 hx with rfl | hx
        · exact absurd ⟨hxb.symm, hxrun⟩ hother
        · exact ⟨x, List.mem_cons_of_mem _ hx, hxb, hxrun⟩
  case alone =>
      refine List.pairwise_cons.2 ⟨?_, hrest⟩
      intro x hx he hx'
      exact hbuild ▸ halone x hx (hrunning he) hx'

end Manned

/-! ### Every session -/

section Sessions

variable {get : σ → Deferred α} {put : Deferred α → σ → σ} {sch : Schedule Unit}

namespace Deferred

theorem claim_ready {d : Deferred α} {v : α} (h : d.phase = .ready v) : d.claim = (.take v, d) := by
  simp only [claim, h]

theorem claim_building {d : Deferred α} {n : Nat} (h : d.phase = .building n) : d.claim = (.join n, d) := by
  simp only [claim, h]

theorem claim_unbuilt {d : Deferred α} (h : d.phase = .unbuilt ∨ d.phase = .invalidated) :
    d.claim = (.build (d.builds + 1),
      { d with phase := .building (d.builds + 1), builds := d.builds + 1 }) := by
  rcases h with h | h <;> simp only [claim, h]

end Deferred

/-- How a caller starts depends on what it has to do. -/
theorem advances_getOrBuild (epoch : Nat) {build p : Program σ α} {s s' : σ}
    (run : Advances sch (getOrBuild get put build) s () p s' ()) :
    Advances sch
      (match (get s).claim.1 with
        | .take v => .done v
        | .join n => awaitBuild get put n build
        | .build n => build.bind (Started.finish get put ⟨epoch, n, build⟩))
      (put (get s).claim.2 s) () p s' () := by
  cases run with
  | look run =>
      cases run with
      | change run => exact run

/-- What is recorded and who is on the roll agree with a state. -/
def Agrees (get : σ → Deferred α) (put : Deferred α → σ → σ) (s : σ) (epoch : Nat)
    (starts : List (Started σ α)) (roll : List (Entry σ α)) : Prop :=
  Recorded get (get s) epoch starts ∧ Manned get put (get s) starts roll

namespace Agrees

variable {s s' : σ} {epoch : Nat} {starts : List (Started σ α)} {roll : List (Entry σ α)}

/-- A caller that has nothing to start is served by the build of the epoch. -/
theorem join (h : Agrees get put s epoch starts roll) (hsame : get s' = get s) {e : Entry σ α}
    (hknown : e.build ∈ starts) (hepoch : e.build.epoch = e.caller.epoch) (hstands : e.Stands get put (get s))
    (hidle : e.stage ≠ .running) : Agrees get put s' epoch starts (e :: roll) := by
  unfold Agrees
  rw [hsame]
  refine ⟨h.1, h.2.enter (fun _ _ => rfl) ?_ hepoch hstands (absurd hknown) fun hrun => absurd hrun hidle⟩
  exact fun b => ⟨.inl, fun hb => hb.elim id fun hb => hb ▸ hknown⟩

/-- The first caller of an epoch starts a build, and may even end it before it is suspended. -/
theorem build (hput : ∀ d s, get (put d s) = d) (h : Agrees get put s epoch starts roll)
    (hphase : (get s).phase = .unbuilt ∨ (get s).phase = .invalidated) {build p : Program σ α}
    (hbuild : build.Spares get) (run : Advances sch (getOrBuild get put build) s () p s' ()) :
    ∃ stage, Agrees get put s' epoch (⟨epoch, (get s).builds + 1, build⟩ :: starts)
      (⟨⟨epoch, p⟩, ⟨epoch, (get s).builds + 1, build⟩, stage⟩ :: roll) := by
  obtain ⟨hrecorded, hmanned⟩ := h
  have hfresh : ∀ b ∈ starts, b.number ≠ (get s).builds + 1 := fun b hb =>
    Nat.ne_of_lt (Nat.lt_succ_of_le (hrecorded.bounded b hb).2)
  have hnone : (get s).result? ((get s).builds + 1) = none := by
    cases hv : (get s).result? ((get s).builds + 1) with
    | none => rfl
    | some v =>
        obtain ⟨b, hb, hnumber, -⟩ := hrecorded.finished _ v hv
        exact absurd hnumber (hfresh b hb)
  have hstarts : ∀ b : Started σ α, b ∈ ⟨epoch, (get s).builds + 1, build⟩ :: starts ↔
      b ∈ starts ∨ b = ⟨epoch, (get s).builds + 1, build⟩ := fun b => List.mem_cons.trans or_comm
  replace run := advances_getOrBuild epoch run
  rw [Deferred.claim_unbuilt hphase] at run
  rcases advances_build hput (run.of_bind (.start build) hbuild) with ⟨hrunning, hs⟩ | ⟨v, hleaves, hp, hs⟩
  · refine ⟨.running, ?_⟩
    unfold Agrees
    rw [hs, hput]
    refine ⟨hrecorded.build hphase hbuild, ?_⟩
    refine hmanned.enter (fun _ _ => rfl) hstarts rfl ⟨hrunning, hnone⟩ (fun _ _ => rfl) fun _ hmem => ?_
    exact hfresh _ hmem rfl
  · refine ⟨.waiting, ?_⟩
    unfold Agrees
    rw [hs, hput]
    refine ⟨(hrecorded.build hphase hbuild).complete List.mem_cons_self hleaves hnone, ?_⟩
    refine hmanned.enter ?_ hstarts rfl ⟨build, hp⟩ ?_ nofun
    · intro b hb
      rw [Deferred.result?_complete, if_neg (hfresh b hb)]
      rfl
    · intro _ hpending
      rw [Deferred.result?_complete, if_pos rfl] at hpending
      exact nomatch hpending

/-- Whoever asks comes on the roll, and the build he starts, if he has to, is recorded. -/
theorem ask (hput : ∀ d s, get (put d s) = d) (h : Agrees get put s epoch starts roll) {build p : Program σ α}
    (hbuild : build.Spares get) (run : Advances sch (getOrBuild get put build) s () p s' ()) :
    ∃ b stage, Agrees get put s' epoch ((get s).starts epoch build ++ starts)
      (⟨⟨epoch, p⟩, b, stage⟩ :: roll) := by
  have hstart : (get s).phase = .unbuilt ∨ (get s).phase = .invalidated →
      ∃ b stage, Agrees get put s' epoch ((get s).starts epoch build ++ starts)
        (⟨⟨epoch, p⟩, b, stage⟩ :: roll) := by
    intro hphase
    obtain ⟨stage, hagrees⟩ := h.build hput hphase hbuild run
    refine ⟨⟨epoch, (get s).builds + 1, build⟩, stage, ?_⟩
    simp only [Deferred.starts, Deferred.claim_unbuilt hphase]
    exact hagrees
  cases hphase : (get s).phase with
  | unbuilt => exact hstart (.inl hphase)
  | invalidated => exact hstart (.inr hphase)
  | ready v =>
      replace run := advances_getOrBuild epoch run
      obtain ⟨b, hb, hepoch, hv⟩ := h.1.ready v hphase
      simp only [Deferred.starts, Deferred.claim_ready hphase] at run ⊢
      cases run with
      | done => exact ⟨b, .returned v, h.join (hput _ _) hb hepoch ⟨rfl, hv⟩ nofun⟩
  | building n =>
      replace run := advances_getOrBuild epoch run
      obtain ⟨b, hb, hepoch, hnumber⟩ := h.1.building n hphase
      simp only [Deferred.starts, Deferred.claim_building hphase] at run ⊢
      obtain ⟨hp, rfl⟩ := advances_awaitBuild run
      exact ⟨b, .waiting, h.join (hput _ _) hb hepoch ⟨build, hnumber ▸ hp⟩ nofun⟩

/-- A caller that goes on stays on the roll: its build goes on or ends, or it takes the value. -/
theorem goOn (hput : ∀ d s, get (put d s) = d) {asked : Nat} {p p' : Program σ α} {b : Started σ α}
    {stage : Stage α} (h : Agrees get put s epoch starts (⟨⟨asked, p⟩, b, stage⟩ :: roll))
    (run : Resumes sch p s () p' s' ()) :
    ∃ stage', Agrees get put s' epoch starts (⟨⟨asked, p'⟩, b, stage'⟩ :: roll) := by
  obtain ⟨hrecorded, hmanned⟩ := h
  have hb : b ∈ starts := hmanned.known _ List.mem_cons_self
  have hstands := hmanned.stands _ List.mem_cons_self
  cases stage with
  | running =>
      obtain ⟨⟨r, hleaves, hsuspended, hrest⟩, hnone⟩ := hstands
      obtain rfl : p = r.bind (b.finish get put) := hrest
      have hspares := hleaves.spares (hrecorded.spares b hb)
      rcases advances_build hput (run.of_bind hleaves hspares hsuspended) with
        ⟨hrunning, hs⟩ | ⟨v, hend, hp, hs⟩
      · refine ⟨.running, ?_⟩
        unfold Agrees
        rw [hs]
        refine ⟨hrecorded, ?_⟩
        exact hmanned.goOn rfl rfl (fun _ _ => .inl rfl) ⟨hrunning, hnone⟩ id fun _ => .inl rfl
      · refine ⟨.waiting, ?_⟩
        unfold Agrees
        rw [hs]
        refine ⟨hrecorded.complete hb hend hnone, ?_⟩
        refine hmanned.goOn rfl rfl ?_ ⟨b.build, hp⟩ nofun ?_
        · intro b' hb'
          rw [Deferred.result?_complete]
          split
          next hnumber => exact .inr ⟨hrecorded.eq_of_number hb' hb hnumber, rfl⟩
          next => exact .inl rfl
        · intro hpending
          rw [Deferred.result?_complete, if_pos rfl] at hpending
          exact nomatch hpending
  | waiting =>
      obtain ⟨own, hrest⟩ := hstands
      obtain rfl : p = awaitBuild get put b.number own := hrest
      obtain ⟨v, hv, rfl, hs⟩ := resumes_awaitBuild hput run
      refine ⟨.returned v, ?_⟩
      unfold Agrees
      rw [hs]
      refine ⟨hrecorded.keep hv, ?_⟩
      refine hmanned.goOn rfl rfl (fun _ _ => .inl (by simp)) ⟨rfl, by simpa using hv⟩ nofun ?_
      exact fun _ => .inr nofun
  | returned v =>
      obtain rfl : p = .done v := hstands.1
      cases run

end Agrees

/-- The builds are recorded, and the callers are on the roll. -/
def Session.Orderly (get : σ → Deferred α) (put : Deferred α → σ → σ) (session : Session σ α) : Prop :=
  ∃ roll : List (Entry σ α), session.callers = roll.map Entry.caller ∧
    Agrees get put session.state session.epoch session.starts roll

theorem Session.Step.orderly (hput : ∀ d s, get (put d s) = d) {session session' : Session σ α}
    (move : Step get put sch session session') (h : session.Orderly get put) : session'.Orderly get put := by
  obtain ⟨roll, hcallers, hagrees⟩ := h
  cases move with
  | ask epoch starts callers build hbuild run =>
      obtain ⟨b, stage, hagrees⟩ := hagrees.ask hput hbuild run
      refine ⟨roll ++ [⟨_, b, stage⟩], ?_, hagrees.1, hagrees.2.perm (List.perm_append_singleton _ _).symm⟩
      rw [List.map_append]
      exact congrArg (· ++ [_]) hcallers
  | goOn epoch asked starts before after run =>
      obtain ⟨first, rest, rfl, hbefore, hafter⟩ := List.map_eq_append_iff.1 hcallers.symm
      obtain ⟨⟨caller, b, stage⟩, last, rfl, hcaller, hlast⟩ := List.map_eq_cons_iff.1 hafter
      obtain rfl : caller = ⟨asked, _⟩ := hcaller
      obtain ⟨stage', hagrees⟩ := Agrees.goOn hput ⟨hagrees.1, hagrees.2.perm List.perm_middle⟩ run
      refine ⟨first ++ ⟨_, b, stage'⟩ :: last, ?_, hagrees.1, hagrees.2.perm List.perm_middle.symm⟩
      simp only [List.map_append, List.map_cons, hbefore, hlast]
  | invalidate epoch starts callers hs =>
      refine ⟨roll, hcallers, ?_⟩
      unfold Agrees
      rw [hs]
      exact ⟨hagrees.1.invalidate, hagrees.2.frame fun _ => rfl⟩
  | other epoch starts callers hs =>
      refine ⟨roll, hcallers, ?_⟩
      unfold Agrees
      rw [hs]
      exact hagrees

theorem Session.Reachable.orderly (hput : ∀ d s, get (put d s) = d) {s : σ} (hs : get s = {})
    {session : Session σ α} (reached : Reachable get put sch s session) : session.Orderly get put := by
  induction reached with
  | initial =>
      refine ⟨[], rfl, ?_⟩
      unfold Agrees
      rw [hs]
      exact ⟨Recorded.initial, Manned.initial⟩
  | step reached move ih => exact move.orderly hput ih

/-- What a caller has of a build: once that has ended, with a value that its program can return, the caller
    returns this value; before that the build is being run, by this caller or by one it waits for. -/
def Session.Serves (get : σ → Deferred α) (put : Deferred α → σ → σ) (sch : Schedule Unit)
    (session : Session σ α) (b : Started σ α) (c : Caller σ α) : Prop :=
  match (get session.state).result? b.number with
  | some v => b.build.Leaves (.done v) ∧ c.Returns sch session.state v
  | none => (∃ c' ∈ session.callers, b.Running get put c'.rest) ∧
      (b.Running get put c.rest ∨ c.Waits sch session.state)

/-- However callers, builds and invalidations are interleaved: an epoch has at most one build; whoever asks in an
    epoch is served by its build, in whatever epoch the value comes or is taken; and what is kept is the value
    of the build of the current epoch. -/
theorem epoch_shares_one_build (hput : ∀ d s, get (put d s) = d) {s : σ} (hs : get s = {})
    {session : Session σ α} (reached : Session.Reachable get put sch s session) :
    (session.starts.map Started.epoch).Nodup ∧
    (∀ c ∈ session.callers, ∃ b ∈ session.starts, b.epoch = c.epoch ∧ session.Serves get put sch b c) ∧
    (∀ v, (get session.state).value? = some v → ∃ b ∈ session.starts, b.epoch = session.epoch ∧
      (get session.state).result? b.number = some v ∧ b.build.Leaves (.done v)) := by
  obtain ⟨roll, hcallers, hrecorded, hmanned⟩ := reached.orderly hput hs
  refine ⟨?_, ?_, ?_⟩
  · exact List.pairwise_map.2 (hrecorded.epochs.imp fun hlt => Nat.ne_of_gt hlt)
  · intro c hc
    rw [hcallers] at hc
    obtain ⟨e, he, rfl⟩ := List.mem_map.1 hc
    have hstands := hmanned.stands e he
    have hknown := hmanned.known e he
    refine ⟨e.build, hknown, hmanned.epoch e he, ?_⟩
    unfold Session.Serves
    split
    next v hv => exact ⟨hrecorded.leaves hknown hv, hstands.returns hput hv⟩
    next hnone =>
        obtain ⟨e', he', hbuild, hrunning⟩ := hmanned.run e.build hknown hnone
        refine ⟨⟨e'.caller, hcallers ▸ List.mem_map_of_mem he', ?_⟩, hstands.waits hput hnone⟩
        exact hbuild ▸ ((hmanned.stands e' he').running hrunning).1
  · intro v hv
    have hphase : (get session.state).phase = .ready v := by
      unfold Deferred.value? at hv
      split at hv
      next hready => rw [hready, Option.some.inj hv]
      next => exact nomatch hv
    obtain ⟨b, hb, hepoch, hresult⟩ := hrecorded.ready v hphase
    exact ⟨b, hb, hepoch, hresult, hrecorded.leaves hb hresult⟩

/-- A name is built for two callers. The value is given up before the world gives the name: both are served by
    the build all the same, and the second returns the name in the next epoch. -/
theorem given_up_build_serves_its_callers : ∃ session : Session (Deferred String) String,
    Session.Reachable id (fun d _ => d) ⟨fun _ => true, fun _ w => w⟩ {} session ∧
    session.epoch = 1 ∧ ⟨0, .done "name"⟩ ∈ session.callers ∧
    ∃ b ∈ session.starts, b.epoch = 0 ∧
      session.Serves id (fun d _ => d) ⟨fun _ => true, fun _ w => w⟩ b ⟨0, .done "name"⟩ := by
  have hspares : (ask .freshName : Program (Deferred String) String).Spares id :=
    within_ask trivial
  have first : Session.Reachable id (fun d _ => d) ⟨fun _ => true, fun _ w => w⟩ {} _ :=
    .step .initial (.ask 0 [] [] (ask .freshName) hspares (.look (.change (.held _ _ _ rfl))))
  have second := Session.Reachable.step first
    (.ask 0 _ _ (ask .freshName) hspares (.look (.change (.waits _ _ _ _))))
  have third := Session.Reachable.step second (.invalidate 0 _ _ rfl)
  have fourth := Session.Reachable.step third
    (.goOn 1 0 _ [] _ (.answered "name" (.change (.waits _ _ _ _))))
  have fifth := Session.Reachable.step fourth
    (.goOn 1 0 _ [_] [] (.ready rfl (.look (.change (.done "name" _ _)))))
  have hput : ∀ d s : Deferred String, id ((fun d _ => d) d s) = d := fun _ _ => rfl
  have hlast : ∀ c c' : Caller (Deferred String) String, c' ∈ [c] ++ [c'] := fun _ c' =>
    List.mem_append_right _ (List.mem_singleton_self c')
  exact ⟨_, fifth, rfl, hlast _ _, (epoch_shares_one_build hput rfl fifth).2.1 _ (hlast _ _)⟩

end Sessions

end PlaybookServer.Effect

/-
Module: PlaybookServer.Proofs.Effect.Epochs
Purpose: A value that is built when first asked for, followed through a history. An epoch is the time between two
  moments at which the value is given up. Builds start in the order of their numbers, at most one an epoch; a build
  that is under way was started in the current epoch, and so was the one whose value is kept. Whoever asks for the
  value gets that of a build which was not started before the epoch in which he asked.
Main exports: Starts, Ends, StartedIn, Ended, InOrder, exists_of_startedIn, Ended.since, Tracked, Steady, Guarded,
  Served, proceeds_getOrBuild
-/
import PlaybookServer.Proofs.Effect.Deferred
import PlaybookServer.Proofs.Effect.History

namespace PlaybookServer.Effect

variable {σ μ α : Type}

/-! ### Epochs -/

/-- Whether a value is given up. -/
def Occurrence.givesUp (gives : μ → σ → Bool) : Occurrence σ μ → Bool
  | .outside act s => gives act s
  | _ => false

/-- How often the value was given up so far. -/
def epoch (gives : μ → σ → Bool) (h : History σ μ) : Nat := h.countP (·.givesUp gives)

section Epochs

variable {gives : μ → σ → Bool} {h h' : History σ μ}

theorem epoch_of_kept {x : Occurrence σ μ} (hx : x.givesUp gives = false) : epoch gives (x :: h) = epoch gives h :=
  List.countP_cons_of_neg (by rw [hx]; exact Bool.false_ne_true)

theorem epoch_of_givenUp {x : Occurrence σ μ} (hx : x.givesUp gives = true) :
    epoch gives (x :: h) = epoch gives h + 1 :=
  List.countP_cons_of_pos hx

theorem epoch_mono (hgrown : h <:+ h') : epoch gives h ≤ epoch gives h' :=
  hgrown.sublist.countP_le

/-- Without a new epoch nothing was given up. -/
theorem kept_of_epoch_eq {since before : History σ μ}
    (heq : epoch gives (since ++ before) = epoch gives before) : ∀ x ∈ since, x.givesUp gives = false := by
  intro x hx
  rw [epoch, epoch, List.countP_append] at heq
  have hnone : since.countP (·.givesUp gives) = 0 := by omega
  exact Bool.eq_false_iff.2 (List.countP_eq_zero.1 hnone x hx)

end Epochs

/-! ### Builds in a history -/

/-- A build is started: a caller asks for the value and has to build it. -/
def Starts (get : σ → Deferred α) (n : Nat) : Occurrence σ μ → Prop
  | .changed s s' => (get s).claim = (.build n, get s')
  | _ => False

/-- A build ends with a value. -/
def Ends (get : σ → Deferred α) (n : Nat) (v : α) : Occurrence σ μ → Prop
  | .changed s s' => get s' = (get s).complete n v
  | _ => False

/-- A build was started in an epoch. -/
def StartedIn (get : σ → Deferred α) (gives : μ → σ → Bool) (n k : Nat) : History σ μ → Prop
  | [] => False
  | x :: h => Starts get n x ∧ epoch gives h = k ∨ StartedIn get gives n k h

/-- A build that was started ended with a value. -/
def Ended (get : σ → Deferred α) (gives : μ → σ → Bool) (n : Nat) (v : α) : History σ μ → Prop
  | [] => False
  | x :: h => Ends get n v x ∧ (∃ k, StartedIn get gives n k h) ∨ Ended get gives n v h

/-- Builds were started in the order of their numbers, at most one in an epoch. -/
def InOrder (get : σ → Deferred α) (gives : μ → σ → Bool) : History σ μ → Prop
  | [] => True
  | x :: h => (∀ n, Starts get n x → ∀ n' k', StartedIn get gives n' k' h → n' < n ∧ k' < epoch gives h) ∧
      InOrder get gives h

section Builds

variable {get : σ → Deferred α} {gives : μ → σ → Bool} {n n' k k' : Nat} {v : α} {h h' : History σ μ}
  {x : Occurrence σ μ}

theorem givesUp_of_starts (hx : Starts get n x) : x.givesUp gives = false := by
  cases x with
  | outside act s => exact absurd hx id
  | _ => rfl

theorem StartedIn.mono (hstarted : StartedIn get gives n k h) (hgrown : h <:+ h') : StartedIn get gives n k h' := by
  obtain ⟨later, rfl⟩ := hgrown
  induction later with
  | nil => exact hstarted
  | cons x later ih => exact .inr ih

theorem StartedIn.le (hstarted : StartedIn get gives n k h) : k ≤ epoch gives h := by
  induction h with
  | nil => exact absurd hstarted id
  | cons x h ih =>
      have hgrown : epoch gives h ≤ epoch gives (x :: h) := epoch_mono (List.suffix_cons x h)
      rcases hstarted with ⟨-, rfl⟩ | hstarted
      · exact hgrown
      · exact Nat.le_trans (ih hstarted) hgrown

theorem Ended.mono (hended : Ended get gives n v h) (hgrown : h <:+ h') : Ended get gives n v h' := by
  obtain ⟨later, rfl⟩ := hgrown
  induction later with
  | nil => exact hended
  | cons x later ih => exact .inr ih

theorem Ended.startedIn (hended : Ended get gives n v h) : ∃ k, StartedIn get gives n k h := by
  induction h with
  | nil => exact absurd hended id
  | cons x h ih =>
      rcases hended with ⟨-, k, hstarted⟩ | hended
      · exact ⟨k, .inr hstarted⟩
      · obtain ⟨k, hstarted⟩ := ih hended
        exact ⟨k, .inr hstarted⟩

/-- A build is started only once. -/
theorem StartedIn.unique (horder : InOrder get gives h) (hstarted : StartedIn get gives n k h)
    (hstarted' : StartedIn get gives n k' h) : k = k' := by
  induction h with
  | nil => exact absurd hstarted id
  | cons x h ih =>
      rcases hstarted with ⟨hx, rfl⟩ | hstarted <;> rcases hstarted' with ⟨hx', rfl⟩ | hstarted'
      · rfl
      · exact absurd (horder.1 n hx n k' hstarted').1 (Nat.lt_irrefl n)
      · exact absurd (horder.1 n hx' n k hstarted).1 (Nat.lt_irrefl n)
      · exact ih horder.2 hstarted hstarted'

/-- A build of the current epoch was started when the value had been given up for the last time. -/
theorem exists_of_startedIn (hstarted : StartedIn get gives n (epoch gives h) h) :
    ∃ since start before, h = since ++ start :: before ∧ Starts get n start ∧
      ∀ x ∈ since, x.givesUp gives = false := by
  induction h with
  | nil => exact absurd hstarted id
  | cons x h ih =>
      rcases hstarted with ⟨hx, -⟩ | hstarted
      · exact ⟨[], x, h, rfl, hx, List.forall_mem_nil _⟩
      · have hkept : x.givesUp gives = false := by
          cases hx : x.givesUp gives with
          | false => rfl
          | true =>
              have hle := hstarted.le
              rw [epoch_of_givenUp hx] at hle
              exact absurd hle (Nat.not_succ_le_self _)
        rw [epoch_of_kept hkept] at hstarted
        obtain ⟨since, start, before, rfl, hstart, hsince⟩ := ih hstarted
        exact ⟨x :: since, start, before, rfl, hstart, List.forall_mem_cons.2 ⟨hkept, hsince⟩⟩

theorem startedIn_append {since before : History σ μ} {start : Occurrence σ μ} (hstart : Starts get n start) :
    StartedIn get gives n (epoch gives before) (since ++ start :: before) := by
  have hnow : StartedIn get gives n (epoch gives before) (start :: before) := Or.inl ⟨hstart, rfl⟩
  exact hnow.mono (List.suffix_append since _)

theorem InOrder.tail {later : History σ μ} (horder : InOrder get gives (later ++ h)) : InOrder get gives h := by
  induction later with
  | nil => exact horder
  | cons x later ih => exact ih horder.2

/-- A build ends after it was started. -/
theorem Ended.since {since before : History σ μ} {start : Occurrence σ μ}
    (hended : Ended get gives n v (since ++ start :: before)) (hstart : Starts get n start)
    (horder : InOrder get gives (since ++ start :: before)) : ∃ x ∈ since, Ends get n v x := by
  have hfresh : ∀ k, ¬ StartedIn get gives n k before := fun k hstarted =>
    Nat.lt_irrefl n (horder.tail.1 n hstart n k hstarted).1
  induction since with
  | nil =>
      rcases hended with ⟨-, k, hstarted⟩ | hended
      · exact absurd hstarted (hfresh k)
      · obtain ⟨k, hstarted⟩ := hended.startedIn
        exact absurd hstarted (hfresh k)
  | cons x since ih =>
      rcases hended with ⟨hx, -⟩ | hended
      · exact ⟨x, List.mem_cons_self, hx⟩
      · obtain ⟨y, hy, hends⟩ := ih hended horder.2
        exact ⟨y, List.mem_cons_of_mem x hy, hends⟩

/-- Between two starts the value is given up. -/
theorem InOrder.givenUp_between {newer between before : History σ μ} {first second : Occurrence σ μ}
    (horder : InOrder get gives (newer ++ second :: (between ++ first :: before)))
    (hfirst : Starts get n first) (hsecond : Starts get n' second) : ∃ x ∈ between, x.givesUp gives = true := by
  have hlt := (horder.tail.1 n' hsecond n _ (startedIn_append hfirst)).2
  rw [epoch, epoch, List.countP_append, List.countP_cons_of_neg] at hlt
  · exact List.countP_pos_iff.1 (Nat.lt_add_left_iff_pos.1 hlt)
  · rw [givesUp_of_starts hfirst]
    exact Bool.false_ne_true

end Builds

/-! ### A value that is followed -/

/-- The value is where its history left it. What is known of the values that builds ended with stays true. -/
structure Tracked (get : σ → Deferred α) (gives : μ → σ → Bool) (known : Nat → α → History σ μ → Prop) (s : σ)
    (h : History σ μ) : Prop where
  inOrder : InOrder get gives h
  counted : ∀ n k, StartedIn get gives n k h → n ≤ (get s).builds
  given_up : (get s).phase = .unbuilt ∨ (get s).phase = .invalidated →
    ∀ n k, StartedIn get gives n k h → k < epoch gives h
  building : ∀ n, (get s).phase = .building n → StartedIn get gives n (epoch gives h) h
  ready : ∀ v, (get s).phase = .ready v →
    ∃ n, StartedIn get gives n (epoch gives h) h ∧ Ended get gives n v h ∧ known n v h
  finished : ∀ n v, (get s).result? n = some v → Ended get gives n v h ∧ known n v h

/-- A caller that has to build is the first since the value was given up. -/
theorem Deferred.of_claim {d d' : Deferred α} {n : Nat} (h : d.claim = (.build n, d')) :
    (d.phase = .unbuilt ∨ d.phase = .invalidated) ∧ n = d.builds + 1 ∧
      d' = { d with phase := .building (d.builds + 1), builds := d.builds + 1 } := by
  cases hphase : d.phase with
  | unbuilt =>
      rw [Deferred.claim_unbuilt (.inl hphase)] at h
      cases h
      exact ⟨.inl rfl, rfl, rfl⟩
  | invalidated =>
      rw [Deferred.claim_unbuilt (.inr hphase)] at h
      cases h
      exact ⟨.inr rfl, rfl, rfl⟩
  | building m =>
      rw [Deferred.claim_building hphase] at h
      cases h
  | ready v =>
      rw [Deferred.claim_ready hphase] at h
      cases h

namespace Tracked

variable {get : σ → Deferred α} {gives : μ → σ → Bool} {known : Nat → α → History σ μ → Prop} {s s' : σ}
  {h : History σ μ} {x : Occurrence σ μ} {n : Nat} {v : α}

theorem initial (hs : get s = {}) : Tracked get gives known s ([] : History σ μ) where
  inOrder := trivial
  counted := nofun
  given_up := fun _ => nofun
  building := by
    rw [hs]
    nofun
  ready := by
    rw [hs]
    nofun
  finished := by
    rw [hs]
    nofun

/-- What starts no build of the value concerns neither the order of the builds nor their epochs. -/
theorem not_starts (hbuilds : (get s').builds = (get s).builds) (n : Nat) :
    ¬ Starts get n (.changed s s' : Occurrence σ μ) := by
  intro hstarts
  obtain ⟨-, -, hs'⟩ := Deferred.of_claim hstarts
  rw [hs'] at hbuilds
  exact absurd hbuilds (Nat.succ_ne_self _)

theorem of_startedIn_cons (hx : ∀ n, ¬ Starts get n x) {n k : Nat} (hstarted : StartedIn get gives n k (x :: h)) :
    StartedIn get gives n k h :=
  hstarted.resolve_left fun hnow => hx n hnow.1

/-- Something happens that starts no build and gives nothing up. The value is kept only for the build under way, and
    what is newly known to have ended has ended. -/
theorem go (hs : Tracked get gives known s h) (hkept : x.givesUp gives = false) (hx : ∀ n, ¬ Starts get n x)
    (hbuilds : (get s').builds = (get s).builds)
    (hphase : (get s').phase = (get s).phase ∨ ∃ n v, (get s).phase = .building n ∧ (get s').phase = .ready v ∧
      (get s).result? n = some v)
    (hresult : ∀ n v, (get s').result? n = some v →
      (get s).result? n = some v ∨ Ended get gives n v (x :: h) ∧ known n v (x :: h))
    (hknown : ∀ n v, known n v h → known n v (x :: h)) : Tracked get gives known s' (x :: h) where
  inOrder := ⟨fun n hstarts => absurd hstarts (hx n), hs.inOrder⟩
  counted n k hstarted := by
    rw [hbuilds]
    exact hs.counted n k (of_startedIn_cons hx hstarted)
  given_up hidle n k hstarted := by
    rw [epoch_of_kept hkept]
    rcases hphase with hsame | ⟨_, _, -, hready, -⟩
    · rw [hsame] at hidle
      exact hs.given_up hidle n k (of_startedIn_cons hx hstarted)
    · rw [hready] at hidle
      rcases hidle with hidle | hidle <;> cases hidle
  building n hbuilding := by
    rw [epoch_of_kept hkept]
    rcases hphase with hsame | ⟨_, _, -, hready, -⟩
    · rw [hsame] at hbuilding
      exact .inr (hs.building n hbuilding)
    · rw [hready] at hbuilding
      cases hbuilding
  ready v hready := by
    rw [epoch_of_kept hkept]
    rcases hphase with hsame | ⟨n, u, hbuilding, hkeeps, hended⟩
    · rw [hsame] at hready
      obtain ⟨n, hstarted, hended, hv⟩ := hs.ready v hready
      exact ⟨n, .inr hstarted, .inr hended, hknown n v hv⟩
    · rw [hkeeps] at hready
      cases hready
      obtain ⟨hended, hv⟩ := hs.finished n v hended
      exact ⟨n, .inr (hs.building n hbuilding), .inr hended, hknown n v hv⟩
  finished n v hended := by
    rcases hresult n v hended with hold | hnew
    · obtain ⟨hended, hv⟩ := hs.finished n v hold
      exact ⟨.inr hended, hknown n v hv⟩
    · exact hnew

/-- Something else happens. -/
theorem other (hs : Tracked get gives known s h) (hsame : get s' = get s) (hkept : x.givesUp gives = false)
    (hx : ∀ n, ¬ Starts get n x) (hknown : ∀ n v, known n v h → known n v (x :: h)) :
    Tracked get gives known s' (x :: h) :=
  hs.go hkept hx (congrArg Deferred.builds hsame) (.inl (congrArg Deferred.phase hsame))
    (fun _ _ hresult => .inl (hsame ▸ hresult)) hknown

/-- The value is given up. -/
theorem giveUp {act : μ} (hs : Tracked get gives known s h) (hgiven : get s' = (get s).invalidate)
    (hact : gives act s = true) (hknown : ∀ n v, known n v h → known n v (.outside act s :: h)) :
    Tracked get gives known s' (.outside act s :: h) where
  inOrder := ⟨fun _ hstarts => absurd hstarts id, hs.inOrder⟩
  counted n k hstarted := by
    rw [hgiven]
    exact hs.counted n k (of_startedIn_cons (fun _ => id) hstarted)
  given_up _ n k hstarted := by
    have hgivenUp : (.outside act s : Occurrence σ μ).givesUp gives = true := hact
    rw [epoch_of_givenUp hgivenUp]
    exact Nat.lt_succ_of_le (of_startedIn_cons (fun _ => id) hstarted).le
  building n hphase := by
    rw [hgiven] at hphase
    cases hphase
  ready v hphase := by
    rw [hgiven] at hphase
    cases hphase
  finished n v hresult := by
    rw [hgiven] at hresult
    obtain ⟨hended, hv⟩ := hs.finished n v hresult
    exact ⟨.inr hended, hknown n v hv⟩

/-- The first caller of an epoch starts a build. -/
theorem build (hs : Tracked get gives known s h) (hstarts : (get s).claim = (.build n, get s'))
    (hknown : ∀ n v, known n v h → known n v (.changed s s' :: h)) :
    Tracked get gives known s' (.changed s s' :: h) := by
  obtain ⟨hphase, rfl, hs'⟩ := Deferred.of_claim hstarts
  refine ⟨⟨?_, hs.inOrder⟩, ?_, ?_, ?_, ?_, ?_⟩
  · intro m hm n' k' hstarted
    obtain ⟨-, rfl, -⟩ := Deferred.of_claim hm
    exact ⟨Nat.lt_succ_of_le (hs.counted n' k' hstarted), hs.given_up hphase n' k' hstarted⟩
  · intro m k hstarted
    rw [hs']
    rcases hstarted with ⟨hm, -⟩ | hstarted
    · obtain ⟨-, rfl, -⟩ := Deferred.of_claim hm
      exact Nat.le_refl _
    · exact Nat.le_succ_of_le (hs.counted m k hstarted)
  · intro hphase'
    rw [hs'] at hphase'
    rcases hphase' with hphase' | hphase' <;> cases hphase'
  · intro m hm
    rw [hs'] at hm
    cases hm
    exact .inl ⟨hstarts, rfl⟩
  · intro v hv
    rw [hs'] at hv
    cases hv
  · intro m v hresult
    rw [hs'] at hresult
    obtain ⟨hended, hv⟩ := hs.finished m v hresult
    exact ⟨.inr hended, hknown m v hv⟩

/-- A build that was started ends. -/
theorem complete {k : Nat} (hs : Tracked get gives known s h) (hstarted : StartedIn get gives n k h)
    (hends : get s' = (get s).complete n v) (hv : known n v (.changed s s' :: h))
    (hknown : ∀ n v, known n v h → known n v (.changed s s' :: h)) :
    Tracked get gives known s' (.changed s s' :: h) := by
  have hbuilds : (get s').builds = (get s).builds := by
    rw [hends]
    rfl
  have hphase : (get s').phase = (get s).phase := by
    rw [hends]
    rfl
  refine hs.go rfl (not_starts hbuilds) hbuilds (.inl hphase) ?_ hknown
  intro m u hresult
  rw [hends, Deferred.result?_complete] at hresult
  split at hresult
  next hm =>
      subst hm
      cases hresult
      exact .inr ⟨.inl ⟨hends, k, hstarted⟩, hv⟩
  next => exact .inl hresult

/-- The value of a build that ended is kept if that build is the one that is under way. -/
theorem keep (hs : Tracked get gives known s h) (hresult : (get s).result? n = some v)
    (hkeeps : get s' = (get s).keep n v) (hknown : ∀ n v, known n v h → known n v (.changed s s' :: h)) :
    Tracked get gives known s' (.changed s s' :: h) := by
  have hphase : (get s').builds = (get s).builds ∧ ((get s').phase = (get s).phase ∨
      ∃ n v, (get s).phase = .building n ∧ (get s').phase = .ready v ∧ (get s).result? n = some v) := by
    rw [hkeeps, Deferred.keep]
    split
    next m hm =>
        split
        next hsame => exact ⟨rfl, .inr ⟨n, v, hsame ▸ hm, rfl, hresult⟩⟩
        next => exact ⟨rfl, .inl rfl⟩
    next => exact ⟨rfl, .inl rfl⟩
  refine hs.go rfl (not_starts hphase.1) hphase.1 hphase.2 ?_ hknown
  intro m u hm
  rw [hkeeps, Deferred.result?_keep] at hm
  exact .inl hm

end Tracked

/-! ### What was found in the current epoch -/

/-- The state that a program found when it looked at it or changed it. -/
def Occurrence.found? : Occurrence σ μ → Option σ
  | .looked s => some s
  | .changed s _ => some s
  | _ => none

/-- A part of the state is as every program found it since it was altered from outside. -/
def Steady {τ : Type} (view : σ → τ) (alters : μ → σ → Bool) (s : σ) (h : History σ μ) : Prop :=
  ∀ since before, h = since ++ before → (∀ x ∈ since, x.givesUp alters = false) →
    ∀ x ∈ since, ∀ t, x.found? = some t → view t = view s

theorem Steady.initial {τ : Type} (view : σ → τ) (alters : μ → σ → Bool) (s : σ) : Steady view alters s [] := by
  intro since before heq _ x hx
  rw [(List.nil_eq_append_iff.1 heq).1] at hx
  cases hx

section Steady

variable {τ : Type} {view : σ → τ} {alters : μ → σ → Bool} {s s' : σ} {h : History σ μ} {x : Occurrence σ μ}

/-- What was found before the part is altered does not count. -/
theorem Steady.alter (hx : x.givesUp alters = true) : Steady view alters s' (x :: h) := by
  intro since before heq hkept y hy
  cases since with
  | nil => cases hy
  | cons z since =>
      cases heq
      rw [hkept x List.mem_cons_self] at hx
      cases hx

theorem Steady.stay (hs : Steady view alters s h) (hview : view s = view s')
    (hx : x.found? = none ∨ x.found? = some s) : Steady view alters s' (x :: h) := by
  intro since before heq hkept y hy t ht
  cases since with
  | nil => cases hy
  | cons z since =>
      cases heq
      rw [← hview]
      rcases List.mem_cons.1 hy with rfl | hy
      · rcases hx with hx | hx
        · rw [hx] at ht
          cases ht
        · rw [hx] at ht
          cases ht
          rfl
      · exact hs since before rfl (fun z hz => hkept z (List.mem_cons_of_mem _ hz)) y hy t ht

end Steady

/-! ### Callers -/

/-- An invariant under which a value is followed, and that concerns the value in no other way. -/
structure Guarded (get : σ → Deferred α) (put : Deferred α → σ → σ) (gives : μ → σ → Bool)
    (known : Nat → α → History σ μ → Prop) (I : σ → History σ μ → Prop) : Prop where
  get_put : ∀ d s, get (put d s) = d
  tracked : ∀ s h, I s h → Tracked get gives known s h
  look : ∀ s h, I s h → I s (.looked s :: h)
  change : ∀ d s h, I s h → Tracked get gives known (put d s) (.changed s (put d s) :: h) →
    I (put d s) (.changed s (put d s) :: h)
  stays_known : ∀ n v x h, known n v h → known n v (x :: h)

/-- Somebody is served with a value: a build not older than a given epoch has ended with it. -/
def Served (get : σ → Deferred α) (gives : μ → σ → Bool) (known : Nat → α → History σ μ → Prop) (oldest : Nat)
    (v : α) (h : History σ μ) : Prop :=
  ∃ n k, oldest ≤ k ∧ StartedIn get gives n k h ∧ Ended get gives n v h ∧ known n v h

theorem Served.mono {get : σ → Deferred α} {gives : μ → σ → Bool} {known : Nat → α → History σ μ → Prop}
    {oldest : Nat} {v : α} {h h' : History σ μ} (hserved : Served get gives known oldest v h) (hgrown : h <:+ h')
    (hknown : ∀ n, known n v h → known n v h') : Served get gives known oldest v h' := by
  obtain ⟨n, k, hk, hstarted, hended, hv⟩ := hserved
  exact ⟨n, k, hk, hstarted.mono hgrown, hended.mono hgrown, hknown n hv⟩

section Callers

variable {get : σ → Deferred α} {put : Deferred α → σ → σ} {gives : μ → σ → Bool}
  {known : Nat → α → History σ μ → Prop} {I : σ → History σ μ → Prop} {suspends : Query → Bool}
  {build : Program σ α}

/-- Whoever waits for a build that was started gets its value. -/
theorem proceeds_awaitBuild (hguarded : Guarded get put gives known I) {n k oldest : Nat} {s : σ} {h : History σ μ}
    (hI : I s h) (hstarted : StartedIn get gives n k h) (hk : oldest ≤ k) :
    (awaitBuild get put n build).Proceeds suspends I
      (fun v s' h' => I s' h' ∧ Served get gives known oldest v h') s h := by
  refine ⟨hI, fun s' h' hgrown hI' hready => ?_⟩
  obtain ⟨v, hv⟩ := Option.isSome_iff_exists.1 hready
  have hlooked := hguarded.look s' h' hI'
  have htracked := hguarded.tracked s' _ hlooked
  show (takeResult get put n build ((get s').result? n)).Proceeds suspends I _ s' (.looked s' :: h')
  rw [hv]
  have hkept := htracked.keep hv (hguarded.get_put _ s') fun n v => hguarded.stays_known n v _ _
  have hchanged := hguarded.change _ s' _ hlooked hkept
  obtain ⟨hended, hknown⟩ := htracked.finished n v hv
  refine ⟨hchanged, n, k, hk, ?_, .inr hended, hguarded.stays_known n v _ _ hknown⟩
  exact .inr (.inr (hstarted.mono hgrown))

/-- Whoever asks for the value gets that of a build which was not started before the current epoch. -/
theorem proceeds_getOrBuild (hguarded : Guarded get put gives known I) {s : σ} {h : History σ μ} (hI : I s h)
    (hbuild : ∀ n s', (get s).claim = (.build n, get s') → I s' (.changed s s' :: .looked s :: h) →
      build.Proceeds suspends I (fun v t g => I t g ∧ known n v g) s' (.changed s s' :: .looked s :: h)) :
    (getOrBuild get put build).Proceeds suspends I
      (fun v s' h' => I s' h' ∧ Served get gives known (epoch gives h) v h') s h := by
  have hlooked := hguarded.look s h hI
  have htracked := hguarded.tracked s _ hlooked
  have hepoch : epoch gives (.looked s :: h) = epoch gives h := epoch_of_kept rfl
  have hstays (n : Nat) (v : α) := hguarded.stays_known n v (.changed s (put (get s).claim.2 s)) (.looked s :: h)
  have hget := hguarded.get_put (get s).claim.2 s
  -- Nothing is built: the value is as it was.
  have hunbuilt (hsame : (get s).claim.2 = get s) :
      I (put (get s).claim.2 s) (.changed s (put (get s).claim.2 s) :: .looked s :: h) := by
    have hunchanged : get (put (get s).claim.2 s) = get s := hget.trans hsame
    have hnot_starts := Tracked.not_starts (μ := μ) (congrArg Deferred.builds hunchanged)
    exact hguarded.change _ s _ hlooked (htracked.other hunchanged rfl hnot_starts hstays)
  have hbuilt (n : Nat) (hclaim : (get s).claim.1 = .build n) :
      (build >>= fun v => do
        change fun s => put ((get s).complete n v) s
        awaitBuild get put n build).Proceeds suspends I
        (fun v s' h' => I s' h' ∧ Served get gives known (epoch gives h) v h') (put (get s).claim.2 s)
        (.changed s (put (get s).claim.2 s) :: .looked s :: h) := by
    have hstarts : (get s).claim = (.build n, get (put (get s).claim.2 s)) := by
      rw [hget, ← hclaim]
    have hstarted := hguarded.change _ s _ hlooked (htracked.build hstarts hstays)
    have hstartedIn : StartedIn get gives n (epoch gives h)
        (.changed s (put (get s).claim.2 s) :: .looked s :: h) := .inl ⟨hstarts, hepoch⟩
    refine (hbuild n _ hstarts hstarted).bind fun v t g hgrown hv => ?_
    have hended := (hguarded.tracked t g hv.1).complete (hstartedIn.mono hgrown) (hguarded.get_put _ t)
      (hguarded.stays_known n v _ _ hv.2) fun n v => hguarded.stays_known n v _ _
    have hlater : StartedIn get gives n (epoch gives h) (.changed t (put ((get t).complete n v) t) :: g) :=
      .inr (hstartedIn.mono hgrown)
    exact proceeds_awaitBuild hguarded (hguarded.change _ t g hv.1 hended) hlater (Nat.le_refl _)
  refine (Program.proceeds_changing _ _ _ s h).2 ?_
  dsimp only
  cases hphase : (get s).phase with
  | ready v =>
      have hclaim := Deferred.claim_ready hphase
      rw [hclaim] at hunbuilt ⊢
      obtain ⟨n, hstarted, hended, hknown⟩ := htracked.ready v hphase
      exact ⟨hunbuilt rfl, n, _, Nat.le_of_eq hepoch.symm, .inr hstarted, .inr hended,
        hguarded.stays_known n v _ _ hknown⟩
  | building n =>
      have hclaim := Deferred.claim_building hphase
      rw [hclaim] at hunbuilt ⊢
      have hstarted := htracked.building n hphase
      exact proceeds_awaitBuild hguarded (hunbuilt rfl) (.inr hstarted) (Nat.le_of_eq hepoch.symm)
  | unbuilt =>
      have hclaim := congrArg Prod.fst (Deferred.claim_unbuilt (.inl hphase))
      rw [hclaim]
      exact hbuilt _ hclaim
  | invalidated =>
      have hclaim := congrArg Prod.fst (Deferred.claim_unbuilt (.inr hphase))
      rw [hclaim]
      exact hbuilt _ hclaim

end Callers

end PlaybookServer.Effect

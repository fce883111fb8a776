/-
Module: PlaybookServer.Proofs.Server.Supersession
Purpose: Which requests for completion are answered, where requests and the closing of documents come in any order and
  requests wait for the module library. A request holds the ticket of its document until a newer request for the same
  document comes or the document is closed; its ticket is then cancelled, and if it still waits for its library it
  will answer null. Messages about other documents leave it alone.
Main exports: Message, Issues, Superseded, Marks.Sound, Counted, Served, superseded_requests_answer_null
-/
import PlaybookServer.Proofs.Server.Publication
import PlaybookServer.Proofs.Server.Requests

namespace PlaybookServer.Server

open Effect

/-! ### Messages -/

/-- A message that concerns the completions of a document. -/
inductive Message where
  | completion (p : CompletionParams)
  | closed (doc : Url)

namespace Message

/-- The document that a message is about. -/
def uri : Message → Url
  | .completion p => p.uri
  | .closed doc => doc

/-- What the server does on a message. -/
def handle : Message → Program State Json
  | .completion p => handleCompletion p
  | .closed doc => do
    handleClose doc
    return .null

end Message

/-- Closing a document cancels the ticket that is stored for it; what is left of the handler publishes only. -/
theorem started_closed {sch : Schedule Unit} {s s' : State} {rest : Program State Json} {doc : Url}
    (run : Advances sch (Message.closed doc).handle s () rest s' ()) :
    s'.marks = s.marks.close doc ∧ rest.Spares State.marks := by
  have hhandle : (Message.closed doc).handle =
      (changing fun (s : State) => s.closeDocument doc) >>= fun stale => clearAll stale >>= fun _ => pure .null :=
    Program.bind_assoc _ _ _
  rw [hhandle] at run
  exact run.of_changing.spares ((spares_publishAll _).bind fun _ _ => Program.within_pure _)

/-! ### Tickets -/

/-- A request took a ticket for a document when it was started. -/
def Issues (begun : Start State Message) (doc : Url) (ticket : Nat) : Prop :=
  (∃ p, begun.message = .completion p ∧ p.uri = doc) ∧ begun.found.tickets = ticket ∧
    begun.left.tickets = ticket + 1

/-- After a message another one came that is about a document. -/
def Superseded (starts : List (Start State Message)) (i : Nat) (doc : Url) : Prop :=
  ∃ j begun, i < j ∧ starts[j]? = some begun ∧ begun.message.uri = doc

theorem superseded_concat {starts : List (Start State Message)} {begun : Start State Message} {i : Nat} {doc : Url} :
    Superseded (starts ++ [begun]) i doc ↔
      Superseded starts i doc ∨ i < starts.length ∧ begun.message.uri = doc := by
  constructor
  · rintro ⟨j, b, hij, hb, hdoc⟩
    rcases Traffic.getElem?_concat hb with ⟨rfl, rfl⟩ | hb
    · exact .inr ⟨hij, hdoc⟩
    · exact .inl ⟨j, b, hij, hb, hdoc⟩
  · rintro (⟨j, b, hij, hb, hdoc⟩ | ⟨hi, hdoc⟩)
    · obtain ⟨hj, -⟩ := List.getElem?_eq_some_iff.1 hb
      exact ⟨j, b, hij, (List.getElem?_append_left hj).trans hb, hdoc⟩
    · exact ⟨starts.length, begun, hi, List.getElem?_concat_length, hdoc⟩

namespace Marks

/-- The tickets that are stored were given out, one for each document at most, and are not cancelled; documents that
    have one are served. -/
structure Sound (m : Marks) : Prop where
  stored : ∀ doc ticket, Table.get? m.completions doc = some ticket →
    ticket < m.tickets ∧ ticket ∉ m.cancelled ∧ m.Serves doc
  distinct : ∀ doc doc' ticket, Table.get? m.completions doc = some ticket →
    Table.get? m.completions doc' = some ticket → doc = doc'
  cancelled_lt : ∀ ticket ∈ m.cancelled, ticket < m.tickets

/-- A message about a document cancels the ticket that is stored for it, and those of other documents stay. -/
structure Supersedes (doc : Url) (m m' : Marks) : Prop where
  tickets_le : m.tickets ≤ m'.tickets
  cancelled : ∀ ticket, ticket ∈ m'.cancelled ↔ Table.get? m.completions doc = some ticket ∨ ticket ∈ m.cancelled
  others : ∀ o, o ≠ doc → Table.get? m'.completions o = Table.get? m.completions o

theorem take_supersedes (m : Marks) (doc : Url) : Supersedes doc m (m.take doc) where
  tickets_le := Nat.le_succ _
  cancelled ticket := by simp [take]
  others o ho := (Table.get?_set ..).trans (if_neg ho)

theorem close_supersedes (m : Marks) (doc : Url) : Supersedes doc m (m.close doc) where
  tickets_le := Nat.le_refl _
  cancelled ticket := by simp [close]
  others o ho := (Table.get?_erase ..).trans (if_neg ho)

/-- For a document that is not served no ticket is stored. -/
theorem Sound.supersedes_self {m : Marks} (h : m.Sound) {doc : Url} (hserves : ¬ m.Serves doc) :
    Supersedes doc m m where
  tickets_le := Nat.le_refl _
  cancelled ticket := by
    refine ⟨.inr, fun hticket => hticket.resolve_left fun hstored => ?_⟩
    exact hserves (h.stored doc ticket hstored).2.2
  others o _ := rfl

/-- What was stored for another document is not cancelled by a message. -/
theorem Sound.notMem_cancelled {m m' : Marks} (h : m.Sound) {doc o : Url} (hm : Supersedes doc m m') (ho : o ≠ doc)
    {ticket : Nat} (hstored : Table.get? m.completions o = some ticket) : ticket ∉ m'.cancelled := by
  rw [hm.cancelled]
  rintro (hsame | hcancelled)
  · exact ho (h.distinct o doc ticket hstored hsame)
  · exact (h.stored o ticket hstored).2.1 hcancelled

theorem Sound.take {m : Marks} (h : m.Sound) {doc : Url} (hserves : m.Serves doc) : (m.take doc).Sound := by
  have hm := take_supersedes m doc
  -- the ticket that is given out now is larger than any that is stored or cancelled
  have hnew : m.tickets ∉ (m.take doc).cancelled := by
    rw [hm.cancelled]
    rintro (hstored | hcancelled)
    · exact Nat.lt_irrefl _ (h.stored doc _ hstored).1
    · exact Nat.lt_irrefl _ (h.cancelled_lt _ hcancelled)
  have hget (o : Url) : Table.get? (m.take doc).completions o =
      if o = doc then some m.tickets else Table.get? m.completions o := Table.get?_set ..
  refine ⟨fun o ticket hstored => ?_, fun o o' ticket hstored hstored' => ?_, fun ticket hticket => ?_⟩
  · rw [hget] at hstored
    split at hstored
    next ho =>
        obtain rfl := Option.some.inj hstored
        exact ⟨Nat.lt_succ_self _, hnew, ho ▸ hserves⟩
    next ho =>
        obtain ⟨hlt, -, hopen⟩ := h.stored o ticket hstored
        exact ⟨Nat.lt_succ_of_lt hlt, h.notMem_cancelled hm ho hstored, hopen⟩
  · rw [hget] at hstored hstored'
    split at hstored <;> split at hstored'
    next ho ho' => exact ho.trans ho'.symm
    next =>
        obtain rfl := Option.some.inj hstored
        exact absurd (h.stored o' _ hstored').1 (Nat.lt_irrefl _)
    next =>
        obtain rfl := Option.some.inj hstored'
        exact absurd (h.stored o _ hstored).1 (Nat.lt_irrefl _)
    next => exact h.distinct o o' ticket hstored hstored'
  · rcases (hm.cancelled ticket).1 hticket with hstored | hcancelled
    · exact Nat.lt_succ_of_lt (h.stored doc ticket hstored).1
    · exact Nat.lt_succ_of_lt (h.cancelled_lt ticket hcancelled)

theorem Sound.close {m : Marks} (h : m.Sound) (doc : Url) : (m.close doc).Sound := by
  have hm := close_supersedes m doc
  have hget (o : Url) : Table.get? (m.close doc).completions o =
      if o = doc then none else Table.get? m.completions o := Table.get?_erase ..
  have hkept {o : Url} {ticket : Nat} (hstored : Table.get? (m.close doc).completions o = some ticket) :
      o ≠ doc ∧ Table.get? m.completions o = some ticket := by
    rw [hget] at hstored
    split at hstored
    next => cases hstored
    next ho => exact ⟨ho, hstored⟩
  refine ⟨fun o ticket hstored => ?_, fun o o' ticket hstored hstored' => ?_, fun ticket hticket => ?_⟩
  · obtain ⟨ho, hstored⟩ := hkept hstored
    obtain ⟨hlt, -, hopen, hfolder⟩ := h.stored o ticket hstored
    refine ⟨hlt, h.notMem_cancelled hm ho hstored, ?_, hfolder⟩
    exact (congrArg Option.isSome ((Table.get?_erase m.documents doc o).trans (if_neg ho))).trans hopen
  · exact h.distinct o o' ticket (hkept hstored).2 (hkept hstored').2
  · rcases (hm.cancelled ticket).1 hticket with hstored | hcancelled
    · exact (h.stored doc ticket hstored).1
    · exact h.cancelled_lt ticket hcancelled

end Marks

/-- Of every ticket that a request took: it is stored for the document, or a later message about the document came and
    it is cancelled. -/
def Issued (starts : List (Start State Message)) (m : Marks) : Prop :=
  ∀ i begun doc ticket, starts[i]? = some begun → Issues begun doc ticket → ticket < m.tickets ∧
    (Superseded starts i doc ∧ ticket ∈ m.cancelled ∨
      ¬ Superseded starts i doc ∧ Table.get? m.completions doc = some ticket)

theorem Issued.concat {starts : List (Start State Message)} {m m' : Marks} (h : Issued starts m)
    {begun : Start State Message} (hm : Marks.Supersedes begun.message.uri m m')
    (hnew : ∀ doc ticket, Issues begun doc ticket → ticket < m'.tickets ∧ Table.get? m'.completions doc = some ticket) :
    Issued (starts ++ [begun]) m' := by
  intro i b doc ticket hb hissues
  rcases Traffic.getElem?_concat hb with ⟨rfl, rfl⟩ | hb
  · -- nothing came after the message yet
    obtain ⟨hlt, hstored⟩ := hnew doc ticket hissues
    refine ⟨hlt, .inr ⟨?_, hstored⟩⟩
    rw [superseded_concat]
    rintro (⟨j, b', hj, hb', -⟩ | ⟨hlt, -⟩)
    · obtain ⟨hj', -⟩ := List.getElem?_eq_some_iff.1 hb'
      omega
    · exact Nat.lt_irrefl _ hlt
  · obtain ⟨hi, -⟩ := List.getElem?_eq_some_iff.1 hb
    obtain ⟨hlt, hthen⟩ := h i b doc ticket hb hissues
    refine ⟨Nat.lt_of_lt_of_le hlt hm.tickets_le, ?_⟩
    rw [superseded_concat, hm.cancelled]
    -- an older ticket stays cancelled, and a stored one is cancelled if the message is about its document
    rcases hthen with ⟨hsuperseded, hcancelled⟩ | ⟨hlast, hstored⟩
    · exact .inl ⟨.inl hsuperseded, .inr hcancelled⟩
    · by_cases hdoc : begun.message.uri = doc
      · exact .inl ⟨.inr ⟨hi, hdoc⟩, .inl (hdoc ▸ hstored)⟩
      · refine .inr ⟨fun hsuperseded => ?_, (hm.others doc (Ne.symm hdoc)).trans hstored⟩
        rcases hsuperseded with hsuperseded | ⟨-, hsame⟩
        · exact hlast hsuperseded
        · exact hdoc hsame

/-! ### Traffic -/

section Traffic

variable {sch : Schedule Unit} {traffic traffic' : Traffic State Message Json}

/-- What traffic keeps: what is left of its programs leaves the marks alone, and tickets are where they should be. -/
structure Counted (traffic : Traffic State Message Json) : Prop where
  spares : ∀ (i : Nat) (begun : Start State Message) (rest : Program State Json),
    traffic.tasks[i]? = some (begun, rest) → rest.Spares State.marks
  sound : traffic.state.marks.Sound
  issued : Issued traffic.starts traffic.state.marks

/-- What a message does to the marks: it is about a document whose stored ticket is cancelled, and if it takes one, that
    is stored now. -/
theorem started_marks {m : Message} {s s' : State} {rest : Program State Json} (hsound : s.marks.Sound)
    (run : Advances sch m.handle s () rest s' ()) :
    rest.Spares State.marks ∧ s'.marks.Sound ∧ Marks.Supersedes m.uri s.marks s'.marks ∧
      ∀ doc ticket, Issues ⟨m, s, s'⟩ doc ticket →
        ticket < s'.marks.tickets ∧ Table.get? s'.marks.completions doc = some ticket := by
  cases m with
  | completion p =>
      rcases started_completion run with ⟨hserves, hmarks, rfl⟩ | ⟨hserves, hmarks, text, n, t, -, -, run⟩
      · rw [hmarks]
        refine ⟨Program.within_pure _, hsound, hsound.supersedes_self hserves, fun doc ticket hissues => ?_⟩
        obtain ⟨-, hfound, hleft⟩ := hissues
        have htickets : s'.tickets = s.tickets := congrArg Marks.tickets hmarks
        dsimp only at hfound hleft
        omega
      · rw [hmarks]
        refine ⟨(run.spares (spares_requestWith p text n _)).2, hsound.take hserves, Marks.take_supersedes _ _, ?_⟩
        rintro doc ticket ⟨⟨q, hq, rfl⟩, rfl, -⟩
        obtain rfl := Message.completion.inj hq
        exact ⟨Nat.lt_succ_self _, (Table.get?_set ..).trans (if_pos rfl)⟩
  | closed doc =>
      obtain ⟨hmarks, hspares⟩ := started_closed run
      rw [hmarks]
      refine ⟨hspares, hsound.close doc, Marks.close_supersedes _ _, fun o ticket hissues => ?_⟩
      obtain ⟨⟨q, hq, -⟩, -⟩ := hissues
      cases hq

theorem Counted.step (h : Counted traffic) (move : Traffic.Step sch Message.handle traffic traffic') :
    Counted traffic' := by
  cases move with
  | @start s s' rest tasks m run =>
      obtain ⟨hspares, hsound, hm, hnew⟩ := started_marks h.sound run
      refine ⟨fun i begun rest' hrest => ?_, hsound, ?_⟩
      · rcases Traffic.getElem?_concat hrest with ⟨-, heq⟩ | hold
        · obtain ⟨-, rfl⟩ := Prod.mk.inj heq
          exact hspares
        · exact h.spares i begun rest' hold
      · have hstarts : (⟨s', tasks ++ [(⟨m, s, s'⟩, rest)]⟩ : Traffic State Message Json).starts =
            (⟨s, tasks⟩ : Traffic State Message Json).starts ++ [⟨m, s, s'⟩] := by simp [Traffic.starts]
        rw [hstarts]
        exact h.issued.concat hm hnew
  | @resume s s' rest rest' before after begun run =>
      have hold : (before ++ (begun, rest) :: after)[before.length]? = some (begun, rest) := by simp
      obtain ⟨hmarks, hspares⟩ := run.spares (h.spares _ _ _ hold)
      refine ⟨fun i b r hr => ?_, ?_, ?_⟩
      · rcases Traffic.getElem?_tasks_replace hr with ⟨-, -, rfl⟩ | hr
        · exact hspares
        · exact h.spares i b r hr
      · rw [hmarks]
        exact h.sound
      · rw [Traffic.starts_replace, hmarks]
        exact h.issued

theorem Counted.reaches (h : Counted traffic) (reached : Traffic.Reaches sch Message.handle traffic traffic') :
    Counted traffic' := by
  induction reached with
  | refl => exact h
  | tail reached move ih => exact ih.step move

/-- A ticket that is cancelled stays cancelled. -/
theorem Counted.cancelled_subset (h : Counted traffic) (move : Traffic.Step sch Message.handle traffic traffic') :
    traffic.state.cancelled ⊆ traffic'.state.cancelled := by
  cases move with
  | start tasks m run =>
      obtain ⟨-, -, hm, -⟩ := started_marks h.sound run
      exact fun ticket hticket => (hm.cancelled ticket).2 (.inr hticket)
  | @resume s s' rest rest' before after begun run =>
      have hold : (before ++ (begun, rest) :: after)[before.length]? = some (begun, rest) := by simp
      have hsame : s'.cancelled = s.cancelled := cancelled_eq (run.spares (h.spares _ _ _ hold)).1
      exact fun ticket hticket => hsame.symm ▸ hticket

/-- What a request has come to: it was turned down, or it took a ticket and stands with it. If files are seen without
    interruption it waits for its library or has answered. -/
def Served (sch : Schedule Unit) (cancelled : List Nat) (begun : Start State Message) (p : CompletionParams)
    (rest : Program State Json) : Prop :=
  (¬ begun.found.marks.Serves p.uri ∧ rest = .done .null) ∨
  (begun.found.marks.Serves p.uri ∧ begun.left.tickets = begun.found.tickets + 1 ∧
    ∃ text n, Table.get? begun.found.documents p.uri = some text ∧
      Standing p text n begun.found.tickets cancelled rest ∧
      (sch.suspends .seeFiles = false →
        AwaitsLibrary p text n begun.found.tickets rest ∨ ∃ v, rest = .done v))

theorem Served.mono {cancelled cancelled' : List Nat} {begun : Start State Message} {p : CompletionParams}
    {rest : Program State Json} (h : Served sch cancelled begun p rest) (hsub : cancelled ⊆ cancelled') :
    Served sch cancelled' begun p rest := by
  rcases h with hnot | ⟨hserves, hticket, text, n, htext, hstands, hwaits⟩
  · exact .inl hnot
  · exact .inr ⟨hserves, hticket, text, n, htext, hstands.mono hsub, hwaits⟩

theorem served_of_started {p : CompletionParams} {s s' : State} {rest : Program State Json}
    (run : Advances sch (handleCompletion p) s () rest s' ()) :
    Served sch s'.cancelled ⟨.completion p, s, s'⟩ p rest := by
  rcases started_completion run with ⟨hserves, -, rfl⟩ | ⟨hserves, hmarks, text, n, t, htext, ht, run⟩
  · exact .inl ⟨hserves, rfl⟩
  · have hsame : t.cancelled = s'.cancelled := cancelled_eq (ht.trans hmarks.symm)
    refine .inr ⟨hserves, congrArg Marks.tickets hmarks, text, n, htext, ?_, fun hfiles => ?_⟩
    · exact hsame ▸ (moves_of_awaiting (.start _) run).stands
    · exact awaits_or_done_of_awaiting hfiles (.start _) run

theorem Served.resume {begun : Start State Message} {p : CompletionParams} {s s' : State}
    {rest rest' : Program State Json} (h : Served sch s.cancelled begun p rest)
    (run : Resumes sch rest s () rest' s' ()) : Served sch s.cancelled begun p rest' := by
  rcases h with ⟨-, rfl⟩ | ⟨hserves, hticket, text, n, htext, hstands, hwaits⟩
  · cases run
  · refine .inr ⟨hserves, hticket, text, n, htext, hstands.resume run, fun hfiles => ?_⟩
    rcases hwaits hfiles with hwaits | ⟨v, rfl⟩
    · exact hwaits.resume hfiles run
    · cases run

/-- Every request has come to something. -/
def AllServed (sch : Schedule Unit) (traffic : Traffic State Message Json) : Prop :=
  ∀ (i : Nat) (begun : Start State Message) (rest : Program State Json) (p : CompletionParams),
    traffic.tasks[i]? = some (begun, rest) → begun.message = .completion p →
    Served sch traffic.state.cancelled begun p rest

theorem AllServed.step (h : AllServed sch traffic) (hcounted : Counted traffic)
    (move : Traffic.Step sch Message.handle traffic traffic') : AllServed sch traffic' := by
  have hsub := hcounted.cancelled_subset move
  intro i begun rest p hrest hp
  cases move with
  | start tasks m run =>
      rcases Traffic.getElem?_concat hrest with ⟨-, heq⟩ | hold
      · obtain ⟨rfl, rfl⟩ := Prod.mk.inj heq
        obtain rfl : m = .completion p := hp
        exact served_of_started run
      · exact (h i begun rest p hold hp).mono hsub
  | resume before after b run =>
      rcases Traffic.getElem?_tasks_replace hrest with ⟨-, rfl, rfl⟩ | hold
      · exact ((h before.length begun _ p (by simp) hp).resume run).mono hsub
      · exact (h i begun rest p hold hp).mono hsub

/-- A request that waits for its library when its ticket is cancelled will not find it valid. If files are seen without
    interruption it goes on waiting until it answers null. -/
theorem awaits_or_null_of_reaches {p : CompletionParams} {text : String} {n ticket i : Nat}
    {begun : Start State Message} {rest : Program State Json} (hcounted : Counted traffic)
    (hrest : traffic.tasks[i]? = some (begun, rest)) (hawaits : AwaitsLibrary p text n ticket rest)
    (hcancelled : ticket ∈ traffic.state.cancelled)
    (reached : Traffic.Reaches sch Message.handle traffic traffic') :
    ticket ∈ traffic'.state.cancelled ∧ ∃ rest', traffic'.tasks[i]? = some (begun, rest') ∧
      (Pending p text n ticket rest' ∨ rest' = .done .null) ∧
      (sch.suspends .seeFiles = false → AwaitsLibrary p text n ticket rest' ∨ rest' = .done .null) := by
  induction reached with
  | refl => exact ⟨hcancelled, rest, hrest, .inl (.awaiting hawaits), fun _ => .inl hawaits⟩
  | @tail middle last reached move ih =>
      obtain ⟨hcancelled, rest, hrest, hpending, hawaits⟩ := ih
      refine ⟨(hcounted.reaches reached).cancelled_subset move hcancelled, ?_⟩
      cases move with
      | start tasks m run =>
          obtain ⟨hi, -⟩ := List.getElem?_eq_some_iff.1 hrest
          exact ⟨rest, (List.getElem?_append_left hi).trans hrest, hpending, hawaits⟩
      | @resume s s' r r' before after b run =>
          by_cases hi : i = before.length
          · subst hi
            have hr : (before ++ (b, r) :: after)[before.length]? = some (b, r) := by simp
            obtain ⟨rfl, rfl⟩ := Prod.mk.inj (Option.some.inj (hr.symm.trans hrest))
            have hpending : Pending p text n ticket r' ∨ r' = .done .null := by
              rcases hpending with hpending | rfl
              · -- the ticket was cancelled before, so the request does not find it valid
                cases hpending.resume run with
                | pending h => exact .inl h
                | unwanted => exact .inr rfl
                | wanted h => exact absurd hcancelled h
              · cases run
            refine ⟨r', by simp, hpending, fun hfiles => ?_⟩
            rcases hawaits hfiles with hawaits | rfl
            · rcases hawaits.resume hfiles run with hawaits | ⟨v, rfl⟩
              · exact .inl hawaits
              · exact .inr (hpending.resolve_left fun h => h.ne_done v rfl)
            · cases run
          · exact ⟨rest, (getElem?_replace hi).trans hrest, hpending, hawaits⟩

/-- A server that was given no requests keeps no tickets. -/
theorem counted_fresh {s : State} (hcompletions : s.completions = []) (hcancelled : s.cancelled = []) :
    Counted ⟨s, []⟩ where
  spares i begun rest h := by simp at h
  sound := by
    have hnone (doc : Url) : Table.get? s.marks.completions doc = none := by
      show Table.get? s.completions doc = none
      rw [hcompletions, Table.get?_nil]
    refine ⟨fun doc ticket h => ?_, fun doc _ ticket h => ?_, fun ticket h => ?_⟩
    · cases (hnone doc).symm.trans h
    · cases (hnone doc).symm.trans h
    · rw [State.marks, hcancelled] at h
      cases h
  issued i begun doc ticket h := by simp [Traffic.starts] at h

theorem allServed_of_reaches {s : State} (hfresh : Counted ⟨s, []⟩)
    (reached : Traffic.Reaches sch Message.handle ⟨s, []⟩ traffic) : AllServed sch traffic := by
  induction reached with
  | refl =>
      intro i begun rest p h
      simp at h
  | tail reached move ih => exact ih.step (hfresh.reaches reached) move

/-- Requests for completion and the closing of documents come in any order and take turns in any order. A ticket that a
    request took is stored for its document as long as no later message is about the document, and is cancelled from
    then on. A document that is not open or has no folder is served null at once. Another request, where files are seen
    without interruption, waits for its library or has answered. If a later message about its document came while it
    waited, it goes on waiting until it answers null. If none came before it answered, it answered with the candidates
    for its document's text when it came. -/
theorem superseded_requests_answer_null {s : State} (hcompletions : s.completions = []) (hcancelled : s.cancelled = [])
    (h : Traffic.Reaches sch Message.handle ⟨s, []⟩ traffic) :
    (∀ i begun doc ticket, traffic.starts[i]? = some begun → Issues begun doc ticket →
      (ticket ∈ traffic.state.cancelled ↔ Superseded traffic.starts i doc) ∧
      (ticket ∉ traffic.state.cancelled ↔ Table.get? traffic.state.completions doc = some ticket)) ∧
    ∀ i begun rest p, traffic.tasks[i]? = some (begun, rest) → begun.message = .completion p →
      (¬ begun.found.marks.Serves p.uri → rest = .done .null) ∧
      (begun.found.marks.Serves p.uri → Issues begun p.uri begun.found.tickets ∧
        ∃ text n, Table.get? begun.found.documents p.uri = some text ∧
          (sch.suspends .seeFiles = false →
            AwaitsLibrary p text n begun.found.tickets rest ∨ ∃ v, rest = .done v) ∧
          (AwaitsLibrary p text n begun.found.tickets rest → Superseded traffic.starts i p.uri →
            ∀ later, Traffic.Reaches sch Message.handle traffic later →
              ∃ rest', later.tasks[i]? = some (begun, rest') ∧ (∀ v, rest' = .done v → v = .null) ∧
                (sch.suspends .seeFiles = false →
                  AwaitsLibrary p text n begun.found.tickets rest' ∨ rest' = .done .null)) ∧
          ∀ v, rest = .done v → ¬ Superseded traffic.starts i p.uri →
            ∃ request, About p text request ∧ v = replyWith p.uri (Completion.complete request)) := by
  have hfresh := counted_fresh hcompletions hcancelled
  have hcounted := hfresh.reaches h
  have hserved := allServed_of_reaches hfresh h
  have htickets (i : Nat) (begun : Start State Message) (doc : Url) (ticket : Nat)
      (hbegun : traffic.starts[i]? = some begun) (hissues : Issues begun doc ticket) :
      (ticket ∈ traffic.state.cancelled ↔ Superseded traffic.starts i doc) ∧
      (ticket ∉ traffic.state.cancelled ↔ Table.get? traffic.state.completions doc = some ticket) := by
    obtain ⟨-, hthen⟩ := hcounted.issued i begun doc ticket hbegun hissues
    have hstored (hget : Table.get? traffic.state.completions doc = some ticket) :
        ticket ∉ traffic.state.cancelled := (hcounted.sound.stored doc ticket hget).2.1
    rcases hthen with ⟨hsuperseded, hcancelled⟩ | ⟨hlast, hget⟩
    · exact ⟨⟨fun _ => hsuperseded, fun _ => hcancelled⟩, fun h => absurd hcancelled h, hstored⟩
    · have hvalid := hstored hget
      exact ⟨⟨fun h => absurd h hvalid, fun h => absurd h hlast⟩, fun _ => hget, fun _ => hvalid⟩
  refine ⟨htickets, fun i begun rest p hrest hp => ?_⟩
  rcases hserved i begun rest p hrest hp with ⟨hnot, hdone⟩ | ⟨hserves, hticket, text, n, htext, hstands, hwaits⟩
  · exact ⟨fun _ => hdone, fun hserves => absurd hserves hnot⟩
  · have hissues : Issues begun p.uri begun.found.tickets := ⟨⟨p, hp, rfl⟩, rfl, hticket⟩
    obtain ⟨hcancelled, -⟩ := htickets i begun p.uri _ (Traffic.getElem?_starts hrest) hissues
    refine ⟨fun hnot => absurd hserves hnot, fun _ => ⟨hissues, text, n, htext, hwaits, ?superseded, ?wanted⟩⟩
    case superseded =>
        intro hawaits hsuperseded later hlater
        obtain ⟨-, rest', hrest', hpending, hthen⟩ := awaits_or_null_of_reaches hcounted hrest hawaits
          (hcancelled.2 hsuperseded) hlater
        refine ⟨rest', hrest', ?_, hthen⟩
        rintro v rfl
        rcases hpending with hpending | hnull
        · exact absurd rfl (hpending.ne_done v)
        · exact Program.done.inj hnull
    case wanted =>
        rintro v rfl hlast
        cases hstands with
        | pending h => exact absurd rfl (h.ne_done v)
        | unwanted h => exact absurd (hcancelled.1 h) hlast
        | wanted h => exact h.of_done

end Traffic

/-- Commands take time, nothing else does. -/
def onlyCommandsHold : Schedule Unit where
  suspends
    | .run _ => true
    | _ => false
  note _ w := w

/-- The document of a folder is open, and no request was made. -/
def siteOpen : State := { oneFolder with documents := [(site, "")] }

/-- A request for completion at the start of the document. -/
def siteRequest : CompletionParams := ⟨site, ⟨0, 0⟩⟩

/-- Two requests come for one document. The first is held by a command of the library's build, and its ticket is
    cancelled; the second waits for that build. The first goes on waiting for the library until it answers null. -/
theorem superseded_request_for_site : siteOpen.completions = [] ∧ siteOpen.cancelled = [] ∧
    ∃ traffic : Traffic State Message Json, Traffic.Reaches onlyCommandsHold Message.handle ⟨siteOpen, []⟩ traffic ∧
      traffic.state.cancelled = [0] ∧ Table.get? traffic.state.completions site = some 1 ∧
      ∃ n, ∀ later, Traffic.Reaches onlyCommandsHold Message.handle traffic later →
        ∃ begun rest, later.tasks[0]? = some (begun, rest) ∧ begun.message = .completion siteRequest ∧
          (AwaitsLibrary siteRequest "" n 0 rest ∨ rest = .done .null) := by
  obtain ⟨first, s₁, hfirst, hheld, second, s₂, hsecond, hcancelled, hstored⟩ : ∃ first s₁,
      Advances onlyCommandsHold (Message.completion siteRequest).handle siteOpen () first s₁ () ∧
      (∀ v, first ≠ .done v) ∧ ∃ second s₂,
      Advances onlyCommandsHold (Message.completion siteRequest).handle s₁ () second s₂ () ∧
        s₂.cancelled = [0] ∧ Table.get? s₂.completions site = some 1 := by
    refine ⟨?first, ?s₁, ?hfirst, ?hheld, ?second, ?s₂, ?hsecond, ?hcancelled, ?hstored⟩
    case hfirst =>
        -- the text, then the context, the ticket, the library that is not there, and the tools' paths for it
        refine .look ?_
        iterate 4 refine .look (.change ?_)
        iterate 2 refine .look ?_
        refine .held _ _ _ ?_
        rfl
    case hheld => exact nofun
    case hsecond =>
        -- the library is being built
        refine .look ?_
        iterate 3 refine .look (.change ?_)
        exact .waits ..
    case hcancelled => rfl
    case hstored => rfl
  have reached : Traffic.Reaches onlyCommandsHold Message.handle ⟨siteOpen, []⟩
      ⟨s₂, [] ++ [(⟨.completion siteRequest, siteOpen, s₁⟩, first)] ++ [(⟨.completion siteRequest, s₁, s₂⟩, second)]⟩ :=
    .tail (.single (.start [] _ hfirst)) (.start _ _ hsecond)
  refine ⟨rfl, rfl, _, reached, hcancelled, hstored, ?_⟩
  obtain ⟨-, hrequests⟩ := superseded_requests_answer_null rfl rfl reached
  obtain ⟨-, hserved⟩ := hrequests 0 _ first siteRequest rfl rfl
  obtain ⟨-, text, n, htext, hwaits, hsuperseded, -⟩ := hserved ⟨rfl, rfl⟩
  obtain rfl : "" = text := Option.some.inj htext
  have hawaits := (hwaits rfl).resolve_right fun ⟨v, hv⟩ => hheld v hv
  refine ⟨n, fun later hlater => ?_⟩
  obtain ⟨rest, hrest, -, hthen⟩ := hsuperseded hawaits ⟨1, _, Nat.one_pos, rfl, rfl⟩ later hlater
  exact ⟨_, rest, hrest, rfl, hthen rfl⟩

end PlaybookServer.Server

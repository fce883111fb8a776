/-
Module: PlaybookServer.Proofs.Server.Requests
Purpose: How far a request for completion has come that is held up on its way. It takes a ticket and waits for the
  module library, then it gathers what else it needs, and looks at its ticket once: if the ticket is cancelled it
  answers null, else its candidates. Only taking the ticket changes what decides over completions.
Main exports: Marks, handleCompletion_eq, AwaitsLibrary, Pending, Answering, Standing, started_completion
-/
import PlaybookServer.Proofs.Effect.Traffic
import PlaybookServer.Proofs.Workspace.Routing
import PlaybookServer.Server.Handlers

namespace PlaybookServer.Server

open Effect

/-! ### Marks -/

/-- What decides over completions: the tickets and what is known of documents. -/
structure Marks where
  completions : Table Url Nat
  tickets : Nat
  cancelled : List Nat
  documents : Table Url String
  folders : List Workspace.Folder

/-- The marks of a state. -/
def State.marks (s : State) : Marks := ⟨s.completions, s.tickets, s.cancelled, s.documents, s.workspace.folders⟩

namespace Marks

/-- A document is open and has a folder. -/
def Serves (m : Marks) (doc : Url) : Prop :=
  (Table.get? m.documents doc).isSome = true ∧ (Workspace.folderFor? m.folders doc).isSome = true

/-- A ticket is taken for a document. -/
def take (m : Marks) (doc : Url) : Marks :=
  { m with
    tickets := m.tickets + 1
    cancelled := (Table.get? m.completions doc).toList ++ m.cancelled
    completions := Table.set m.completions doc m.tickets }

/-- A document is closed. -/
def close (m : Marks) (doc : Url) : Marks :=
  { m with
    documents := Table.erase m.documents doc
    cancelled := (Table.get? m.completions doc).toList ++ m.cancelled
    completions := Table.erase m.completions doc }

end Marks

/-! ### The parts of a request -/

/-- A program of a context, run by the server. -/
def atContext {α : Type} (n : Nat) (p : Program Workspace.Context α) : Program State α :=
  inWorkspace (Workspace.inContext n p)

/-- What is gathered for a request once the library is there. -/
def gather (p : CompletionParams) (text : String) (library : Docs.Library) :
    Program Workspace.Context Completion.Request := do
  let settings ← Effect.look fun (c : Workspace.Context) => c.settings
  let roleCollections ← Workspace.Context.roleCollections p.uri
  let fs ← seeFiles
  return { uri := p.uri, text, position := p.position, settings, library, roleCollections, fs }

/-- The reply to a request that has candidates, or none. -/
def replyWith (doc : Url) : Option (List Completion.Candidate) → Json
  | some cs => .array (cs.map (itemObject doc))
  | none => .null

/-- The candidates of a request, unless its ticket is cancelled. -/
def answerIfWanted (doc : Url) (n ticket : Nat) (r : Completion.Request) : Program State Json := do
  if ← Effect.look fun (s : State) => s.cancelled.contains ticket then return .null
  match ← atContext n (Workspace.completeRequest r) with
  | some cs => return .array (cs.map (itemObject doc))
  | none => return .null

/-- A request with a ticket: it takes the library, gathers what it needs, and looks at its ticket. -/
def requestWith (p : CompletionParams) (text : String) (n ticket : Nat) : Program State Json :=
  atContext n Workspace.library >>= fun library =>
    atContext n (gather p text library) >>= answerIfWanted p.uri n ticket

theorem bind_atContext {α β : Type} (n : Nat) (p : Program Workspace.Context α)
    (f : α → Program Workspace.Context β) :
    atContext n (p >>= f) = atContext n p >>= fun v => atContext n (f v) := by
  rw [atContext, Workspace.inContext, Program.zoom_bind, inWorkspace, Program.zoom_bind]
  rfl

theorem requestWith_eq (p : CompletionParams) (text : String) (n ticket : Nat) : requestWith p text n ticket =
    atContext n (Workspace.completionRequest p.uri text p.position) >>= answerIfWanted p.uri n ticket := by
  have hrequest : Workspace.completionRequest p.uri text p.position = Workspace.library >>= gather p text := rfl
  rw [hrequest, bind_atContext, Program.bind_assoc, requestWith]

/-- A request for a document that is not open, or has no folder, is turned down; another one takes a ticket. -/
theorem handleCompletion_eq (p : CompletionParams) : handleCompletion p =
    (Effect.look fun (s : State) => Table.get? s.documents p.uri) >>= fun
      | none => pure .null
      | some text => contextFor p.uri >>= fun
        | none => pure .null
        | some n => (changing fun (s : State) => s.newTicket p.uri) >>= requestWith p text n := by
  have hrequest (text : String) (n : Nat) : requestWith p text n = fun ticket =>
      atContext n (Workspace.completionRequest p.uri text p.position) >>= answerIfWanted p.uri n ticket :=
    funext fun ticket => requestWith_eq p text n ticket
  simp only [hrequest]
  rfl

/-! ### What the parts leave alone -/

theorem spares_atContext {α : Type} (n : Nat) (p : Program Workspace.Context α) :
    (atContext n p).Spares State.marks := by
  have hfolders : (Workspace.inContext n p).Spares fun w => w.folders :=
    Program.within_zoom (Program.within_anything p) (fun _ _ => trivial) fun _ _ _ => rfl
  exact Program.within_zoom hfolders (fun _ _ => trivial) fun _ hf s =>
    congrArg (Marks.mk s.completions s.tickets s.cancelled s.documents) (hf s.workspace)

theorem spares_answerIfWanted (doc : Url) (n ticket : Nat) (r : Completion.Request) :
    (answerIfWanted doc n ticket r).Spares State.marks := by
  refine (within_look _).bind fun unwanted _ => ?_
  cases unwanted with
  | true => exact Program.within_pure _
  | false =>
      refine (spares_atContext n _).bind fun cs _ => ?_
      cases cs <;> exact Program.within_pure _

theorem spares_requestWith (p : CompletionParams) (text : String) (n ticket : Nat) :
    (requestWith p text n ticket).Spares State.marks :=
  (spares_atContext n _).bind fun _ _ => (spares_atContext n _).bind fun r _ => spares_answerIfWanted p.uri n ticket r

/-! ### How far a request has come -/

section Requests

variable {sch : Schedule Unit} {s s' : State} {p : CompletionParams} {text : String} {n ticket : Nat}
  {rest rest' : Program State Json}

/-- A request is about the document, the text and the position that it was made for. -/
def About (p : CompletionParams) (text : String) (r : Completion.Request) : Prop :=
  r.uri = p.uri ∧ r.text = text ∧ r.position = p.position

/-- A request waits for the library: it is in the middle of having it. -/
inductive AwaitsLibrary (p : CompletionParams) (text : String) (n ticket : Nat) : Program State Json → Prop where
  | intro (r : Program State Docs.Library) (hleft : (atContext n Workspace.library).Leaves r)
      (hsuspended : r.Suspended) : AwaitsLibrary p text n ticket
        (r >>= fun library => atContext n (gather p text library) >>= answerIfWanted p.uri n ticket)

/-- A request has not looked at its ticket: it waits for the library, or gathers what else it needs. -/
inductive Pending (p : CompletionParams) (text : String) (n ticket : Nat) : Program State Json → Prop where
  | awaiting {rest : Program State Json} (h : AwaitsLibrary p text n ticket rest) : Pending p text n ticket rest
  | gathering (library : Docs.Library) (r : Program State Completion.Request)
      (hleft : (atContext n (gather p text library)).Leaves r) (hsuspended : r.Suspended) :
      Pending p text n ticket (r >>= answerIfWanted p.uri n ticket)

/-- A request was wanted when it looked at its ticket: it has what it answers, or it has answered. -/
inductive Answering (p : CompletionParams) (text : String) (n : Nat) : Program State Json → Prop where
  | completing (request : Completion.Request) (habout : About p text request)
      (r : Program State (Option (List Completion.Candidate)))
      (hleft : (atContext n (Workspace.completeRequest request)).Leaves r) (hsuspended : r.Suspended) :
      Answering p text n (r >>= fun cs => pure (replyWith p.uri cs))
  | answered (request : Completion.Request) (habout : About p text request) :
      Answering p text n (.done (replyWith p.uri (Completion.complete request)))

/-- What can become of a request that has not looked at its ticket, with the tickets that are cancelled. -/
inductive Moves (p : CompletionParams) (text : String) (n ticket : Nat) (cancelled : List Nat) :
    Program State Json → Prop where
  | pending {rest : Program State Json} (h : Pending p text n ticket rest) : Moves p text n ticket cancelled rest
  | unwanted (h : ticket ∈ cancelled) : Moves p text n ticket cancelled (.done .null)
  | wanted {rest : Program State Json} (h : ticket ∉ cancelled) (hanswering : Answering p text n rest) :
      Moves p text n ticket cancelled rest

/-- How a request with a ticket stands: it has not looked at the ticket, or it found it cancelled, or it was wanted. -/
inductive Standing (p : CompletionParams) (text : String) (n ticket : Nat) (cancelled : List Nat) :
    Program State Json → Prop where
  | pending {rest : Program State Json} (h : Pending p text n ticket rest) : Standing p text n ticket cancelled rest
  | unwanted (h : ticket ∈ cancelled) : Standing p text n ticket cancelled (.done .null)
  | wanted {rest : Program State Json} (h : Answering p text n rest) : Standing p text n ticket cancelled rest

theorem Moves.stands {cancelled : List Nat} (h : Moves p text n ticket cancelled rest) :
    Standing p text n ticket cancelled rest := by
  cases h with
  | pending h => exact .pending h
  | unwanted h => exact .unwanted h
  | wanted _ h => exact .wanted h

theorem Standing.mono {cancelled cancelled' : List Nat} (h : Standing p text n ticket cancelled rest)
    (hsub : cancelled ⊆ cancelled') : Standing p text n ticket cancelled' rest := by
  cases h with
  | pending h => exact .pending h
  | unwanted h => exact .unwanted (hsub h)
  | wanted h => exact .wanted h

theorem answerIfWanted_eq (doc : Url) (n ticket : Nat) (r : Completion.Request) : answerIfWanted doc n ticket r =
    (Effect.look fun (s : State) => s.cancelled.contains ticket) >>= fun unwanted =>
      if unwanted then pure .null
      else atContext n (Workspace.completeRequest r) >>= fun cs => pure (replyWith doc cs) := by
  have hreply : (fun cs : Option (List Completion.Candidate) => (pure (replyWith doc cs) : Program State Json)) =
      fun
        | some cs => pure (.array (cs.map (itemObject doc)))
        | none => pure .null := by
    funext cs
    cases cs <;> rfl
  rw [hreply]
  rfl

theorem within_atContext {α : Type} {promised : α → Prop} {q : Program Workspace.Context α}
    (h : q.Within (fun _ => True) promised) : (atContext n q).Within (fun _ => True) promised := by
  have hcontext : (Workspace.inContext n q).Within (fun _ => True) promised :=
    Program.within_zoom h (fun _ _ => trivial) fun _ _ => trivial
  exact Program.within_zoom hcontext (fun _ _ => trivial) fun _ _ => trivial

theorem returns_completeRequest (r : Completion.Request) :
    (atContext n (Workspace.completeRequest r)).Within (fun _ => True) fun cs => cs = Completion.complete r :=
  within_atContext ((Program.within_anything _).bind fun _ _ => rfl)

theorem returns_gather (library : Docs.Library) :
    (atContext n (gather p text library)).Within (fun _ => True) (About p text) :=
  within_atContext ((Program.within_anything _).bind fun _ _ => (Program.within_anything _).bind fun _ _ =>
    (Program.within_anything _).bind fun _ _ => ⟨rfl, rfl, rfl⟩)

theorem answering_of_advances {request : Completion.Request} (habout : About p text request)
    {r : Program State (Option (List Completion.Candidate))}
    (hleft : (atContext n (Workspace.completeRequest request)).Leaves r)
    (run : Advances sch (r >>= fun cs => pure (replyWith p.uri cs)) s () rest s' ()) : Answering p text n rest := by
  rcases run.of_bind hleft (hleft.spares (spares_atContext n _)) with
    ⟨r', hleft', hsuspended, rfl, -⟩ | ⟨cs, t, u, hdone, -, run⟩
  · exact .completing request habout r' hleft' hsuspended
  · obtain rfl : cs = Completion.complete request := hdone.within (returns_completeRequest request)
    obtain ⟨rfl, -⟩ := run.of_done
    exact .answered request habout

theorem cancelled_eq (h : s'.marks = s.marks) : s'.cancelled = s.cancelled := congrArg Marks.cancelled h

/-- A request that looks at its ticket: if that is cancelled it answers null, else its candidates. -/
theorem moves_of_checking {request : Completion.Request} (habout : About p text request)
    (run : Advances sch (answerIfWanted p.uri n ticket request) s () rest s' ()) :
    Moves p text n ticket s.cancelled rest := by
  rw [answerIfWanted_eq] at run
  have run := run.of_look
  split at run
  next hcancelled =>
      obtain ⟨rfl, -⟩ := run.of_done
      exact .unwanted (by simpa using hcancelled)
  next hwanted => exact .wanted (by simpa using hwanted) (answering_of_advances habout (.start _) run)

theorem moves_of_gathering {library : Docs.Library} {r : Program State Completion.Request}
    (hleft : (atContext n (gather p text library)).Leaves r)
    (run : Advances sch (r >>= answerIfWanted p.uri n ticket) s () rest s' ()) :
    Moves p text n ticket s.cancelled rest := by
  rcases run.of_bind hleft (hleft.spares (spares_atContext n _)) with
    ⟨r', hleft', hsuspended, rfl, -⟩ | ⟨request, t, u, hdone, ht, run⟩
  · exact .pending (.gathering library r' hleft' hsuspended)
  · rw [← cancelled_eq ht]
    exact moves_of_checking (hdone.within (returns_gather library)) run

theorem moves_of_awaiting {r : Program State Docs.Library} (hleft : (atContext n Workspace.library).Leaves r)
    (run : Advances sch (r >>= fun library => atContext n (gather p text library) >>= answerIfWanted p.uri n ticket)
      s () rest s' ()) : Moves p text n ticket s.cancelled rest := by
  rcases run.of_bind hleft (hleft.spares (spares_atContext n _)) with
    ⟨r', hleft', hsuspended, rfl, -⟩ | ⟨library, t, u, -, ht, run⟩
  · exact .pending (.awaiting (.intro r' hleft' hsuspended))
  · rw [← cancelled_eq ht]
    exact moves_of_gathering (.start _) run

theorem Pending.resume (h : Pending p text n ticket rest) (run : Resumes sch rest s () rest' s' ()) :
    Moves p text n ticket s.cancelled rest' := by
  cases h with
  | awaiting h =>
      obtain ⟨r, hleft, hsuspended⟩ := h
      obtain ⟨r', hleft', run⟩ := run.advances_of_bind hleft hsuspended
      exact moves_of_awaiting hleft' run
  | gathering library r hleft hsuspended =>
      obtain ⟨r', hleft', run⟩ := run.advances_of_bind hleft hsuspended
      exact moves_of_gathering hleft' run

theorem Answering.resume (h : Answering p text n rest) (run : Resumes sch rest s () rest' s' ()) :
    Answering p text n rest' := by
  cases h with
  | completing request habout r hleft hsuspended =>
      obtain ⟨r', hleft', run⟩ := run.advances_of_bind hleft hsuspended
      exact answering_of_advances habout hleft' run
  | answered => cases run

theorem Standing.resume (h : Standing p text n ticket s.cancelled rest) (run : Resumes sch rest s () rest' s' ()) :
    Standing p text n ticket s.cancelled rest' := by
  cases h with
  | pending h => exact (h.resume run).stands
  | unwanted => cases run
  | wanted h => exact .wanted (h.resume run)

theorem Pending.ne_done (h : Pending p text n ticket rest) (v : Json) : rest ≠ .done v := by
  cases h with
  | awaiting h =>
      obtain ⟨r, -, hsuspended⟩ := h
      exact hsuspended.bind_ne_done _ v
  | gathering library r hleft hsuspended => exact hsuspended.bind_ne_done _ v

/-- A request that was wanted and has answered has answered its candidates. -/
theorem Answering.of_done {v : Json} (h : Answering p text n (.done v)) :
    ∃ request, About p text request ∧ v = replyWith p.uri (Completion.complete request) := by
  generalize hrest : (Program.done v : Program State Json) = rest at h
  cases h with
  | completing request habout r hleft hsuspended => exact absurd hrest.symm (hsuspended.bind_ne_done _ v)
  | answered request habout => exact ⟨request, habout, Program.done.inj hrest⟩

/-- If files are seen without interruption, what follows the library is held up nowhere. -/
theorem prompt_afterLibrary (hfiles : sch.suspends .seeFiles = false) (library : Docs.Library) :
    (atContext n (gather p text library) >>= answerIfWanted p.uri n ticket).Prompt sch := by
  have hgather : (gather p text library).Prompt sch := fun _ => ⟨hfiles, fun _ _ => ⟨hfiles, fun _ => trivial⟩⟩
  have hcomplete (request : Completion.Request) : (Workspace.completeRequest request).Prompt sch :=
    ⟨hfiles, fun _ => trivial⟩
  refine hgather.zoom.zoom.bind fun request => ?_
  rw [answerIfWanted_eq]
  intro s
  show Program.Prompt sch (if s.cancelled.contains ticket then _ else _)
  split
  next => trivial
  next => exact (hcomplete request).zoom.zoom.bind fun _ => trivial

theorem awaits_or_done_of_awaiting (hfiles : sch.suspends .seeFiles = false) {r : Program State Docs.Library}
    (hleft : (atContext n Workspace.library).Leaves r)
    (run : Advances sch (r >>= fun library => atContext n (gather p text library) >>= answerIfWanted p.uri n ticket)
      s () rest s' ()) : AwaitsLibrary p text n ticket rest ∨ ∃ v, rest = .done v := by
  rcases run.of_bind hleft (hleft.spares (spares_atContext n _)) with
    ⟨r', hleft', hsuspended, rfl, -⟩ | ⟨library, t, u, -, -, run⟩
  · exact .inl (.intro r' hleft' hsuspended)
  · exact .inr (run.of_prompt (prompt_afterLibrary hfiles library))

theorem AwaitsLibrary.resume (hfiles : sch.suspends .seeFiles = false) (h : AwaitsLibrary p text n ticket rest)
    (run : Resumes sch rest s () rest' s' ()) : AwaitsLibrary p text n ticket rest' ∨ ∃ v, rest' = .done v := by
  obtain ⟨r, hleft, hsuspended⟩ := h
  obtain ⟨r', hleft', run⟩ := run.advances_of_bind hleft hsuspended
  exact awaits_or_done_of_awaiting hfiles hleft' run

/-! ### Starts -/

theorem contextFor_eq (doc : Url) : contextFor doc = changing fun (s : State) =>
    ((s.workspace.contextFor? doc).1, { s with workspace := (s.workspace.contextFor? doc).2 }) := rfl

theorem marks_contextFor? (s : State) (doc : Url) :
    { s with workspace := (s.workspace.contextFor? doc).2 }.marks = s.marks := by
  have hprovided := Workspace.provided_contextFor? s.workspace doc
  generalize (s.workspace.contextFor? doc).1 = number, (s.workspace.contextFor? doc).2 = w at hprovided ⊢
  cases hprovided <;> rfl

/-- A document that is not open or has no folder is served nothing. Another one gets a ticket. -/
theorem started_completion (run : Advances sch (handleCompletion p) s () rest s' ()) :
    (¬ s.marks.Serves p.uri ∧ s'.marks = s.marks ∧ rest = .done .null) ∨
    (s.marks.Serves p.uri ∧ s'.marks = s.marks.take p.uri ∧ ∃ text n t, Table.get? s.documents p.uri = some text ∧
      t.marks = s.marks.take p.uri ∧ Advances sch (requestWith p text n s.tickets) t () rest s' ()) := by
  rw [handleCompletion_eq] at run
  have run := run.of_look
  cases htext : Table.get? s.documents p.uri with
  | none =>
      rw [htext] at run
      obtain ⟨rfl, hs⟩ := run.of_done
      refine .inl ⟨fun hserves => ?_, by rw [hs], rfl⟩
      exact Option.isSome_iff_ne_none.1 hserves.1 htext
  | some text =>
      rw [htext, contextFor_eq] at run
      have run := run.of_changing
      have hmarks := marks_contextFor? s p.uri
      have hprovided := Workspace.provided_contextFor? s.workspace p.uri
      generalize (s.workspace.contextFor? p.uri).1 = number, (s.workspace.contextFor? p.uri).2 = w
        at hprovided run hmarks
      have hserved (f : Workspace.Folder) (hf : s.workspace.folderFor? p.uri = some f) : s.marks.Serves p.uri :=
        ⟨Option.isSome_iff_exists.2 ⟨text, htext⟩, Option.isSome_iff_exists.2 ⟨f, hf⟩⟩
      cases number with
      | none =>
          obtain ⟨rfl, hs⟩ := run.of_done
          refine .inl ⟨fun hserves => ?_, by rw [hs, hmarks], rfl⟩
          cases hprovided with
          | nowhere hfolder => exact Option.isSome_iff_ne_none.1 hserves.2 hfolder
      | some n =>
          obtain ⟨f, hf⟩ : ∃ f, s.workspace.folderFor? p.uri = some f := by
            cases hprovided with
            | there f n hfolder => exact ⟨f, hfolder⟩
            | made f hfolder => exact ⟨f, hfolder⟩
          have run := run.of_changing
          have htaken : ({ s with workspace := w }.newTicket p.uri).2.marks = s.marks.take p.uri :=
            congrArg (Marks.take · p.uri) hmarks
          refine .inr ⟨hserved f hf, ?_, text, n, _, rfl, htaken, run⟩
          exact (run.spares (spares_requestWith p text n _)).1.trans htaken

end Requests

end PlaybookServer.Server

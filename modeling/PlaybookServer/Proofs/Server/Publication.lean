/-
Module: PlaybookServer.Proofs.Server.Publication
Purpose: The client shows diagnostics for a file only as long as an open document accounts for them. Validations
  are suspended while the tools run and go on after their document was closed, or closed and opened again; what
  is published, recorded and cleared between two suspensions belongs together, and this is what keeps the
  account straight for every order of events.
Main exports: Shown, publishing, Notified, Accounted, Notified.keeps, open_documents_account_for_shown
-/
import PlaybookServer.Proofs.Diagnostic.Ledger
import PlaybookServer.Proofs.Effect.Conversation
import PlaybookServer.Proofs.Effect.Interleaving
import PlaybookServer.Proofs.Workspace.FullPass
import PlaybookServer.Server.Handlers

namespace PlaybookServer.Server

open Effect

/-! ### What the client shows -/

/-- The list that was published last for each file. -/
abbrev Shown := Url → List Diagnostic

/-- What is shown after lists were published. -/
def shownAfter (shown : Shown) (m : ByFile) : Shown :=
  m.foldl (fun (shown : Shown) (e : Url × List Diagnostic) => Function.update shown e.1 e.2) shown

/-- A handler is suspended wherever it asks the world for something. Publishing asks for nothing: the handler
    goes on, and the client shows the list. -/
def publishing : Schedule Shown where
  suspends
    | .publish _ _ => false
    | _ => true
  note
    | .publish file ds, shown => Function.update shown file ds
    | _, shown => shown

/-- The handlers of what the client tells about documents and settings. -/
inductive Notified : Program State Unit → Prop where
  | opened (p : OpenParams) : Notified (handleOpen p)
  | changed (p : ChangeParams) : Notified (handleChange p)
  | saved (p : SaveParams) : Notified (handleSave p)
  | closed (doc : Url) : Notified (handleClose doc)
  | configured (payload : Json) : Notified (handleConfiguration payload)

/-- Only the files of a map can have become ones with diagnostics. -/
theorem mem_files_of_shownAfter {shown : Shown} {m : ByFile} {f : Url} (h : shownAfter shown m f ≠ []) :
    f ∈ m.files ∨ shown f ≠ [] := by
  induction m generalizing shown with
  | nil => exact .inr h
  | cons e m ih =>
      have hstep : shownAfter shown (e :: m) = shownAfter (Function.update shown e.1 e.2) m := rfl
      rw [hstep] at h
      rcases ih h with hlater | hnow
      · exact .inl (List.mem_cons_of_mem _ hlater)
      · by_cases hf : f = e.1
        · exact .inl (hf ▸ List.mem_cons_self)
        · rw [Function.update_of_ne hf] at hnow
          exact .inr hnow

/-- Files that are cleared show nothing, and the others what they showed before. -/
theorem shownAfter_clear (shown : Shown) (files : List Url) (f : Url) :
    shownAfter shown (files.map fun u => (u, [])) f = if f ∈ files then [] else shown f := by
  induction files generalizing shown with
  | nil => rfl
  | cons u files ih =>
      have hstep : shownAfter shown ((u :: files).map fun u => (u, [])) =
          shownAfter (Function.update shown u []) (files.map fun u => (u, [])) := rfl
      rw [hstep, ih]
      by_cases hfiles : f ∈ files
      · simp [hfiles]
      · by_cases hu : f = u
        · subst hu
          simp [hfiles]
        · simp [hfiles, hu]

/-! ### The account -/

/-- The ledger accounts for what is shown: it is sound, it keeps files and results of open documents only, and
    every file with diagnostics is held by a document. Results may also be there for an excused document, one
    whose validation has just kept them and has not looked yet whether it is still open. -/
structure Accounted (excused : List Url) (s : State) (shown : Shown) : Prop where
  sound : s.workspace.ledger.Sound
  ordered : ∀ o m, s.workspace.ledger.results.get? o = some m → m.Ordered
  references_open : ∀ o ∈ Table.keys s.workspace.ledger.references, o ∈ Table.keys s.documents
  results_open : ∀ o ∈ Table.keys s.workspace.ledger.results, o ∈ excused ∨ o ∈ Table.keys s.documents
  held : ∀ f, shown f ≠ [] → ∃ o, f ∈ s.workspace.ledger.filesOf o

namespace Accounted

variable {excused : List Url} {s s' : State} {shown : Shown} {doc : Url}

/-- The account depends on the ledger and on which documents are open; more may be open. -/
theorem frame (h : Accounted excused s shown) (hledger : s'.workspace.ledger = s.workspace.ledger)
    (hopen : ∀ o ∈ Table.keys s.documents, o ∈ Table.keys s'.documents) : Accounted excused s' shown where
  sound := hledger ▸ h.sound
  ordered := hledger ▸ h.ordered
  references_open o ho := hopen o (h.references_open o (hledger ▸ ho))
  results_open o ho := (h.results_open o (hledger ▸ ho)).imp_right (hopen o)
  held := hledger ▸ h.held

theorem openDocument (h : Accounted excused s shown) (doc : Url) (text : String) :
    Accounted excused (s.openDocument doc text) shown := by
  refine h.frame rfl ?_
  intro o ho
  show o ∈ Table.keys (Table.set s.documents doc text)
  rw [Table.mem_keys] at ho ⊢
  rw [Table.get?_set]
  split
  next => rfl
  next => exact ho

theorem excuse (h : Accounted [] s shown) (doc : Url) : Accounted [doc] s shown where
  sound := h.sound
  ordered := h.ordered
  references_open := h.references_open
  results_open o ho := .inr ((h.results_open o ho).resolve_left List.not_mem_nil)
  held := h.held

/-- An open document needs no excuse. -/
theorem of_open (h : Accounted [doc] s shown) (hdoc : doc ∈ Table.keys s.documents) :
    Accounted [] s shown where
  sound := h.sound
  ordered := h.ordered
  references_open := h.references_open
  results_open o ho := by
    rcases h.results_open o ho with hexcused | hopen
    · exact .inr (List.mem_singleton.1 hexcused ▸ hdoc)
    · exact .inr hopen
  held := h.held

/-- A validation keeps its results before it looks whether its document is still open. -/
theorem store (h : Accounted [] s shown) (doc : Url) {m : ByFile} (hm : m.Ordered)
    (hledger : s'.workspace.ledger = s.workspace.ledger.store doc m) (hdocs : s'.documents = s.documents) :
    Accounted [doc] s' shown where
  sound := by
    rw [hledger]
    exact ⟨h.sound.counted, h.sound.tidy, h.sound.distinct⟩
  ordered o found := by
    rw [hledger]
    simp only [Ledger.store, Table.get?_set]
    split
    next =>
        rintro ⟨⟩
        exact hm
    next => exact h.ordered o found
  references_open := by
    rw [hledger, hdocs]
    exact h.references_open
  results_open o := by
    rw [hledger, hdocs, Table.mem_keys]
    simp only [Ledger.store, Table.get?_set]
    split
    next ho => exact fun _ => .inl (List.mem_singleton.2 ho)
    next =>
        intro hkept
        rw [← Table.mem_keys] at hkept
        exact .inr ((h.results_open o hkept).resolve_left List.not_mem_nil)
  held := by
    rw [hledger]
    exact h.held

/-- The last results kept for a document are in order. -/
theorem cached_ordered (h : Accounted excused s shown) (doc : Url) :
    (s.workspace.ledger.cached doc).Ordered := by
  unfold Ledger.cached
  cases hget : s.workspace.ledger.results.get? doc with
  | none => exact ByFile.Ordered.nil
  | some m => exact h.ordered doc m hget

/-- A document that is no longer open is forgotten, and what nobody accounts for any more is cleared. -/
theorem release (h : Accounted [doc] s shown)
    (hledger : s'.workspace.ledger = (s.workspace.ledger.release doc).2)
    (hopen : ∀ o ∈ Table.keys s.documents, o ≠ doc → o ∈ Table.keys s'.documents) :
    Accounted [] s' (shownAfter shown ((s.workspace.ledger.release doc).1.map fun u => (u, []))) where
  sound := by
    rw [hledger]
    exact Ledger.release_sound h.sound doc
  ordered o found := by
    rw [hledger, Ledger.release_results, Table.get?_erase]
    split
    next =>
        intro hkept
        cases hkept
    next => exact h.ordered o found
  references_open o := by
    rw [hledger, Ledger.release_references, Table.mem_keys, Table.get?_erase]
    split
    next =>
        intro hkept
        cases hkept
    next ho => exact fun hkept => hopen o (h.references_open o ((Table.mem_keys _ o).2 hkept)) ho
  results_open o := by
    rw [hledger, Ledger.release_results, Table.mem_keys, Table.get?_erase]
    split
    next =>
        intro hkept
        cases hkept
    next ho =>
        intro hkept
        rcases h.results_open o ((Table.mem_keys _ o).2 hkept) with hexcused | hbefore
        · exact absurd (List.mem_singleton.1 hexcused) ho
        · exact .inr (hopen o hbefore ho)
  held f := by
    rw [hledger, shownAfter_clear]
    split
    next => exact fun hf => absurd rfl hf
    next hstale => exact fun hf => Ledger.still_held (Ledger.mem_release_stale h.sound doc) hstale (h.held f hf)

/-- A document that is not open holds no files, so to forget it hands nothing back: that nobody looks at what
    would have to be cleared does no harm. -/
theorem discard (h : Accounted [doc] s shown) (hdoc : doc ∉ Table.keys s.documents)
    (hledger : s'.workspace.ledger = (s.workspace.ledger.release doc).2) (hdocs : s'.documents = s.documents) :
    Accounted [] s' shown := by
  have hnone : s.workspace.ledger.references.get? doc = none := by
    by_contra hsome
    exact hdoc (h.references_open doc ((Table.mem_keys _ doc).2 (Option.isSome_iff_ne_none.2 hsome)))
  have hstale : (s.workspace.ledger.release doc).1 = [] := by
    simp [Ledger.release, hnone, Ledger.decrementAll]
  have hafter := h.release hledger fun o ho _ => hdocs ▸ ho
  rw [hstale] at hafter
  exact hafter

/-- A document that is closed is forgotten. -/
theorem close (h : Accounted [] s shown) (doc : Url) :
    Accounted [] (s.closeDocument doc).2
      (shownAfter shown ((s.closeDocument doc).1.map fun u => (u, []))) := by
  refine (h.excuse doc).release rfl ?_
  intro o ho hne
  show o ∈ Table.keys (Table.erase s.documents doc)
  rw [Table.mem_keys, Table.get?_erase, if_neg hne, ← Table.mem_keys]
  exact ho

/-- What an open document reports is recorded, shown, and cleared where nobody accounts for it any more. -/
theorem track (h : Accounted [] s shown) (hdoc : doc ∈ Table.keys s.documents) {found : ByFile}
    (hfound : found.Ordered) (hledger : s'.workspace.ledger = (s.workspace.ledger.track doc found).2)
    (hdocs : s'.documents = s.documents) :
    Accounted [] s' (shownAfter (shownAfter shown found)
      ((s.workspace.ledger.track doc found).1.map fun u => (u, []))) where
  sound := by
    rw [hledger]
    exact Ledger.track_sound h.sound doc hfound.nodup
  ordered o m := by
    rw [hledger, Ledger.track_results]
    exact h.ordered o m
  references_open o := by
    rw [hledger, hdocs, Ledger.track_references, Table.mem_keys, Table.get?_set, Table.get?_erase]
    split
    next ho => exact fun _ => ho ▸ hdoc
    next => exact fun hkept => h.references_open o ((Table.mem_keys _ o).2 hkept)
  results_open o := by
    rw [hledger, hdocs, Ledger.track_results]
    exact h.results_open o
  held f := by
    rw [hledger, shownAfter_clear]
    split
    next => exact fun hf => absurd rfl hf
    next hstale =>
        intro hf
        rcases mem_files_of_shownAfter hf with hnow | hbefore
        · refine ⟨doc, ?_⟩
          rw [(Ledger.track_replaces _ doc found).filesOf_eq, if_pos rfl]
          exact hnow
        · exact Ledger.still_held (Ledger.mem_track_stale h.sound doc found) hstale (h.held f hbefore)

end Accounted

/-! ### The handlers -/

variable {s : State} {shown : Shown} {doc : Url}

/-- A program that can be started whenever the account is straight, and leaves it straight. -/
abbrev Keeps (p : Program State Unit) : Prop :=
  ∀ s shown, Accounted [] s shown → p.Upholds publishing (Accounted []) (fun _ => Accounted []) s shown

/-- Publishing leaves the state alone. -/
theorem spares_publishAll {γ : Type} {get : State → γ} (m : ByFile) : (publishAll m).Spares get := by
  induction m with
  | nil => trivial
  | cons e m ih => exact (within_ask trivial).bind fun _ _ => ih

theorem upholds_publishAll {promised : Unit → State → Shown → Prop} (m : ByFile)
    (h : promised () s (shownAfter shown m)) :
    (publishAll m).Upholds publishing (Accounted []) promised s shown := by
  induction m generalizing shown with
  | nil => exact h
  | cons e m ih => exact fun _ => ih h

theorem upholds_publishResults (h : Accounted [] s shown) (hdoc : doc ∈ Table.keys s.documents)
    {found : ByFile} (hfound : found.Ordered) :
    (publishResults doc found).Upholds publishing (Accounted []) (fun _ => Accounted []) s shown := by
  refine (Program.upholds_bind _ (publishAll found) _ _ _).2 ?_
  refine upholds_publishAll found ?_
  exact upholds_publishAll _ (h.track hdoc hfound rfl rfl)

/-- Nothing is published, and the ledger and the documents stay as they are. -/
def Apart : Act State → Prop
  | .ask q => q.PublishesNothing
  | .change f => ∀ s, (f s).workspace.ledger = s.workspace.ledger ∧ (f s).documents = s.documents

/-- The tools change nothing but a context: whatever happens while they run, the account stays straight. -/
theorem upholds_fullPass (n : Nat) (text : String) (h : Accounted [] s shown) :
    (inWorkspace (Workspace.inContext n (Workspace.fullPass doc text))).Upholds publishing (Accounted [])
      (fun found s shown => found.Ordered ∧ Accounted [] s shown) s shown := by
  have hwithin : (inWorkspace (Workspace.inContext n (Workspace.fullPass doc text))).Within Apart
      ByFile.Ordered := by
    unfold inWorkspace Workspace.inContext
    rw [Program.zoom_zoom]
    refine Program.within_zoom (Workspace.within_fullPass doc text) (fun _ hq => hq) ?_
    exact fun _ _ s => ⟨rfl, rfl⟩
  refine hwithin.upholds ?_ ?_ ?_ h
  · intro f s shown hf h
    exact h.frame (hf s).1 fun _ ho => (hf s).2 ▸ ho
  · intro q shown hq
    cases q with
    | publish file ds => exact absurd hq id
    | _ => rfl
  · exact fun found s shown hfound h => ⟨hfound, h⟩

/-- A validation finds a map in order. It is suspended only before it keeps its results. -/
theorem upholds_validate (n : Nat) (text : String) (quick : Bool) (h : Accounted [] s shown) :
    (inWorkspace (Workspace.validate n doc text quick)).Upholds publishing (Accounted [])
      (fun found s shown => found.Ordered ∧ Accounted [doc] s shown) s shown := by
  unfold Workspace.validate inWorkspace
  rw [Program.zoom_bind]
  show Program.Upholds _ _ _ (Program.zoom _ _ (if _ then _ else _)) _ _
  split
  next => exact ⟨ByFile.Ordered.single doc [], h.excuse doc⟩
  next =>
      dsimp only
      split
      next => exact ⟨(h.cached_ordered doc).add doc _, h.excuse doc⟩
      next =>
          rw [Program.zoom_bind]
          refine (upholds_fullPass n text h).bind ?_
          rintro found s shown ⟨hfound, h⟩
          have hkept : (found.add doc []).Ordered := hfound.add doc []
          exact ⟨hkept.add doc _, h.store doc hkept rfl rfl⟩

theorem ledger_contextFor? (w : Workspace.State) (doc : Url) : (w.contextFor? doc).2.ledger = w.ledger := by
  unfold Workspace.State.contextFor?
  split
  next => rfl
  next => split <;> rfl

theorem upholds_contextFor (h : Accounted [] s shown) :
    (contextFor doc).Upholds publishing (Accounted []) (fun _ => Accounted []) s shown :=
  h.frame (ledger_contextFor? s.workspace doc) fun _ ho => ho

/-- A validation leaves the account straight, whether its document is still open at its end or not. -/
theorem keeps_validateDocument (doc : Url) (quick : Bool) : Keeps (validateDocument doc quick) := by
  intro s shown h
  refine (Program.upholds_look _ s shown).bind ?_
  rintro text s shown ⟨-, rfl, rfl⟩
  cases text with
  | none => exact h
  | some text =>
      refine (upholds_contextFor h).bind ?_
      intro number s shown h
      cases number with
      | none => exact h
      | some n =>
          refine (upholds_validate n text quick h).bind ?_
          rintro found s shown ⟨hfound, h⟩
          refine (Program.upholds_look _ s shown).bind ?_
          rintro stillOpen s shown ⟨hopen, rfl, rfl⟩
          cases stillOpen with
          | true =>
              have hdoc := (Table.mem_keys _ _).2 hopen.symm
              exact upholds_publishResults (h.of_open hdoc) hdoc hfound
          | false =>
              have hdoc : doc ∉ Table.keys s.documents := by
                rw [Table.mem_keys, ← hopen]
                exact Bool.false_ne_true
              exact h.discard hdoc rfl rfl

theorem keeps_validateEach (docs : List Url) : Keeps (validateEach docs) := by
  intro s shown h
  induction docs generalizing s shown with
  | nil => exact h
  | cons doc docs ih => exact (keeps_validateDocument doc false s shown h).bind fun _ s shown h => ih s shown h

theorem ledger_eachInUse (w : Workspace.State) (f : Workspace.Context → Workspace.Context) :
    (w.eachInUse f).ledger = w.ledger := by
  unfold Workspace.State.eachInUse
  generalize w.inUse = entries
  induction entries generalizing w with
  | nil => rfl
  | cons e entries ih => exact ih _

/-- Every handler of a notification can be started whenever the account is straight. -/
theorem Notified.keeps {p : Program State Unit} (hp : Notified p) : Keeps p := by
  intro s shown h
  cases hp with
  | opened p => exact keeps_validateDocument p.uri false _ _ (h.openDocument p.uri p.text)
  | changed p =>
      unfold handleChange
      split
      next => exact h
      next text _ => exact keeps_validateDocument p.uri true _ _ (h.openDocument p.uri text)
  | saved p =>
      unfold handleSave
      split
      next text _ => exact keeps_validateDocument p.uri false _ _ (h.openDocument p.uri text)
      next => exact keeps_validateDocument p.uri false _ _ h
  | closed doc => exact upholds_publishAll _ (h.close doc)
  | configured payload =>
      unfold handleConfiguration
      split
      next settings _ =>
          have hsettings : Accounted [] { s with workspace := s.workspace.updateSettings settings } shown :=
            h.frame (ledger_eachInUse _ _) fun _ ho => ho
          refine ⟨hsettings, fun _ s shown h => ?_⟩
          exact keeps_validateEach _ s shown h
      next => exact ⟨h, fun _ s shown h => h⟩
      next => exact h

/-! ### Every run -/

theorem accounted_initial (hledger : s.workspace.ledger = {}) : Accounted [] s fun _ => [] where
  sound := by
    rw [hledger]
    exact Ledger.after_sound []
  ordered := by
    rw [hledger]
    exact nofun
  references_open := by
    rw [hledger]
    exact nofun
  results_open := by
    rw [hledger]
    exact nofun
  held f hf := absurd rfl hf

/-- Whatever the client tells and whenever the tools answer: files and results are kept for open documents only,
    and every file whose last list is not empty is held by an open document. So once no document is open, the
    last list of every file is empty. -/
theorem open_documents_account_for_shown {s : State} (hledger : s.workspace.ledger = {})
    {pool : Pool State Shown Unit} (reached : Pool.Reachable publishing Notified s (fun _ => []) pool) :
    (∀ o ∈ Table.keys pool.state.workspace.ledger.references, o ∈ Table.keys pool.state.documents) ∧
    (∀ o ∈ Table.keys pool.state.workspace.ledger.results, o ∈ Table.keys pool.state.documents) ∧
    (∀ f, pool.noted f ≠ [] →
      ∃ o ∈ Table.keys pool.state.documents, f ∈ pool.state.workspace.ledger.filesOf o) ∧
    (pool.state.documents = [] → ∀ f, pool.noted f = []) := by
  have h : Accounted [] pool.state pool.noted :=
    reached.invariant (fun p hp => hp.keeps) (accounted_initial hledger)
  have hheld : ∀ f, pool.noted f ≠ [] →
      ∃ o ∈ Table.keys pool.state.documents, f ∈ pool.state.workspace.ledger.filesOf o := by
    intro f hf
    obtain ⟨o, ho⟩ := h.held f hf
    exact ⟨o, h.references_open o (Ledger.mem_keys_of_mem_filesOf ho), ho⟩
  refine ⟨h.references_open, ?_, hheld, ?_⟩
  · exact fun o ho => (h.results_open o ho).resolve_left List.not_mem_nil
  · intro hnone f
    by_contra hf
    obtain ⟨o, ho, -⟩ := hheld f hf
    rw [hnone] at ho
    exact List.not_mem_nil ho

/-- A workspace of one folder, in which no document is open. -/
def oneFolder : State where
  workspace := { folders := [⟨{ scheme := "file", authority := some "", path := "/work" }, "work"⟩] }

/-- A document in that folder. -/
def site : Url := { scheme := "file", authority := some "", path := "/work/site.yml" }

/-- The answers of a world in which nothing is found. -/
def quietAnswer (q : Query) : q.Answer := (silentWorld q ()).1

/-- The document is opened, and changed while the first command of its pass runs. -/
def changeMoves : List (Move State Unit) := [.start (handleOpen ⟨site, ""⟩), .start (handleChange ⟨site, ["["]⟩)]

/-- Then it is closed, and the pass goes on to its end. -/
def closeMoves : List (Move State Unit) := [.start (handleClose site), .resume 0, .resume 0, .resume 0]

/-- What has been reached when these moves are done. -/
def playedFrom (pool : Pool State Shown Unit) (moves : List (Move State Unit)) : Option (Pool State Shown Unit) :=
  Pool.play? publishing quietAnswer moves pool

theorem changed_shows_structure :
    (playedFrom ⟨oneFolder, fun _ => [], []⟩ changeMoves).map (fun pool => pool.noted site) =
      some (structuralDiagnostics site "[") := rfl

theorem closed_leaves_nothing : ((playedFrom ⟨oneFolder, fun _ => [], []⟩ changeMoves).bind fun pool =>
    (playedFrom pool closeMoves).map fun pool => pool.state.documents) = some [] := by
  decide +kernel

/-- A document that is changed has the faults of its text shown, and accounts for them. When it has been closed and the
    pass that was under way has ended, nothing is shown any more. -/
theorem changed_document_accounts_for_shown : ∃ pool pool' : Pool State Shown Unit,
    Pool.Reachable publishing Notified oneFolder (fun _ => []) pool ∧
    pool.noted site = structuralDiagnostics site "[" ∧
    (pool.noted site ≠ [] →
      ∃ o ∈ Table.keys pool.state.documents, site ∈ pool.state.workspace.ledger.filesOf o) ∧
    Pool.Reachable publishing Notified oneFolder (fun _ => []) pool' ∧ playedFrom pool closeMoves = some pool' ∧
    pool'.state.documents = [] ∧ ∀ f, pool'.noted f = [] := by
  obtain ⟨pool, hplay, hshown⟩ := Option.map_eq_some_iff.1 changed_shows_structure
  have hclosed := closed_leaves_nothing
  rw [hplay, Option.bind_some] at hclosed
  obtain ⟨pool', hplay', hdocuments⟩ := Option.map_eq_some_iff.1 hclosed
  have hchanging : ∀ p, Move.start p ∈ changeMoves → Notified p := by
    intro p hp
    simp only [changeMoves, List.mem_cons, Move.start.injEq, List.not_mem_nil, or_false] at hp
    rcases hp with rfl | rfl
    · exact .opened _
    · exact .changed _
  have hclosing : ∀ p, Move.start p ∈ closeMoves → Notified p := by
    intro p hp
    simp only [closeMoves, List.mem_cons, Move.start.injEq, List.not_mem_nil, or_false, reduceCtorEq] at hp
    exact hp ▸ .closed _
  have reached : Pool.Reachable publishing Notified oneFolder (fun _ => []) pool := .of_play? .initial hchanging hplay
  have reached' := reached.of_play? hclosing hplay'
  exact ⟨pool, pool', reached, hshown, (open_documents_account_for_shown rfl reached).2.2.1 site, reached', hplay',
    hdocuments, (open_documents_account_for_shown rfl reached').2.2.2 hdocuments⟩

end PlaybookServer.Server

/-
Module: PlaybookServer.Proofs.Server.Succession
Purpose: What the client shows for open documents when the handlers of any number of documents run one after another,
  each to its end. A pass over a document publishes the structure of its text, after what the tools said about it. A
  pass over another document may publish a list for the same file: it is exactly what the tools said there, without
  the structure, and it replaces the list of the document's own pass until the next one.
Main exports: publishedLists, Turn, Succession, lastPublished?, AtRest, Handled, Concerns.completes, Followed,
  last_list_comes_from_own_pass_or_kept_results, report_on_another_document_hides_structure
-/
import PlaybookServer.Proofs.Diagnostic.Overlap
import PlaybookServer.Proofs.Server.Overtaking

namespace PlaybookServer

open Effect

/-! ### Lists among what is said -/

/-- The list that a question publishes. -/
def Effect.Exchange.published? (x : Exchange) : Option (Url × List Diagnostic) :=
  match x.question with
  | .publish file ds => some (file, ds)
  | _ => none

namespace Server

/-- The lists that were published in a conversation, the last one first. -/
def publishedLists (said : List Exchange) : ByFile := (said.filterMap Exchange.published?).reverse

@[simp] theorem publishedLists_append (said said' : List Exchange) :
    publishedLists (said ++ said') = publishedLists said' ++ publishedLists said := by
  simp [publishedLists]

theorem publishedLists_of_quiet {said : List Exchange} (h : ∀ x ∈ said, x.question.PublishesNothing) :
    publishedLists said = [] := by
  have hnone : said.filterMap Exchange.published? = [] := by
    apply List.filterMap_eq_nil_iff.2
    intro x hx
    have hquiet := h x hx
    unfold Exchange.published?
    split
    next hquestion =>
        rw [hquestion] at hquiet
        exact absurd hquiet id
    next => rfl
  rw [publishedLists, hnone, List.reverse_nil]

theorem converses_publishAll (m : ByFile) :
    (publishAll m).Converses fun said _ => publishedLists said = m.reverse := by
  induction m with
  | nil => rfl
  | cons e m ih =>
      intro _
      apply ih.mono
      intro said _ hsaid
      show publishedLists ([⟨.publish e.1 e.2, ()⟩] ++ said) = (e :: m).reverse
      rw [publishedLists_append, hsaid, List.reverse_cons]
      rfl

/-! ### Handlers one after another -/

/-- A handler that has run to its end. -/
structure Turn where
  /-- The document that it was about. -/
  doc : Url
  /-- The state that it left. -/
  state : State
  /-- The lists that it published, the last one first. -/
  published : ByFile

/-- The handlers of what the client tells about documents, each run to its end before the next one is started. The last
    turn stands first. -/
inductive Succession {ω : Type} (answer : (q : Query) → ω → q.Answer × ω) (s : State) (w : ω) :
    List Turn → State → ω → Prop where
  | initial : Succession answer s w [] s w
  | handled {past : List Turn} {t t' : State} {v v' : ω} {doc : Url} {p : Program State Unit} {said : List Exchange}
      (earlier : Succession answer s w past t v) (hp : Concerns doc p)
      (run : p.run (recording answer) t (v, []) = .finished () t' (v', said)) :
      Succession answer s w (⟨doc, t', publishedLists said⟩ :: past) t' v'

/-- The list that was published last for a document. -/
def lastPublished? (doc : Url) (past : List Turn) : Option (List Diagnostic) :=
  past.findSome? fun m => m.published.get? doc

/-- The results of the tools that are kept of a turn's document when the turn has ended. -/
def Turn.kept (m : Turn) : ByFile := m.state.workspace.ledger.cached m.doc

/-- Whether a folder serves a document. -/
abbrev Serves (s : State) (doc : Url) : Prop := (s.workspace.folderFor? doc).isSome = true

/-- Validation is enabled in every folder, the contexts in use are there, and nobody sets a container environment up. -/
structure AtRest (w : Workspace.State) : Prop where
  enabled : w.settings.validation.enabled = true
  contexts : ∀ c ∈ w.contexts, c.settings.validation.enabled = true
  inUse : ∀ f n, Table.get? w.inUse f = some n → n < w.contexts.length
  idle : w.Idle

namespace AtRest

variable {w : Workspace.State} {doc : Url}

theorem validating (h : AtRest w) (hserved : (w.folderFor? doc).isSome = true)
    (hordered : (w.ledger.cached doc).Ordered) : Validating doc w :=
  ⟨h.enabled, h.contexts, h.inUse, hserved, hordered⟩

theorem of_validating (h : Validating doc w) (hidle : w.Idle) : AtRest w := ⟨h.enabled, h.contexts, h.inUse, hidle⟩

/-- The ledger does not matter. -/
theorem ledger (h : AtRest w) (l : Ledger) : AtRest { w with ledger := l } :=
  ⟨h.enabled, h.contexts, h.inUse, h.idle⟩

end AtRest

/-! ### What a handler does -/

/-- What a handler about a document does to its text and to the ledger, and the lists that it publishes. There is no
    pass over a document that is not open or that no folder serves. A pass leaves results of the tools kept and
    publishes them with the structure of the text; then it clears the files that nobody accounts for any more. -/
inductive Handled (doc : Url) (l : Ledger) (s' : State) : ByFile → Prop where
  | unseen (hledger : s'.workspace.ledger = l) (htext : Serves s' doc → Table.get? s'.documents doc = none) :
      Handled doc l s' []
  | passed (text : String) (kept found : ByFile) (now : Ledger) (htext : Table.get? s'.documents doc = some text)
      (hkept : kept.Ordered) (hfound : found = kept.add doc (structuralDiagnostics doc text))
      (hnow : ∃ results, now = { l with results }) (hcached : ∀ o, now.cached o = if o = doc then kept else l.cached o)
      (hledger : s'.workspace.ledger = (now.track doc found).2) :
      Handled doc l s' (((now.track doc found).1.map fun f => (f, [])).reverse ++ found.reverse)
  | closed (htext : Table.get? s'.documents doc = none) (hledger : s'.workspace.ledger = (l.release doc).2) :
      Handled doc l s' ((l.release doc).1.map fun f => (f, [])).reverse

/-- The texts of other documents, the folders and their settings stay as they are. -/
structure Beside (doc : Url) (s s' : State) : Prop where
  texts : ∀ o, o ≠ doc → Table.get? s'.documents o = Table.get? s.documents o
  folders : s'.workspace.folders = s.workspace.folders
  atRest : AtRest s'.workspace

section Passes

variable {s : State} {doc : Url} {text : String}

theorem partOf_workspace (s : State) :
    Program.PartOf (fun s : State => s.workspace) (fun w s => { s with workspace := w }) s :=
  ⟨fun _ => rfl, fun _ _ => rfl, rfl⟩

theorem quiet_validate (n : Nat) (doc : Url) (text : String) (quick : Bool) :
    (Workspace.validate n doc text quick).Quiet := by
  apply (within_look _).bind
  intro settings _
  split
  next => trivial
  next =>
      dsimp only
      split
      next => exact (within_look _).bind fun _ _ => trivial
      next =>
          have hpass : (Workspace.inContext n (Workspace.fullPass doc text)).Quiet :=
            Program.within_zoom ((Workspace.within_fullPass doc text).mono (fun _ h => h) fun _ _ => trivial)
              (fun _ hq => hq) fun _ _ => trivial
          exact hpass.bind fun _ _ => (within_change trivial).bind fun _ _ => trivial

/-- A pass ends with the results that are kept of its document, from now or from before, and the structure. -/
theorem completes_validate {w : Workspace.State} (h : AtRest w) (hserved : (w.folderFor? doc).isSome = true)
    (hordered : (w.ledger.cached doc).Ordered) {n : Nat} (hn : n < w.contexts.length) (quick : Bool) :
    (Workspace.validate n doc text quick).Completes (fun said found w' => publishedLists said = [] ∧
      w'.folders = w.folders ∧ AtRest w' ∧ ∃ (kept : ByFile) (results : Table Url ByFile), kept.Ordered ∧
        found = kept.add doc (structuralDiagnostics doc text) ∧ w'.ledger = { w.ledger with results } ∧
        ∀ o, w'.ledger.cached o = if o = doc then kept else w.ledger.cached o) w := by
  have henabled : (w.context n).settings.validation.enabled = true := h.contexts _ (Workspace.State.context_mem hn)
  cases quick with
  | true =>
      apply (Workspace.completes_quickPass henabled doc text).mono
      rintro said found w' ⟨rfl, rfl, rfl⟩
      refine ⟨rfl, rfl, h, _, w'.ledger.results, hordered, rfl, rfl, ?_⟩
      intro o
      split
      next ho => rw [ho]
      next => rfl
  | false =>
      have hidle := h.idle.context hn
      apply ((Workspace.completes_fullValidation hn henabled hidle doc text).within
        (quiet_validate n doc text false)).mono
      rintro said found w' ⟨⟨c, looked, hsettings, hbuilt, rfl, hfound, rfl⟩, hquiet⟩
      have hkept : (looked.add doc []).Ordered := hfound.ordered.add doc []
      have hput : AtRest (Workspace.State.putContext n c w) :=
        .of_validating ((h.validating hserved hordered).putContext hsettings) (h.idle.putContext hbuilt)
      refine ⟨publishedLists_of_quiet hquiet, rfl, hput.ledger _, _, _, hkept, rfl, rfl, ?_⟩
      intro o
      exact Workspace.cached_store w.ledger doc o _

/-- Looking for the context of a document leaves the folders alone; a new context has no environment yet. -/
theorem contextFor?_frame (w : Workspace.State) (doc : Url) :
    (w.contextFor? doc).2.folders = w.folders ∧ (w.Idle → (w.contextFor? doc).2.Idle) := by
  unfold Workspace.State.contextFor?
  split
  next => exact ⟨rfl, id⟩
  next =>
      split
      next => exact ⟨rfl, id⟩
      next =>
          refine ⟨rfl, ?_⟩
          intro hidle c hc
          rcases List.mem_append.1 hc with hold | hnew
          · exact hidle c hold
          · rw [List.mem_singleton.1 hnew]
            rfl

theorem completes_publishResults {found : ByFile} :
    (publishResults doc found).Completes (fun said _ s' => s'.documents = s.documents ∧
      s'.workspace = { s.workspace with ledger := (s.workspace.ledger.track doc found).2 } ∧
      publishedLists said =
        ((s.workspace.ledger.track doc found).1.map fun f => (f, [])).reverse ++ found.reverse) s := by
  apply ((converses_publishAll found).completes _).bind
  rintro said _ s' ⟨hsaid, rfl⟩
  apply ((converses_publishAll _).completes _).mono
  rintro said' _ s' ⟨hsaid', rfl⟩
  refine ⟨rfl, rfl, ?_⟩
  show publishedLists (said ++ said') = _
  rw [publishedLists_append, hsaid, hsaid']

theorem completes_contextFor (s : State) (doc : Url) :
    (contextFor doc).Completes (fun said number s' => said = [] ∧ number = (s.workspace.contextFor? doc).1 ∧
      s' = { s with workspace := (s.workspace.contextFor? doc).2 }) s :=
  ⟨rfl, rfl, rfl⟩

/-- A pass over a document that is open and served publishes what is kept of it and the structure of its text. -/
theorem completes_pass (h : AtRest s.workspace) (hserved : Serves s doc)
    (hordered : (s.workspace.ledger.cached doc).Ordered) (hopen : Table.get? s.documents doc = some text) {n : Nat}
    (hn : n < s.workspace.contexts.length) (quick : Bool) :
    (do
      let found ← inWorkspace (Workspace.validate n doc text quick)
      let stillOpen ← look fun (s : State) => (Table.get? s.documents doc).isSome
      if stillOpen then publishResults doc found else discard doc : Program State Unit).Completes
    (fun said _ s' => s'.documents = s.documents ∧ s'.workspace.folders = s.workspace.folders ∧
      AtRest s'.workspace ∧ Handled doc s.workspace.ledger s' (publishedLists said)) s := by
  apply (Program.Completes.zoom (partOf_workspace s) (completes_validate h hserved hordered hn quick)).bind
  rintro said found s' ⟨w, rfl, hsaid, hfolders, hrest, kept, results, hkept, hfound, hledger, hcached⟩
  apply (completes_look _ _).bind
  rintro said' stillOpen s' ⟨rfl, rfl, rfl⟩
  rw [if_pos (by rw [hopen]; rfl)]
  apply completes_publishResults.mono
  rintro said'' _ s' ⟨hdocuments, hworkspace, hsaid''⟩
  have hpublished : publishedLists (said ++ ([] ++ said'')) = publishedLists said'' := by
    rw [List.nil_append, publishedLists_append, hsaid, List.append_nil]
  refine ⟨hdocuments, by rw [hworkspace, ← hfolders], ?_, ?_⟩
  · rw [hworkspace]
    exact hrest.ledger _
  · rw [hpublished, hsaid'']
    exact .passed text kept found w.ledger (by rw [hdocuments, hopen]) hkept hfound ⟨results, hledger⟩ hcached
      (by rw [hworkspace])

/-- Where a document is validated, either there is no pass, or it publishes what is kept and the structure. -/
theorem completes_validateDocument (h : AtRest s.workspace) (hordered : (s.workspace.ledger.cached doc).Ordered)
    (quick : Bool) : (validateDocument doc quick).Completes (fun said _ s' => s'.documents = s.documents ∧
      s'.workspace.folders = s.workspace.folders ∧ AtRest s'.workspace ∧
      Handled doc s.workspace.ledger s' (publishedLists said)) s := by
  apply (completes_look _ s).bind
  rintro said stored s' ⟨rfl, rfl, rfl⟩
  cases hopen : Table.get? s'.documents doc with
  | none => exact ⟨rfl, rfl, h, .unseen rfl fun _ => hopen⟩
  | some text =>
      obtain ⟨hfolders, hidle⟩ := contextFor?_frame s'.workspace doc
      have hledger := ledger_contextFor? s'.workspace doc
      apply (completes_contextFor s' doc).bind
      rintro said number s ⟨rfl, rfl, rfl⟩
      by_cases hserved : Serves s' doc
      · obtain ⟨n, w, hcontext, hn, hvalidating⟩ := (h.validating hserved hordered).contextFor
        rw [hcontext] at hfolders hledger hidle ⊢
        have hpass := completes_pass (s := { s' with workspace := w }) (.of_validating hvalidating (hidle h.idle))
          hvalidating.served hvalidating.ordered hopen hn quick
        rw [← hfolders, ← hledger]
        exact hpass
      · have hnone : s'.workspace.folderFor? doc = none := Option.not_isSome_iff_eq_none.1 hserved
        have hcontext : s'.workspace.contextFor? doc = (none, s'.workspace) := by
          rw [Workspace.State.contextFor?, hnone]
        rw [hcontext]
        exact ⟨rfl, rfl, h, .unseen rfl fun h => absurd h hserved⟩

end Passes

/-- A handler about a document does nothing, or what is said of handlers, and leaves other documents alone. -/
theorem Concerns.completes {doc : Url} {p : Program State Unit} {s : State} (hp : Concerns doc p)
    (h : AtRest s.workspace) (hordered : (s.workspace.ledger.cached doc).Ordered) :
    p.Completes (fun said _ s' => publishedLists said = [] ∧ s' = s ∨
      Beside doc s s' ∧ Handled doc s.workspace.ledger s' (publishedLists said)) s := by
  have hvalidated (quick : Bool) (s₁ : State) (hworkspace : s₁.workspace = s.workspace)
      (htexts : ∀ o, o ≠ doc → Table.get? s₁.documents o = Table.get? s.documents o) :
      (validateDocument doc quick).Completes (fun said _ s' => publishedLists said = [] ∧ s' = s ∨
        Beside doc s s' ∧ Handled doc s.workspace.ledger s' (publishedLists said)) s₁ := by
    rw [← hworkspace] at h hordered
    apply (completes_validateDocument h hordered quick).mono
    rintro said _ s' ⟨hdocuments, hfolders, hrest, hhandled⟩
    rw [hworkspace] at hfolders hhandled
    refine .inr ⟨⟨fun o ho => ?_, hfolders, hrest⟩, hhandled⟩
    rw [hdocuments, htexts o ho]
  have hset (text : String) (o : Url) (ho : o ≠ doc) :
      Table.get? (s.openDocument doc text).documents o = Table.get? s.documents o := by
    rw [State.openDocument, Table.get?_set, if_neg ho]
  cases hp with
  | opened text => exact hvalidated false _ rfl (hset text)
  | changed texts =>
      unfold handleChange
      split
      next => exact .inl ⟨rfl, rfl⟩
      next text _ => exact hvalidated true _ rfl (hset text)
  | saved text =>
      cases text with
      | none => exact hvalidated false s rfl fun _ _ => rfl
      | some text => exact hvalidated false _ rfl (hset text)
  | closed =>
      apply (completes_changing _ s).bind
      rintro said stale s' ⟨rfl, rfl, rfl⟩
      apply ((converses_publishAll _).completes _).mono
      rintro said _ s' ⟨hsaid, rfl⟩
      refine .inr ⟨⟨?_, rfl, h.ledger _⟩, ?_⟩
      · intro o ho
        show Table.get? (Table.erase s.documents doc) o = _
        rw [Table.get?_erase, if_neg ho]
      · rw [List.nil_append, hsaid]
        apply Handled.closed _ rfl
        show Table.get? (Table.erase s.documents doc) doc = none
        rw [Table.get?_erase, if_pos rfl]

/-! ### Every sequence of handlers -/

/-- The last own pass over a document left it open with a text, and published a list that ends with the structure of
    that text. Turns about the document since then published nothing; of the turns about other documents each published
    no list for it, or what is kept. -/
def Followed (doc : Url) (text : String) (past : List Turn) : Prop :=
  ∃ (later : List Turn) (own : Turn) (earlier : List Turn) (shown : List Diagnostic), past = later ++ own :: earlier ∧
    own.doc = doc ∧ Table.get? own.state.documents doc = some text ∧ own.published.get? doc = some shown ∧
    structuralDiagnostics doc text <:+ shown ∧ ∀ m ∈ later, m.published = [] ∨
      m.doc ≠ doc ∧ (m.published.get? doc = none ∨ m.published.get? doc = m.kept.get? doc)

/-- The ledger is in order. Every document that is open and served accounts for itself, so nobody else clears it, and
    its lists follow its last own pass. -/
structure Answered (past : List Turn) (s : State) : Prop where
  atRest : AtRest s.workspace
  sound : s.workspace.ledger.Sound
  ordered : ∀ o, (s.workspace.ledger.cached o).Ordered
  held : ∀ u, Serves s u → (Table.get? s.documents u).isSome = true → u ∈ s.workspace.ledger.filesOf u
  followed : ∀ u text, Serves s u → Table.get? s.documents u = some text → Followed u text past

section Turns

variable {past : List Turn} {s s' : State} {doc : Url} {text : String} {published : ByFile}

theorem Followed.later (h : Followed doc text past) {m : Turn} (hm : m.published = [] ∨
      m.doc ≠ doc ∧ (m.published.get? doc = none ∨ m.published.get? doc = m.kept.get? doc)) :
    Followed doc text (m :: past) := by
  obtain ⟨later, own, earlier, shown, rfl, hown, hleft, hshown, hends, hlater⟩ := h
  exact ⟨m :: later, own, earlier, shown, rfl, hown, hleft, hshown, hends, List.forall_mem_cons.2 ⟨hm, hlater⟩⟩

theorem followed_own {m : Turn} (hdoc : m.doc = doc) (hleft : Table.get? m.state.documents doc = some text)
    {shown : List Diagnostic} (hshown : m.published.get? doc = some shown)
    (hends : structuralDiagnostics doc text <:+ shown) : Followed doc text (m :: past) :=
  ⟨[], m, past, shown, rfl, hdoc, hleft, hshown, hends, List.forall_mem_nil _⟩

/-- A turn about a document keeps the account, if it does for the ledger, for the document itself, and for each other
    document that is open and served. -/
theorem Answered.turn (h : Answered past s) (hbeside : Beside doc s s') (hsound : s'.workspace.ledger.Sound)
    (hordered : ∀ o, (s'.workspace.ledger.cached o).Ordered)
    (hself : ∀ text, Serves s' doc → Table.get? s'.documents doc = some text →
      doc ∈ s'.workspace.ledger.filesOf doc ∧ Followed doc text (⟨doc, s', published⟩ :: past))
    (hother : ∀ u, u ≠ doc → u ∈ s.workspace.ledger.filesOf u → u ∈ s'.workspace.ledger.filesOf u ∧
      (published.get? u = none ∨ published.get? u = (s'.workspace.ledger.cached doc).get? u)) :
    Answered (⟨doc, s', published⟩ :: past) s' := by
  have hboth (u : Url) (text : String) (hserved : Serves s' u) (hopen : Table.get? s'.documents u = some text) :
      u ∈ s'.workspace.ledger.filesOf u ∧ Followed u text (⟨doc, s', published⟩ :: past) := by
    by_cases hu : u = doc
    · subst hu
      exact hself text hserved hopen
    · rw [Serves, Workspace.State.folderFor?, hbeside.folders] at hserved
      rw [hbeside.texts u hu] at hopen
      obtain ⟨hheld, hlists⟩ := hother u hu (h.held u hserved (by rw [hopen]; rfl))
      exact ⟨hheld, (h.followed u text hserved hopen).later (.inr ⟨Ne.symm hu, hlists⟩)⟩
  refine ⟨hbeside.atRest, hsound, hordered, ?_, ?_⟩
  · intro u hserved hopen
    obtain ⟨text, htext⟩ := Option.isSome_iff_exists.1 hopen
    exact (hboth u text hserved htext).1
  · intro u text hserved hopen
    exact (hboth u text hserved hopen).2

/-- A pass keeps the account: it does not clear what other documents account for. -/
theorem Answered.passed (h : Answered past s) (hbeside : Beside doc s s') {kept found : ByFile} {now : Ledger}
    (htext : Table.get? s'.documents doc = some text) (hkept : kept.Ordered)
    (hfound : found = kept.add doc (structuralDiagnostics doc text))
    (hnow : ∃ results, now = { s.workspace.ledger with results })
    (hcached : ∀ o, now.cached o = if o = doc then kept else s.workspace.ledger.cached o)
    (hledger : s'.workspace.ledger = (now.track doc found).2) :
    Answered (⟨doc, s', ((now.track doc found).1.map fun f => (f, [])).reverse ++ found.reverse⟩ :: past) s' := by
  have hordered : found.Ordered := hfound ▸ hkept.add doc _
  have hget (u : Url) : found.get? u = if u = doc then some ((kept.get? doc).getD [] ++ structuralDiagnostics doc text)
      else kept.get? u := by rw [hfound, hkept.get?_add]
  have hsound : now.Sound := by
    obtain ⟨results, rfl⟩ := hnow
    exact ⟨h.sound.counted, h.sound.tidy, h.sound.distinct⟩
  have hfiles (o : Url) : s'.workspace.ledger.filesOf o =
      if o = doc then found.files else s.workspace.ledger.filesOf o := by
    rw [hledger, (Ledger.track_replaces now doc found).filesOf_eq]
    obtain ⟨results, rfl⟩ := hnow
    rfl
  have hcachedNow (o : Url) : s'.workspace.ledger.cached o =
      if o = doc then kept else s.workspace.ledger.cached o := by
    rw [hledger, Ledger.cached, Ledger.track_results, ← Ledger.cached, hcached]
  have hmem : doc ∈ found.files := by
    rw [hfound]
    exact (ByFile.mem_files_alter _ _ _ _).2 (.inl rfl)
  apply h.turn hbeside (hledger ▸ Ledger.track_sound hsound doc hordered.nodup)
  · intro o
    rw [hcachedNow]
    split
    next => exact hkept
    next => exact h.ordered o
  · intro text' _ hopen
    obtain rfl : text = text' := Option.some.inj (htext.symm.trans hopen)
    have hkeeps : doc ∉ (now.track doc found).1 := Ledger.not_mem_track hmem
    have hown := ByFile.get?_cleared hordered.nodup hkeeps
    rw [hget, if_pos rfl] at hown
    constructor
    · rw [hfiles, if_pos rfl]
      exact hmem
    · exact followed_own rfl htext hown (List.suffix_append _ _)
  · intro u hu hheld
    have hstill : u ∈ s'.workspace.ledger.filesOf u := by
      rw [hfiles, if_neg hu]
      exact hheld
    have hkeeps : u ∉ (now.track doc found).1 := by
      intro hstale
      exact ((Ledger.mem_track_stale hsound doc found u).1 hstale).2 u (hledger ▸ hstill)
    refine ⟨hstill, .inr ?_⟩
    rw [ByFile.get?_cleared hordered.nodup hkeeps, hget, if_neg hu, hcachedNow, if_pos rfl]

/-- So does a document that is closed. -/
theorem Answered.closed (h : Answered past s) (hbeside : Beside doc s s') (htext : Table.get? s'.documents doc = none)
    (hledger : s'.workspace.ledger = (s.workspace.ledger.release doc).2) :
    Answered (⟨doc, s', ((s.workspace.ledger.release doc).1.map fun f => (f, [])).reverse⟩ :: past) s' := by
  apply h.turn hbeside (hledger ▸ Ledger.release_sound h.sound doc)
  · intro o
    rw [hledger, Workspace.cached_release]
    split
    next => exact ByFile.Ordered.nil
    next => exact h.ordered o
  · intro text _ hopen
    rw [htext] at hopen
    cases hopen
  · intro u hu hheld
    have hstill : u ∈ (s.workspace.ledger.release doc).2.filesOf u := by
      rw [(Ledger.release_replaces _ doc).filesOf_eq, if_neg hu]
      exact hheld
    constructor
    · rw [hledger]
      exact hstill
    · left
      apply ByFile.get?_eq_none
      intro hcleared
      have hstale : u ∈ (s.workspace.ledger.release doc).1 := by simpa [ByFile.files] using hcleared
      exact ((Ledger.mem_release_stale h.sound doc u).1 hstale).2 u hstill

theorem Answered.handled (h : Answered past s) (hbeside : Beside doc s s')
    (hhandled : Handled doc s.workspace.ledger s' published) : Answered (⟨doc, s', published⟩ :: past) s' := by
  cases hhandled with
  | unseen hledger htext =>
      apply h.turn hbeside (hledger ▸ h.sound) (hledger ▸ h.ordered)
      · intro text hserved hopen
        rw [htext hserved] at hopen
        cases hopen
      · intro u _ hheld
        exact ⟨hledger ▸ hheld, .inl rfl⟩
  | passed text kept found now htext hkept hfound hnow hcached hledger =>
      exact h.passed hbeside htext hkept hfound hnow hcached hledger
  | closed htext hledger => exact h.closed hbeside htext hledger

/-- Nothing is open and nothing was published yet. -/
structure Fresh (s : State) : Prop where
  atRest : AtRest s.workspace
  documents : s.documents = []
  ledger : s.workspace.ledger = {}

theorem Fresh.answered (h : Fresh s) : Answered [] s where
  atRest := h.atRest
  sound := by
    rw [h.ledger]
    exact Ledger.after_sound []
  ordered o := by
    rw [h.ledger]
    exact ByFile.Ordered.nil
  held u _ hopen := by
    rw [h.documents] at hopen
    cases hopen
  followed u text _ hopen := by
    rw [h.documents] at hopen
    cases hopen

end Turns

section Runs

variable {ω : Type} {answer : (q : Query) → ω → q.Answer × ω} {s t : State} {w v : ω} {past : List Turn} {doc : Url}
  {text : String}

/-- A turn that did nothing. -/
theorem Answered.idle (h : Answered past s) (doc : Url) : Answered (⟨doc, s, []⟩ :: past) s where
  atRest := h.atRest
  sound := h.sound
  ordered := h.ordered
  held := h.held
  followed u text hserved hopen := (h.followed u text hserved hopen).later (.inl rfl)

theorem Succession.answered (h : Succession answer s w past t v) (hfresh : Fresh s) : Answered past t := by
  induction h with
  | initial => exact hfresh.answered
  | handled earlier hp run ih =>
      rcases (hp.completes ih.atRest (ih.ordered _)).of_run run with ⟨hnone, rfl⟩ | ⟨hbeside, hhandled⟩
      · rw [hnone]
        exact ih.idle _
      · exact ih.handled hbeside hhandled

/-- Whatever was handled before, the next handler comes to its end. -/
theorem Succession.finishes (h : Succession answer s w past t v) (hfresh : Fresh s) {p : Program State Unit}
    (hp : Concerns doc p) : ∃ (t' : State) (v' : ω) (said : List Exchange),
      p.run (recording answer) t (v, []) = .finished () t' (v', said) := by
  have hanswered := h.answered hfresh
  obtain ⟨_, t', v', said, run, -⟩ := (hp.completes hanswered.atRest (hanswered.ordered doc)).run answer v []
  exact ⟨t', v', _, run⟩

/-- The last list is that of the last own pass, or it was published since, and then it is what is kept of another
    document. -/
theorem Followed.last (h : Followed doc text past) :
    ∃ (later : List Turn) (own : Turn) (earlier : List Turn) (shown ds : List Diagnostic),
      past = later ++ own :: earlier ∧ own.doc = doc ∧ Table.get? own.state.documents doc = some text ∧
      own.published.get? doc = some shown ∧ structuralDiagnostics doc text <:+ shown ∧
      (∀ m ∈ later, m.doc = doc → m.published = []) ∧
      lastPublished? doc past = some ds ∧
      (ds = shown ∨ ∃ m ∈ later, m.doc ≠ doc ∧ m.published.get? doc = some ds ∧ m.kept.get? doc = some ds) := by
  obtain ⟨later, own, earlier, shown, rfl, hown, hleft, hshown, hends, hlater⟩ := h
  have hquiet : ∀ m ∈ later, m.doc = doc → m.published = [] :=
    fun m hm hdoc => (hlater m hm).resolve_right fun hother => hother.1 hdoc
  cases hlast : later.findSome? fun m => m.published.get? doc with
  | none =>
      refine ⟨later, own, earlier, shown, shown, rfl, hown, hleft, hshown, hends, hquiet, ?_, .inl rfl⟩
      rw [lastPublished?, List.findSome?_append, hlast, Option.none_or, List.findSome?_cons, hshown]
  | some ds =>
      refine ⟨later, own, earlier, shown, ds, rfl, hown, hleft, hshown, hends, hquiet, ?_, .inr ?_⟩
      · rw [lastPublished?, List.findSome?_append, hlast, Option.some_or]
      · obtain ⟨m, hm, hpublished⟩ := List.exists_of_findSome?_eq_some hlast
        rcases hlater m hm with hnothing | ⟨hdoc, hnone | hkept⟩
        · rw [hnothing] at hpublished
          cases hpublished
        · rw [hnone] at hpublished
          cases hpublished
        · exact ⟨m, hm, hdoc, hpublished, hkept ▸ hpublished⟩

/-- The handlers of any number of documents run one after another. After each of them every document that is open and
    that a folder serves has a last list. Its last own pass, since which no turn about the document published anything,
    left the stored text and published a list that ends with its structure. The last list is that one, or it is what a
    later turn about another document left kept of that document. So the last list ends with the structure unless such
    results name the document since its last own pass. -/
theorem last_list_comes_from_own_pass_or_kept_results (hfresh : Fresh s) (h : Succession answer s w past t v)
    (hserved : Serves t doc) (hopen : Table.get? t.documents doc = some text) :
    ∃ (later : List Turn) (own : Turn) (earlier : List Turn) (shown ds : List Diagnostic),
      past = later ++ own :: earlier ∧ own.doc = doc ∧ Table.get? own.state.documents doc = some text ∧
      own.published.get? doc = some shown ∧ structuralDiagnostics doc text <:+ shown ∧
      (∀ m ∈ later, m.doc = doc → m.published = []) ∧
      lastPublished? doc past = some ds ∧
      (ds = shown ∨ ∃ m ∈ later, m.doc ≠ doc ∧ m.published.get? doc = some ds ∧ m.kept.get? doc = some ds) ∧
      ((∀ m ∈ later, m.doc ≠ doc → m.kept.get? doc = none) → structuralDiagnostics doc text <:+ ds) := by
  have hfollowed := (h.answered hfresh).followed doc text hserved hopen
  obtain ⟨later, own, earlier, shown, ds, hpast, hown, hleft, hshown, hends, hquiet, hlast, hwhence⟩ := hfollowed.last
  refine ⟨later, own, earlier, shown, ds, hpast, hown, hleft, hshown, hends, hquiet, hlast, hwhence, ?_⟩
  intro hnone
  rcases hwhence with rfl | ⟨m, hm, hdoc, -, hkept⟩
  · exact hends
  · rw [hnone m hm hdoc] at hkept
    cases hkept

end Runs

/-! ### A report that names another document -/

section Reports

/-- Another document in the folder. -/
def vars : Url := { scheme := "file", authority := some "", path := "/work/vars.yml" }

/-- A report with one finding, in that document. -/
def varsReport : String :=
  "[\x7b\"check_name\":\"[name] x\",\"location\":\x7b\"path\":\"vars.yml\",\"lines\":\x7b\"begin\":1\x7d\x7d\x7d]"

/-- The diagnostic of the finding. -/
def reported : Diagnostic where
  range := Text.Range.toLineEnd ⟨0, 0⟩
  severity := .error
  message := "[name] x"
  source := Lint.lintSource
  code := some "name"

/-- A world without files in which every command ends well and prints that report. -/
def reportingWorld : (q : Query) → Unit → q.Answer × Unit
  | .run _, w => (.ok { stdout := varsReport }, w)
  | q, w => silentWorld q w

/-- The turn of a handler, if it comes to its end. -/
def turn? (answer : (q : Query) → Unit → q.Answer × Unit) (doc : Url) (p : Program State Unit) (s : State) :
    Option Turn :=
  match p.run (recording answer) s ((), []) with
  | .finished _ s' (_, said) => some ⟨doc, s', publishedLists said⟩
  | _ => none

theorem Succession.turn {answer : (q : Query) → Unit → q.Answer × Unit} {s t : State} {past : List Turn} {doc : Url}
    {p : Program State Unit} {m : Turn} (h : Succession answer s () past t ()) (hp : Concerns doc p)
    (hm : turn? answer doc p t = some m) : Succession answer s () (m :: past) m.state () := by
  unfold turn? at hm
  split at hm
  next run =>
      cases hm
      exact h.handled hp run
  next => cases hm

/-- The turns of opening a document with a bracket, and then another one with an empty text. -/
def bothOpened? : Option (Turn × Turn) := do
  let m ← turn? reportingWorld vars (handleOpen ⟨vars, "["⟩) oneFolder
  let m' ← turn? reportingWorld site (handleOpen ⟨site, ""⟩) m.state
  return (m, m')

theorem bothOpened : (bothOpened?.map fun (_, m') => ((m'.state.workspace.folderFor? vars).isSome,
    Table.get? m'.state.documents vars, m'.published.get? vars)) = some (true, some "[", some [reported]) := by
  decide +kernel

theorem vars_named_by_report : ∃ (past : List Turn) (t : State), Succession reportingWorld oneFolder () past t () ∧
    Serves t vars ∧ Table.get? t.documents vars = some "[" ∧ lastPublished? vars past = some [reported] := by
  obtain ⟨⟨m, m'⟩, hboth, hseen⟩ := Option.map_eq_some_iff.1 bothOpened
  obtain ⟨first, hfirst, hrest⟩ := Option.bind_eq_some_iff.1 hboth
  obtain ⟨second, hsecond, hpair⟩ := Option.bind_eq_some_iff.1 hrest
  cases hpair
  obtain ⟨hserved, hopen, hpublished⟩ : _ ∧ _ ∧ _ := by simpa using hseen
  have hturns := (Succession.initial.turn (.opened "[") hfirst).turn (.opened "") hsecond
  refine ⟨_, _, hturns, hserved, hopen, ?_⟩
  rw [lastPublished?, List.findSome?_cons, hpublished]

theorem fresh_oneFolder : Fresh oneFolder :=
  ⟨⟨rfl, List.forall_mem_nil _, nofun, List.forall_mem_nil _⟩, rfl, rfl⟩

/-- The report on the second document names the first one, whose own list the report's list replaces. -/
theorem last_list_of_named_vars : ∃ (past : List Turn) (t : State), Fresh oneFolder ∧
    Succession reportingWorld oneFolder () past t () ∧ Serves t vars ∧ Table.get? t.documents vars = some "[" ∧
    lastPublished? vars past = some [reported] ∧
    ∃ (later : List Turn) (own : Turn) (earlier : List Turn) (shown ds : List Diagnostic),
      past = later ++ own :: earlier ∧ own.doc = vars ∧ Table.get? own.state.documents vars = some "[" ∧
      own.published.get? vars = some shown ∧ structuralDiagnostics vars "[" <:+ shown ∧
      (∀ m ∈ later, m.doc = vars → m.published = []) ∧ lastPublished? vars past = some ds ∧
      (ds = shown ∨ ∃ m ∈ later, m.doc ≠ vars ∧ m.published.get? vars = some ds ∧ m.kept.get? vars = some ds) ∧
      ((∀ m ∈ later, m.doc ≠ vars → m.kept.get? vars = none) → structuralDiagnostics vars "[" <:+ ds) := by
  obtain ⟨past, t, hturns, hserved, hopen, hlast⟩ := vars_named_by_report
  exact ⟨past, t, fresh_oneFolder, hturns, hserved, hopen, hlast,
    last_list_comes_from_own_pass_or_kept_results fresh_oneFolder hturns hserved hopen⟩

/-- When the linter's report on another document names a document that a folder serves, the last list of this one is
    what the report says and holds nothing of its structure; so it does not hold the structure unless there is none.
    And for a document that no folder serves nothing is published at all. -/
theorem report_on_another_document_hides_structure :
    (∃ (past : List Turn) (t : State), Succession reportingWorld oneFolder () past t () ∧ Serves t vars ∧
      Table.get? t.documents vars = some "[" ∧ lastPublished? vars past = some [reported] ∧
      ∀ d ∈ structuralDiagnostics vars "[", d ∉ [reported]) ∧
    -- the tables of the parser, which finds the fault of the text, are too large to be computed in a proof
    (structuralDiagnostics vars "[" ≠ [] →
      ¬ ∀ (answer : (q : Query) → Unit → q.Answer × Unit) (s t : State) (past : List Turn) (doc : Url) (text : String),
        Fresh s → Succession answer s () past t () → Serves t doc → Table.get? t.documents doc = some text →
        ∃ ds, lastPublished? doc past = some ds ∧ ∀ d ∈ structuralDiagnostics doc text, d ∈ ds) ∧
    ¬ ∀ (answer : (q : Query) → Unit → q.Answer × Unit) (s t : State) (past : List Turn) (doc : Url) (text : String),
      Fresh s → Succession answer s () past t () → Table.get? t.documents doc = some text →
      ∃ ds, lastPublished? doc past = some ds ∧ ∀ d ∈ structuralDiagnostics doc text, d ∈ ds := by
  obtain ⟨past, t, hturns, hserved, hopen, hlast⟩ := vars_named_by_report
  have hhidden : ∀ d ∈ structuralDiagnostics vars "[", d ∉ [reported] := by
    intro d hd hreported
    have hsource := source_of_mem_structuralDiagnostics hd
    rw [List.mem_singleton.1 hreported] at hsource
    exact absurd hsource (by decide)
  refine ⟨⟨past, t, hturns, hserved, hopen, hlast, hhidden⟩, fun hfaulty hclaim => ?_, fun hclaim => ?_⟩
  · obtain ⟨d, hd⟩ := List.exists_mem_of_ne_nil _ hfaulty
    obtain ⟨ds, hds, hall⟩ := hclaim reportingWorld oneFolder t past vars "[" fresh_oneFolder hturns hserved hopen
    cases hlast.symm.trans hds
    exact hhidden d hd (hall d hd)
  · have hfresh : Fresh {} := ⟨⟨rfl, List.forall_mem_nil _, nofun, List.forall_mem_nil _⟩, rfl, rfl⟩
    have hturn := Succession.initial.turn (m := ⟨draft, _, []⟩) (.opened "[")
      (show turn? reportingWorld draft (handleOpen ⟨draft, "["⟩) {} = _ from rfl)
    obtain ⟨ds, hlast, -⟩ := hclaim reportingWorld {} _ _ draft "[" hfresh hturn rfl
    cases hlast

end Reports

end Server

end PlaybookServer

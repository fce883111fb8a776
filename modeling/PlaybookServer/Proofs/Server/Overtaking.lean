/-
Module: PlaybookServer.Proofs.Server.Overtaking
Purpose: Which text of a document the client sees the structure of, where passes over the document overtake each
  other. A full pass takes the text when it begins and publishes when its commands have ended; meanwhile the document
  may be changed, and a quick pass may show the new text. So the list that was published last ends with the structure
  of the text that its own pass began with, and with that of the text of now if that is the one it began with.
Main exports: awaitingCommands, Concerns, Validating, Ends, upholds_validateDocument, last_list_shows_text_of_its_pass,
  overtaken_pass_shows_older_text
-/
import PlaybookServer.Proofs.Effect.Timeline
import PlaybookServer.Proofs.Server.Publication
import PlaybookServer.Proofs.Workspace.Validation

namespace PlaybookServer

open Effect

/-! ### Lists that were published -/

namespace ByFile

theorem get?_append (m m' : ByFile) (u : Url) : (m ++ m').get? u = (m.get? u).or (m'.get? u) := by
  induction m with
  | nil => rfl
  | cons e m ih =>
      rw [List.cons_append, get?_cons, get?_cons, ih]
      split <;> rfl

theorem mem_of_get? {m : ByFile} {u : Url} {ds : List Diagnostic} (h : m.get? u = some ds) : (u, ds) ∈ m :=
  Table.mem_of_get? h

theorem get?_of_mem {m : ByFile} (hm : m.files.Nodup) {u : Url} {ds : List Diagnostic} (h : (u, ds) ∈ m) :
    m.get? u = some ds :=
  Table.get?_of_mem hm h

theorem mem_files_of_get? {m : ByFile} {u : Url} {ds : List Diagnostic} (h : m.get? u = some ds) : u ∈ m.files :=
  List.mem_map_of_mem (f := Prod.fst) (mem_of_get? h)

/-- Where each file has one entry, it does not matter from which end it is looked up. -/
theorem get?_reverse {m : ByFile} (hm : m.files.Nodup) (u : Url) : ByFile.get? m.reverse u = m.get? u := by
  have hreverse : (files m.reverse).Nodup := by
    rw [files, List.map_reverse]
    exact List.nodup_reverse.2 hm
  cases hget : m.get? u with
  | some ds => exact get?_of_mem hreverse (List.mem_reverse.2 (mem_of_get? hget))
  | none =>
      cases hlast : ByFile.get? m.reverse u with
      | none => rfl
      | some ds =>
          rw [get?_of_mem hm (List.mem_reverse.1 (mem_of_get? hlast))] at hget
          cases hget

/-- Files that are cleared after a map was published, the last list first: the others have their list of the map. -/
theorem get?_cleared {m : ByFile} (hm : m.files.Nodup) {cleared : List Url} {u : Url} (hu : u ∉ cleared) :
    ByFile.get? ((cleared.map fun f => (f, [])).reverse ++ m.reverse) u = m.get? u := by
  have hnone : ByFile.get? (cleared.map fun f => (f, [])).reverse u = none := by
    apply get?_eq_none
    simpa [files] using hu
  rw [get?_append, hnone, Option.none_or, get?_reverse hm]

end ByFile

namespace Server

/-- A handler is suspended only while a command runs. The lists that are published are noted, the last one first. -/
def awaitingCommands : Schedule ByFile where
  suspends
    | .run _ => true
    | _ => false
  note
    | .publish file ds, published => (file, ds) :: published
    | _, published => published

/-- The handlers of what the client tells about one document. -/
inductive Concerns (doc : Url) : Program State Unit → Prop where
  | opened (text : String) : Concerns doc (handleOpen ⟨doc, text⟩)
  | changed (texts : List String) : Concerns doc (handleChange ⟨doc, texts⟩)
  | saved (text : Option String) : Concerns doc (handleSave ⟨doc, text⟩)
  | closed : Concerns doc (handleClose doc)

/-- A list was published for a document that ends with the structure of a text. -/
def Shows (doc : Url) (text : String) (published : ByFile) : Prop :=
  ∃ ds, published.get? doc = some ds ∧ structuralDiagnostics doc text <:+ ds

/-- A folder serves a document, validation is enabled in every folder, and what is kept of the document is in order. -/
structure Validating (doc : Url) (w : Workspace.State) : Prop where
  enabled : w.settings.validation.enabled = true
  contexts : ∀ c ∈ w.contexts, c.settings.validation.enabled = true
  inUse : ∀ f n, Table.get? w.inUse f = some n → n < w.contexts.length
  served : (w.folderFor? doc).isSome = true
  ordered : (w.ledger.cached doc).Ordered

namespace Validating

variable {doc : Url} {w w' : Workspace.State}

/-- Only the results that are kept of the document matter of the ledger. -/
theorem ledger (h : Validating doc w) {l : Ledger} (hl : (l.cached doc).Ordered) :
    Validating doc { w with ledger := l } :=
  ⟨h.enabled, h.contexts, h.inUse, h.served, hl⟩

theorem putContext (h : Validating doc w) {n : Nat} {c : Workspace.Context}
    (hc : c.settings = (w.context n).settings) : Validating doc (Workspace.State.putContext n c w) where
  enabled := h.enabled
  contexts c' hc' := by
    by_cases hn : n < w.contexts.length
    · rcases List.mem_or_eq_of_mem_set hc' with hmem | rfl
      · exact h.contexts c' hmem
      · rw [hc]
        exact h.contexts _ (Workspace.State.context_mem hn)
    · rw [Workspace.State.putContext, List.set_eq_of_length_le (Nat.le_of_not_lt hn)] at hc'
      exact h.contexts c' hc'
  inUse f n' hn' := by
    rw [Workspace.State.putContext, List.length_set]
    exact h.inUse f n' hn'
  served := h.served
  ordered := h.ordered

/-- The context of a served document is there, or it is made with the settings of the workspace. -/
theorem contextFor (h : Validating doc w) : ∃ n w', w.contextFor? doc = (some n, w') ∧
    n < w'.contexts.length ∧ Validating doc w' := by
  obtain ⟨f, hf⟩ := Option.isSome_iff_exists.1 h.served
  rw [Workspace.State.contextFor?, hf]
  cases hn : Table.get? w.inUse f.uri with
  | some n => exact ⟨n, w, by simp only [hn], h.inUse f.uri n hn, h⟩
  | none =>
      refine ⟨w.contexts.length, { w with
        inUse := Table.set w.inUse f.uri w.contexts.length
        contexts := w.contexts ++ [{ folder := f, host := w.host, settings := w.settings }] },
        by simp only [hn], by simp, h.enabled, ?_, ?_, h.served, h.ordered⟩
      · intro c hc
        rcases List.mem_append.1 hc with hold | hnew
        · exact h.contexts c hold
        · rw [List.mem_singleton.1 hnew]
          exact h.enabled
      · intro g n hg
        rw [Table.get?_set] at hg
        rw [List.length_append, List.length_singleton]
        split at hg
        next =>
            obtain rfl := Option.some.inj hg
            exact Nat.lt_succ_self _
        next => exact Nat.lt_succ_of_lt (h.inUse g n hg)

end Validating

/-- Between two runs nothing was published yet in the next one. -/
def Between (doc : Url) (s : State) (published : ByFile) : Prop := Validating doc s.workspace ∧ published = []

/-- A pass over a document that began with a text has ended: if the document is open, it showed the structure of that
    text. -/
def Ends (doc : Url) (text : String) (_ : Unit) (s : State) (published : ByFile) : Prop :=
  Validating doc s.workspace ∧ ((Table.get? s.documents doc).isSome = true → Shows doc text published)

/-! ### A pass -/

variable {doc : Url} {text : String} {s : State}

theorem upholds_publishing {promised : Unit → State → ByFile → Prop} {I : State → ByFile → Prop} (m : ByFile)
    {published : ByFile} (h : promised () s (m.reverse ++ published)) :
    (publishAll m).Upholds awaitingCommands I promised s published := by
  induction m generalizing published with
  | nil => exact h
  | cons e m ih =>
      rw [List.reverse_cons, List.append_assoc] at h
      exact fun _ => ih h

/-- What is found for an open document is shown, and nothing that is cleared hides it. -/
theorem upholds_showing (h : Validating doc s.workspace) {found : ByFile} (hfound : found.Ordered)
    (hshows : Shows doc text found) : (publishResults doc found).Upholds awaitingCommands (Between doc)
      (Ends doc text) s [] := by
  obtain ⟨ds, hget, hends⟩ := hshows
  refine (Program.upholds_bind _ (publishAll found) _ _ _).2 (upholds_publishing found ?_)
  refine upholds_publishing _ ⟨h.ledger ?_, fun _ => ⟨ds, ?_, hends⟩⟩
  · rw [Ledger.cached, Ledger.track_results, ← Ledger.cached]
    exact h.ordered
  · have hkept : doc ∉ (s.workspace.ledger.track doc found).1 := Ledger.not_mem_track (ByFile.mem_files_of_get? hget)
    rw [List.append_nil, ByFile.get?_cleared hfound.nodup hkept]
    exact hget

/-- Nothing is published, and a document that is validated stays one. -/
def KeepsValidating (doc : Url) : Act State → Prop
  | .ask q => q.PublishesNothing
  | .change f => ∀ s, Validating doc s.workspace → Validating doc (f s).workspace

/-- While the tools look, others may run; validation stays enabled. -/
theorem upholds_tools (n : Nat) (h : Between doc s []) :
    (inWorkspace (Workspace.inContext n (Workspace.fullPass doc text))).Upholds awaitingCommands (Between doc)
      (fun found s published => Between doc s published ∧ found.Ordered) s [] := by
  have hwithin : (inWorkspace (Workspace.inContext n (Workspace.fullPass doc text))).Within (KeepsValidating doc)
      ByFile.Ordered := by
    unfold inWorkspace Workspace.inContext
    rw [Program.zoom_zoom]
    refine Program.within_zoom ((Workspace.within_fullPass doc text).and
      (Workspace.spares_settings_fullPass doc text)) ?_ ?_ |>.mono (fun _ hact => hact) fun _ hv => hv.1
    · exact fun q hq => hq.1
    · exact fun f hf s h => h.putContext (hf.2 _)
  refine hwithin.upholds ?_ ?_ ?_ h
  · exact fun f s published hf h => ⟨hf s h.1, h.2⟩
  · intro q published hq
    cases q with
    | publish file ds => exact absurd hq id
    | _ => rfl
  · exact fun found s published hfound h => ⟨h, hfound⟩

/-- What a pass finds ends with the structure of its text. -/
theorem upholds_finding {n : Nat} (h : Between doc s []) (hn : n < s.workspace.contexts.length) (quick : Bool) :
    (inWorkspace (Workspace.validate n doc text quick)).Upholds awaitingCommands (Between doc)
      (fun found s published => Between doc s published ∧ found.Ordered ∧ Shows doc text found) s [] := by
  have hshows {m : ByFile} (hm : m.Ordered) : Shows doc text (m.add doc (structuralDiagnostics doc text)) :=
    ⟨_, by rw [hm.get?_add, if_pos rfl], List.suffix_append _ _⟩
  have henabled : (s.workspace.context n).settings.validation.enabled = true :=
    h.1.contexts _ (Workspace.State.context_mem hn)
  unfold Workspace.validate inWorkspace
  rw [Program.zoom_bind]
  show Program.Upholds _ _ _ (Program.zoom _ _ (if _ then _ else _)) _ _
  rw [henabled]
  cases quick with
  | true => exact ⟨h, h.1.ordered.add doc _, hshows h.1.ordered⟩
  | false =>
      show Program.Upholds _ _ _ (Program.zoom _ _ (_ >>= _)) _ _
      rw [Program.zoom_bind]
      refine (upholds_tools n h).bind ?_
      rintro found s published ⟨h, hfound⟩
      have hkept : (found.add doc []).Ordered := hfound.add doc []
      refine ⟨⟨h.1.ledger ?_, h.2⟩, hkept.add doc _, hshows hkept⟩
      rw [Workspace.cached_store, if_pos rfl]
      exact hkept

/-- A pass over an open document ends with the text that it began with, wherever it is suspended and whatever happens
    to the document meanwhile. -/
theorem upholds_validateDocument (h : Between doc s []) (hopen : Table.get? s.documents doc = some text)
    (quick : Bool) : (validateDocument doc quick).Upholds awaitingCommands (Between doc) (Ends doc text) s [] := by
  refine (Program.upholds_look _ s []).bind ?_
  rintro stored s published ⟨rfl, rfl, rfl⟩
  rw [hopen]
  obtain ⟨n, w, hcontext, hn, hw⟩ := h.1.contextFor
  have hfor : (contextFor doc).Upholds awaitingCommands (Between doc)
      (fun number s published => number = some n ∧ n < s.workspace.contexts.length ∧ Between doc s published ∧
        published = []) s [] := by
    show (s.workspace.contextFor? doc).1 = some n ∧ n < (s.workspace.contextFor? doc).2.contexts.length ∧
      (Validating doc (s.workspace.contextFor? doc).2 ∧ _) ∧ _
    rw [hcontext]
    exact ⟨rfl, hn, ⟨hw, rfl⟩, rfl⟩
  refine hfor.bind ?_
  rintro number s published ⟨rfl, hn, h, rfl⟩
  refine (upholds_finding h hn quick).bind ?_
  rintro found s published ⟨⟨h, rfl⟩, hfound, hshows⟩
  refine (Program.upholds_look _ s []).bind ?_
  rintro stillOpen s published ⟨hstill, rfl, rfl⟩
  cases stillOpen with
  | true => exact upholds_showing h hfound hshows
  | false =>
      refine ⟨h.ledger ?_, fun hsome => absurd (hstill.trans hsome) (by decide)⟩
      rw [Workspace.cached_release, if_pos rfl]
      exact ByFile.Ordered.nil

/-! ### Passes leave the texts alone -/

theorem spares_inWorkspace {α : Type} (p : Program Workspace.State α) : (inWorkspace p).Spares State.documents :=
  Program.within_zoom (Program.within_anything p) (fun _ _ => trivial) fun _ _ _ => rfl

theorem spares_validateDocument (doc : Url) (quick : Bool) : (validateDocument doc quick).Spares State.documents := by
  refine (within_look _).bind fun text _ => ?_
  split
  next => trivial
  next text =>
      refine (spares_inWorkspace _).bind fun number _ => ?_
      split
      next => trivial
      next n =>
          refine (spares_inWorkspace _).bind fun found _ => ?_
          refine (within_look _).bind fun stillOpen _ => ?_
          split
          next =>
              refine (spares_inWorkspace _).bind fun stale _ => ?_
              exact (spares_publishAll found).bind fun _ _ => spares_publishAll _
          next => exact spares_inWorkspace _

/-! ### Handlers -/

/-- A suspended pass that began with a text. -/
def Carries (doc : Url) (text : String) (p : Program State Unit) : Prop :=
  p.Spares State.documents ∧ p.ReadyTo awaitingCommands (Between doc) (Ends doc text)

theorem Carries.ne_done {p : Program State Unit} (h : Carries doc text p) : p ≠ .done () := by
  rintro rfl
  exact h.2

/-- How things stand after the first run of a handler: its pass over the stored text is suspended or has shown its
    structure, or the document is closed. -/
inductive Left (doc : Url) (s : State) (published : ByFile) : Program State Unit → Prop where
  | suspended {p : Program State Unit} (text : String) (hopen : Table.get? s.documents doc = some text)
      (hcarries : Carries doc text p) : Left doc s published p
  | shown (text : String) (hopen : Table.get? s.documents doc = some text) (hshows : Shows doc text published) :
      Left doc s published (.done ())
  | closed (hclosed : Table.get? s.documents doc = none) : Left doc s published (.done ())

variable {s' : State} {p p' : Program State Unit} {published : ByFile}

theorem left_of_pass (h : Validating doc s.workspace) {quick : Bool}
    (run : Advances awaitingCommands (validateDocument doc quick) s [] p' s' published) :
    Validating doc s'.workspace ∧ Left doc s' published p' := by
  obtain ⟨hdocuments, hspares⟩ := run.spares (spares_validateDocument doc quick)
  cases hopen : Table.get? s.documents doc with
  | none =>
      -- a document that is not open is passed over
      have hnothing : (validateDocument doc quick).Upholds awaitingCommands (fun _ _ => False)
          (fun _ s' _ => Validating doc s'.workspace) s [] := by
        refine (Program.upholds_look _ s []).bind ?_
        rintro stored s published ⟨rfl, rfl, rfl⟩
        rw [hopen]
        exact h
      rcases run.upholds_to hnothing with ⟨_, rfl, hvalidating⟩ | ⟨hfalse, -⟩
      · exact ⟨hvalidating, .closed (hdocuments ▸ hopen)⟩
      · exact absurd hfalse id
  | some text =>
      rw [← hdocuments] at hopen
      rcases run.upholds_to (upholds_validateDocument ⟨h, rfl⟩ (hdocuments ▸ hopen) quick) with
        ⟨_, rfl, hvalidating, hshows⟩ | ⟨hbetween, hready⟩
      · exact ⟨hvalidating, .shown text hopen (hshows (by rw [hopen]; rfl))⟩
      · exact ⟨hbetween.1, .suspended text hopen ⟨hspares, hready⟩⟩

/-- A handler's first run stores a text and begins a pass over it, or closes the document; a change without texts does
    nothing. -/
theorem Concerns.left (hp : Concerns doc p) (h : Validating doc s.workspace)
    (run : Advances awaitingCommands p s [] p' s' published) :
    Validating doc s'.workspace ∧ (Left doc s' published p' ∨
      p' = .done () ∧ published = [] ∧ Table.get? s'.documents doc = Table.get? s.documents doc) := by
  have hstored {text : String} {quick : Bool} (run : Advances awaitingCommands
      (.change (fun s => s.openDocument doc text) (validateDocument doc quick)) s [] p' s' published) :
      Validating doc s'.workspace ∧ Left doc s' published p' := by
    cases run with
    | change run =>
        have hstored : Validating doc (s.openDocument doc text).workspace := h
        exact left_of_pass hstored run
  cases hp with
  | opened text =>
      obtain ⟨hvalidating, hleft⟩ := hstored run
      exact ⟨hvalidating, .inl hleft⟩
  | changed texts =>
      unfold handleChange at run
      split at run
      next =>
          cases run with
          | done => exact ⟨h, .inr ⟨rfl, rfl, rfl⟩⟩
      next text _ =>
          obtain ⟨hvalidating, hleft⟩ := hstored run
          exact ⟨hvalidating, .inl hleft⟩
  | saved text =>
      cases text with
      | none =>
          obtain ⟨hvalidating, hleft⟩ := left_of_pass h run
          exact ⟨hvalidating, .inl hleft⟩
      | some text =>
          obtain ⟨hvalidating, hleft⟩ := hstored run
          exact ⟨hvalidating, .inl hleft⟩
  | closed =>
      have hclosed : (handleClose doc).Upholds awaitingCommands (fun _ _ => False)
          (fun _ s' _ => Validating doc s'.workspace ∧ Table.get? s'.documents doc = none) s [] := by
        refine upholds_publishing _ ⟨h.ledger ?_, ?_⟩
        · show ((s.workspace.ledger.release doc).2.cached doc).Ordered
          rw [Workspace.cached_release, if_pos rfl]
          exact ByFile.Ordered.nil
        · show Table.get? (Table.erase s.documents doc) doc = none
          rw [Table.get?_erase, if_pos rfl]
      rcases run.upholds_to hclosed with ⟨_, rfl, hvalidating, hnone⟩ | ⟨hfalse, -⟩
      · exact ⟨hvalidating, .inl (.closed hnone)⟩
      · exact absurd hfalse id

/-! ### Every order of events -/

/-- The list that was published last for a document. -/
def lastList? (doc : Url) (past : List (Moment State ByFile)) : Option (List Diagnostic) :=
  ByFile.get? (past.flatMap Moment.noted) doc

/-- The run in which a list was published last for a document belongs to a pass that began with a text; the list ends
    with the structure of that text, and the stored text is the same since. -/
def Settled (doc : Url) (past : List (Moment State ByFile)) (s : State) : Prop :=
  ∃ (later : List (Moment State ByFile)) (m : Moment State ByFile) (earlier : List (Moment State ByFile))
    (begun : State) (text : String), past = later ++ m :: earlier ∧ begun? m.task (m :: earlier) = some begun ∧
    Table.get? begun.documents doc = some text ∧ Shows doc text m.noted ∧
    Table.get? m.state.documents doc = Table.get? s.documents doc ∧
    ∀ m' ∈ later, ByFile.get? m'.noted doc = none ∧
      Table.get? m'.state.documents doc = Table.get? s.documents doc

/-- A handler has ended, or it is a suspended pass that carries the text that it began with. -/
def Stands (doc : Url) (past : List (Moment State ByFile)) (i : Nat) (p : Program State Unit) : Prop :=
  p = .done () ∨ ∃ begun text, begun? i past = some begun ∧ Table.get? begun.documents doc = some text ∧
    Carries doc text p

/-- Every handler has ended or carries its text. If the document is open and no pass is suspended, the last list is
    settled. -/
structure Tracked (doc : Url) (past : List (Moment State ByFile)) (tasks : List (Program State Unit)) (s : State) :
    Prop where
  validating : Validating doc s.workspace
  stands : ∀ i p, tasks[i]? = some p → Stands doc past i p
  settled : (Table.get? s.documents doc).isSome = true → (∃ p ∈ tasks, p ≠ .done ()) ∨ Settled doc past s

theorem Stands.later {past : List (Moment State ByFile)} {i : Nat} (h : Stands doc past i p)
    (m : Moment State ByFile) : Stands doc (m :: past) i p := by
  rcases h with hdone | ⟨begun, text, hbegun, htext, hcarries⟩
  · exact .inl hdone
  · exact .inr ⟨begun, text, begun?_cons_of_some hbegun m, htext, hcarries⟩

theorem Settled.stay {past : List (Moment State ByFile)} (h : Settled doc past s)
    (hsame : Table.get? s'.documents doc = Table.get? s.documents doc) (task : Nat) :
    Settled doc (⟨task, s', []⟩ :: past) s' := by
  obtain ⟨later, m, earlier, begun, text, rfl, hbegun, htext, hshows, hstored, hlater⟩ := h
  refine ⟨⟨task, s', []⟩ :: later, m, earlier, begun, text, rfl, hbegun, htext, hshows, hstored.trans hsame.symm, ?_⟩
  intro m' hm'
  rcases List.mem_cons.1 hm' with rfl | hm'
  · exact ⟨rfl, rfl⟩
  · exact ⟨(hlater m' hm').1, (hlater m' hm').2.trans hsame.symm⟩

/-- A list that has just been published is settled. -/
theorem settled_of_shows {past : List (Moment State ByFile)} {task : Nat} {begun : State}
    (hbegun : begun? task (⟨task, s, published⟩ :: past) = some begun)
    (htext : Table.get? begun.documents doc = some text) (hshows : Shows doc text published) :
    Settled doc (⟨task, s, published⟩ :: past) s :=
  ⟨[], _, past, begun, text, rfl, hbegun, htext, hshows, rfl, by simp⟩

/-- A handler was started. It is the last of all, and its own first run is when it began. -/
theorem Tracked.start {past : List (Moment State ByFile)} {tasks : List (Program State Unit)}
    (h : Tracked doc past tasks s) (hnew : begun? tasks.length past = none) (hp : Concerns doc p)
    (run : Advances awaitingCommands p s [] p' s' published) :
    Tracked doc (⟨tasks.length, s', published⟩ :: past) (tasks ++ [p']) s' := by
  obtain ⟨hvalidating, hleft⟩ := hp.left h.validating run
  have hbegun : begun? tasks.length (⟨tasks.length, s', published⟩ :: past) = some s' :=
    begun?_cons_self (m := ⟨tasks.length, s', published⟩) hnew
  refine ⟨hvalidating, fun i q hq => ?_, fun hopen => ?_⟩
  · rcases Nat.lt_or_ge i tasks.length with hi | hi
    · rw [List.getElem?_append_left hi] at hq
      exact (h.stands i q hq).later _
    · obtain ⟨rfl, rfl⟩ : i = tasks.length ∧ q = p' := by
        rw [List.getElem?_append_right hi, List.getElem?_singleton] at hq
        split at hq
        next hzero => exact ⟨by omega, (Option.some.inj hq).symm⟩
        next => cases hq
      rcases hleft with hleft | ⟨hdone, -, -⟩
      · cases hleft with
        | suspended text hstored hcarries => exact .inr ⟨s', text, hbegun, hstored, hcarries⟩
        | shown => exact .inl rfl
        | closed => exact .inl rfl
      · exact .inl hdone
  · rcases hleft with hleft | ⟨rfl, rfl, hsame⟩
    · cases hleft with
      | suspended text hstored hcarries => exact .inl ⟨p', by simp, hcarries.ne_done⟩
      | shown text hstored hshows => exact .inr (settled_of_shows hbegun hstored hshows)
      | closed hnone =>
          rw [hnone] at hopen
          cases hopen
    · rw [hsame] at hopen
      rcases h.settled hopen with ⟨q, hq, hne⟩ | hsettled
      · exact .inl ⟨q, List.mem_append_left _ hq, hne⟩
      · exact .inr (hsettled.stay hsame _)

/-- A suspended pass went on. It leaves the texts alone; if it ended, what it showed is settled. -/
theorem Tracked.resume {past : List (Moment State ByFile)} {before after : List (Program State Unit)}
    (h : Tracked doc past (before ++ p :: after) s) (run : Resumes awaitingCommands p s [] p' s' published) :
    Tracked doc (⟨before.length, s', published⟩ :: past) (before ++ p' :: after) s' := by
  rcases h.stands before.length p (by simp) with rfl | ⟨begun, text, hbegun, htext, hspares, hready⟩
  · cases run
  · obtain ⟨hdocuments, hspares'⟩ := run.spares hspares
    have hbegun' := begun?_cons_of_some hbegun (⟨before.length, s', published⟩ : Moment State ByFile)
    have hstands (hself : p' = .done () ∨ Carries doc text p') (i : Nat) (q : Program State Unit)
        (hq : (before ++ p' :: after)[i]? = some q) : Stands doc (⟨before.length, s', published⟩ :: past) i q := by
      by_cases hi : i = before.length
      · subst hi
        obtain rfl : q = p' := by simpa using hq.symm
        exact hself.imp_right fun hcarries => ⟨begun, text, hbegun', htext, hcarries⟩
      · rw [getElem?_replace hi (a := p)] at hq
        exact (h.stands i q hq).later _
    rcases run.upholds_to hready ⟨h.validating, rfl⟩ with ⟨_, rfl, hvalidating, hshows⟩ | ⟨hbetween, hready'⟩
    · exact ⟨hvalidating, hstands (.inl rfl), fun hopen => .inr (settled_of_shows hbegun' htext (hshows hopen))⟩
    · have hcarries : Carries doc text p' := ⟨hspares', hready'⟩
      exact ⟨hbetween.1, hstands (.inr hcarries), fun _ => .inl ⟨p', by simp, hcarries.ne_done⟩⟩

theorem tracked_of_timeline {past : List (Moment State ByFile)} {tasks : List (Program State Unit)} {t : State}
    (hvalidating : Validating doc s.workspace) (hclosed : Table.get? s.documents doc = none)
    (h : Timeline awaitingCommands [] (Concerns doc) s past tasks t) : Tracked doc past tasks t := by
  induction h with
  | initial =>
      refine ⟨hvalidating, fun i p hp => ?_, fun hopen => ?_⟩
      · rw [List.getElem?_nil] at hp
        cases hp
      · rw [hclosed] at hopen
        cases hopen
  | start earlier hp run ih => exact ih.start (earlier.begun?_eq_none (Nat.le_refl _)) hp run
  | resume earlier run ih => exact ih.resume run

theorem lastList?_eq {later : List (Moment State ByFile)} {m : Moment State ByFile}
    {earlier : List (Moment State ByFile)} {ds : List Diagnostic}
    (hlater : ∀ m' ∈ later, ByFile.get? m'.noted doc = none) (hm : ByFile.get? m.noted doc = some ds) :
    lastList? doc (later ++ m :: earlier) = some ds := by
  induction later with
  | nil => rw [lastList?, List.nil_append, List.flatMap_cons, ByFile.get?_append, hm, Option.some_or]
  | cons m' later ih =>
      rw [lastList?, List.cons_append, List.flatMap_cons, ByFile.get?_append, hlater m' List.mem_cons_self,
        Option.none_or]
      exact ih fun m'' hm'' => hlater m'' (List.mem_cons_of_mem _ hm'')

/-- A document that a folder serves is opened, changed, saved and closed in any order, and its handlers are suspended
    while commands run. Whenever it is open and no handler is under way, the list that was published last for it ends
    with the structure of the text that was stored when the pass that published it began; the text of now was stored
    before that list was published. So if it is the text that the pass began with, the list ends with its structure. -/
theorem last_list_shows_text_of_its_pass {past : List (Moment State ByFile)} {tasks : List (Program State Unit)}
    {t : State} (hvalidating : Validating doc s.workspace) (hclosed : Table.get? s.documents doc = none)
    (h : Timeline awaitingCommands [] (Concerns doc) s past tasks t) (hdone : ∀ p ∈ tasks, p = .done ())
    (hopen : Table.get? t.documents doc = some text) :
    ∃ (later : List (Moment State ByFile)) (m : Moment State ByFile) (earlier : List (Moment State ByFile))
      (begun : State) (old : String) (ds : List Diagnostic), past = later ++ m :: earlier ∧
      lastList? doc past = some ds ∧ ByFile.get? m.noted doc = some ds ∧
      (∀ m' ∈ later, ByFile.get? m'.noted doc = none ∧ Table.get? m'.state.documents doc = some text) ∧
      Table.get? m.state.documents doc = some text ∧
      begun? m.task (m :: earlier) = some begun ∧ Table.get? begun.documents doc = some old ∧
      structuralDiagnostics doc old <:+ ds ∧
      (Table.get? begun.documents doc = some text → structuralDiagnostics doc text <:+ ds) := by
  have htracked := tracked_of_timeline hvalidating hclosed h
  rcases htracked.settled (by rw [hopen]; rfl) with ⟨p, hp, hne⟩ | hsettled
  · exact absurd (hdone p hp) hne
  · obtain ⟨later, m, earlier, begun, old, rfl, hbegun, hold, ⟨ds, hds, hends⟩, hstored, hlater⟩ := hsettled
    rw [hopen] at hstored
    refine ⟨later, m, earlier, begun, old, ds, rfl, lastList?_eq (fun m' hm' => (hlater m' hm').1) hds, hds,
      fun m' hm' => ?_, hstored, hbegun, hold, hends, fun hsame => ?_⟩
    · exact ⟨(hlater m' hm').1, (hlater m' hm').2.trans hopen⟩
    · obtain rfl : old = text := Option.some.inj (hold.symm.trans hsame)
      exact hends

/-- The document is opened with an empty text, and changed to a bracket while the first command of the pass runs. Both
    commands find nothing, and the pass ends. -/
def overtakingMoves : List (Move State Unit) :=
  [.start (handleOpen ⟨site, ""⟩), .start (handleChange ⟨site, ["["]⟩), .resume 0, .resume 0]

/-- What happens when these moves are made. -/
def overtaken? : Option (List (Moment State ByFile) × List (Program State Unit) × State) :=
  Timeline.play? awaitingCommands [] quietAnswer overtakingMoves [] [] oneFolder

theorem overtaken_shown : overtaken?.map (fun r => (r.1.map Moment.noted, r.2.1, Table.get? r.2.2.documents site)) =
    some ([[(site, structuralDiagnostics site "")], [], [(site, structuralDiagnostics site "[")], []],
      [.done (), .done ()], some "[") := rfl

/-- The pass shows last what it found in the empty text. -/
theorem site_overtaken : ∃ (past : List (Moment State ByFile)) (tasks : List (Program State Unit)) (t : State),
    Timeline awaitingCommands [] (Concerns site) oneFolder past tasks t ∧ (∀ p ∈ tasks, p = .done ()) ∧
    Table.get? t.documents site = some "[" ∧ past.map Moment.noted =
      [[(site, structuralDiagnostics site "")], [], [(site, structuralDiagnostics site "[")], []] := by
  obtain ⟨⟨past, tasks, t⟩, hplay, hshown⟩ := Option.map_eq_some_iff.1 overtaken_shown
  obtain ⟨hnoted, hended⟩ := Prod.mk.inj hshown
  obtain ⟨htasks, htext⟩ := Prod.mk.inj hended
  have hconcerns : ∀ p, Move.start p ∈ overtakingMoves → Concerns site p := by
    intro p hp
    simp only [overtakingMoves, List.mem_cons, Move.start.injEq, List.not_mem_nil, or_false, reduceCtorEq] at hp
    rcases hp with rfl | rfl
    · exact .opened ""
    · exact .changed ["["]
  have htimeline : Timeline awaitingCommands [] (Concerns site) oneFolder past tasks t :=
    .of_play? .initial hconcerns hplay
  exact ⟨past, tasks, t, htimeline, by simp [show tasks = _ from htasks], htext, hnoted⟩

theorem validating_site : Validating site oneFolder.workspace :=
  ⟨rfl, fun _ hc => absurd hc List.not_mem_nil, nofun, by decide, ByFile.Ordered.nil⟩

/-- An open document whose handlers have ended has a last list, which ends with the structure of a text that was stored
    when a pass began. -/
theorem last_list_of_overtaken_site : ∃ (past : List (Moment State ByFile)) (tasks : List (Program State Unit))
    (t : State), Validating site oneFolder.workspace ∧ Table.get? oneFolder.documents site = none ∧
    Timeline awaitingCommands [] (Concerns site) oneFolder past tasks t ∧ (∀ p ∈ tasks, p = .done ()) ∧
    Table.get? t.documents site = some "[" ∧ ∃ (m : Moment State ByFile) (begun : State) (old : String)
      (ds : List Diagnostic), m ∈ past ∧ lastList? site past = some ds ∧ ByFile.get? m.noted site = some ds ∧
      Table.get? begun.documents site = some old ∧ structuralDiagnostics site old <:+ ds := by
  obtain ⟨past, tasks, t, htimeline, hdone, htext, -⟩ := site_overtaken
  obtain ⟨later, m, earlier, begun, old, ds, rfl, hlast, hds, -, -, -, hold, hends, -⟩ :=
    last_list_shows_text_of_its_pass validating_site rfl htimeline hdone htext
  exact ⟨_, tasks, t, validating_site, rfl, htimeline, hdone, htext, m, begun, old, ds, by simp, hlast, hds, hold,
    hends⟩

/-- A document that no folder serves. -/
def draft : Url := { scheme := "untitled", path := "draft" }

/-- A pass over a document that a folder serves shows the structure of a text that is no longer stored, when it was
    overtaken; so what it shows does not end with the structure of the text of now unless that of the older text does.
    And for a document that no folder serves nothing is published at all. -/
theorem overtaken_pass_shows_older_text :
    (∃ (past : List (Moment State ByFile)) (tasks : List (Program State Unit)) (t : State),
      Timeline awaitingCommands [] (Concerns site) oneFolder past tasks t ∧ (∀ p ∈ tasks, p = .done ()) ∧
      Table.get? t.documents site = some "[" ∧ lastList? site past = some (structuralDiagnostics site "")) ∧
    -- the tables of the parser, which finds the fault of the bracket, are too large to be computed in a proof
    (¬ structuralDiagnostics site "[" <:+ structuralDiagnostics site "" →
      ¬ ∀ (doc : Url) (s : State) (past : List (Moment State ByFile)) (tasks : List (Program State Unit)) (t : State)
          (text : String), Validating doc s.workspace → Table.get? s.documents doc = none →
        Timeline awaitingCommands [] (Concerns doc) s past tasks t → (∀ p ∈ tasks, p = .done ()) →
        Table.get? t.documents doc = some text →
        ∃ ds, lastList? doc past = some ds ∧ structuralDiagnostics doc text <:+ ds) ∧
    ¬ ∀ (doc : Url) (s : State) (past : List (Moment State ByFile)) (tasks : List (Program State Unit)) (t : State)
        (text : String), s.workspace.settings.validation.enabled = true → s.workspace.contexts = [] →
      Table.get? s.documents doc = none → Timeline awaitingCommands [] (Concerns doc) s past tasks t →
      (∀ p ∈ tasks, p = .done ()) → Table.get? t.documents doc = some text →
      ∃ ds, lastList? doc past = some ds ∧ structuralDiagnostics doc text <:+ ds := by
  obtain ⟨past, tasks, t, htimeline, hdone, htext, hnoted⟩ := site_overtaken
  have hlast : lastList? site past = some (structuralDiagnostics site "") := by
    rw [lastList?, List.flatMap_def, hnoted]
    rfl
  refine ⟨⟨past, tasks, t, htimeline, hdone, htext, hlast⟩, fun hfaulty hclaim => ?served, fun hclaim => ?unserved⟩
  case served =>
      obtain ⟨ds, hds, hends⟩ := hclaim site oneFolder past tasks t "[" validating_site rfl htimeline hdone htext
      cases hlast.symm.trans hds
      exact hfaulty hends
  case unserved =>
      have hrun : Timeline awaitingCommands [] (Concerns draft) {} _ _ _ := .start .initial (Concerns.opened "[")
        (advances_advance awaitingCommands quietAnswer (handleOpen ⟨draft, "["⟩) {} [])
      have hdone : ∀ p ∈ [] ++ [(advance awaitingCommands quietAnswer (handleOpen ⟨draft, "["⟩) {} []).1],
          p = .done () := fun p hp => List.mem_singleton.1 hp
      obtain ⟨ds, hds, -⟩ := hclaim draft {} _ _ _ "[" rfl rfl rfl hrun hdone rfl
      cases hds

end Server

end PlaybookServer

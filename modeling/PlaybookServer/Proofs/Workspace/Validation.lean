/-
Module: PlaybookServer.Proofs.Workspace.Validation
Purpose: What validation answers and what it keeps, over histories of full and quick passes. A full pass keeps what
  the tools found and nothing of the document's structure; a quick pass runs nothing and answers with what the last
  full pass of the document kept; the structure that is added is always that of the text at hand. The answer has an
  entry for the document in any case.
Main exports: ToolsFound, completes_fullPass, Event, lastKept, History, validation_answers
-/
import PlaybookServer.Proofs.Container.SetUp
import PlaybookServer.Proofs.Diagnostic.Ledger
import PlaybookServer.Proofs.Lint.Findings
import PlaybookServer.Proofs.Workspace.FullPass
import PlaybookServer.Workspace.State

namespace PlaybookServer

open Effect

namespace Workspace

open Tool Lint

/-! ### A full pass -/

/-- The runner of a folder's commands, as things stand. -/
def Context.runnerNow (c : Context) : Runner :=
  { settings := c.settings
    root := c.root
    host := c.host
    environment := if c.settings.environment.enabled then c.environment.value?.join else none }

/-- What is said to have the tools look at a document, and what they find. A linter that is missing finds nothing; a
    linter that is turned off leaves playbooks to the syntax check. First the container environment is set up, if it
    is asked for. -/
inductive ToolsFound (r : Runner) (configs : ConfigCache) (doc : Url) (text : String) :
    List Exchange → ByFile → Prop where
  | missing (setting looking telling : List Exchange) (henabled : r.settings.validation.lint.enabled = true)
      (hsetting : r.usesEnvironment = false → setting = [])
      (hlooking : Located r r.settings.validation.lint.path looking none) (htelling : commandLines telling = []) :
      ToolsFound r configs doc text (setting ++ (looking ++ telling)) []
  | linted (setting looking linting : List Exchange) (place : String) (found : ByFile)
      (henabled : r.settings.validation.lint.enabled = true) (hsetting : r.usesEnvironment = false → setting = [])
      (hlooking : Located r r.settings.validation.lint.path looking (some place))
      (hlinting : Linted r r.settings.validation.lint configs doc linting found) :
      ToolsFound r configs doc text (setting ++ (looking ++ linting)) found
  | checked (setting checking : List Exchange) (found : ByFile)
      (hdisabled : r.settings.validation.lint.enabled = false) (hsetting : r.usesEnvironment = false → setting = [])
      (hplaybook : Playbook.isPlaybook text = true) (hchecking : Checked r doc checking found) :
      ToolsFound r configs doc text (setting ++ checking) found
  | unchecked (setting : List Exchange) (hdisabled : r.settings.validation.lint.enabled = false)
      (hsetting : r.usesEnvironment = false → setting = []) (hplaybook : Playbook.isPlaybook text = false) :
      ToolsFound r configs doc text setting []

theorem completes_runner {c : Context} (hidle : c.environment.isBuilding = false) :
    runner.Completes (fun said r c' => ∃ d : Deferred (Option Container.Environment),
      c' = { c with environment := d } ∧ d.isBuilding = false ∧ r = c'.runnerNow ∧
        (r.usesEnvironment = false → said = [])) c := by
  have hpart (c : Context) :
      Program.PartOf (fun c : Context => c.environment) (fun d c => { c with environment := d }) c :=
    ⟨fun _ => rfl, fun _ _ => rfl, rfl⟩
  unfold runner
  by_cases henabled : c.settings.environment.enabled = true
  · have hhad : executionEnvironment.Completes (fun said v c' => ∃ d : Deferred (Option Container.Environment),
        c' = { c with environment := d } ∧ d.isBuilding = false ∧ d.value? = some v) c := by
      unfold executionEnvironment
      refine (completes_look _ c).bind ?_
      rintro said settings c' ⟨rfl, rfl, rfl⟩
      rw [henabled]
      refine (completes_getOrBuild hpart hidle (converses_setUpEnvironment c'.settings)).mono ?_
      rintro said v c'' ⟨d, hc, hd, hv, -⟩
      exact ⟨d, hc, hd, hv⟩
    refine hhad.bind ?_
    rintro said v c' ⟨d, rfl, hd, hv⟩
    refine ⟨d, rfl, hd, ?_, ?_⟩
    · simp [Context.runnerNow, henabled, hv, Context.root]
    · intro huses
      rw [Runner.usesEnvironment, henabled] at huses
      exact absurd huses (by decide)
  · have hhad : executionEnvironment.Completes (fun said v c' => said = [] ∧ v = none ∧ c' = c) c := by
      unfold executionEnvironment
      refine (completes_look _ c).bind ?_
      rintro said settings c' ⟨rfl, rfl, rfl⟩
      rw [if_pos (by simpa using henabled)]
      exact ⟨rfl, rfl, rfl⟩
    refine hhad.bind ?_
    rintro said v c' ⟨rfl, rfl, rfl⟩
    refine ⟨c'.environment, rfl, hidle, ?_, fun _ => rfl⟩
    simp [Context.runnerNow, henabled, Context.root]

theorem completes_checkPlaybook {r : Runner} (configs : ConfigCache) {doc : Url} {text : String}
    {setting : List Exchange} (hdisabled : r.settings.validation.lint.enabled = false)
    (hsetting : r.usesEnvironment = false → setting = []) (c : Context) :
    (checkPlaybook r doc text).Completes
      (fun said found c' => ToolsFound r configs doc text (setting ++ said) found ∧ c' = c) c := by
  unfold checkPlaybook
  split
  next hplaybook =>
      show ToolsFound r configs doc text (setting ++ []) [] ∧ c = c
      rw [List.append_nil]
      exact ⟨.unchecked setting hdisabled hsetting (by simpa using hplaybook), rfl⟩
  next hplaybook =>
      have hplaybook : Playbook.isPlaybook text = true := by simpa using hplaybook
      refine ((converses_syntaxCheck r doc).completes c).bind ?_
      rintro checking v c' ⟨hchecking, rfl⟩
      have hfound : ToolsFound r configs doc text (setting ++ checking) (v.toOption.getD []) :=
        .checked setting checking _ hdisabled hsetting hplaybook hchecking
      rw [← List.append_nil checking] at hfound
      cases v with
      | ok found => exact ⟨hfound, rfl⟩
      | error f => exact ⟨hfound, rfl⟩

theorem completes_reportMissing (tool : String) (c : Context) :
    (reportMissing tool).Completes
      (fun said _ c' => commandLines said = [] ∧ ∃ l, c' = { c with lint := l }) c := by
  refine (completes_changing _ c).bind ?_
  rintro said shown c' ⟨rfl, rfl, rfl⟩
  split
  next => exact ⟨rfl, _, rfl⟩
  next => exact fun _ => ⟨rfl, _, rfl⟩

theorem completes_runLint (r : Runner) (settings : LintSettings) (doc : Url) (c : Context) :
    (runLint r settings doc).Completes (fun said v c' =>
      Linted r settings c.lint.configs doc said (v.toOption.getD []) ∧ ∃ l, c' = { c with lint := l }) c := by
  have hpart : Program.PartOf (fun c : Context => c.lint) (fun l c => { c with lint := l }) c :=
    ⟨fun _ => rfl, fun _ _ => rfl, rfl⟩
  refine (Program.Completes.zoom hpart (completes_lint r settings doc c.lint)).mono ?_
  rintro said v c' ⟨l, rfl, hlinted⟩
  exact ⟨hlinted, l, rfl⟩

/-- A full pass finds what the tools find, and changes nothing of the folder but its container environment and what
    the linter keeps. -/
theorem completes_fullPass {c : Context} (hidle : c.environment.isBuilding = false) (doc : Url) (text : String) :
    (fullPass doc text).Completes (fun said found c' =>
      (∃ (d : Deferred (Option Container.Environment)) (l : LintState),
        c' = { c with environment := d, lint := l } ∧ d.isBuilding = false) ∧
      ToolsFound c'.runnerNow c.lint.configs doc text said found) c := by
  unfold fullPass
  refine (completes_look _ c).bind ?_
  rintro said settings c ⟨rfl, rfl, rfl⟩
  refine (completes_runner hidle).bind ?_
  rintro setting r c' ⟨d, rfl, hd, rfl, hsetting⟩
  split
  next hdisabled =>
      have hdisabled : c.settings.validation.lint.enabled = false := by simpa using hdisabled
      refine (completes_checkPlaybook c.lint.configs hdisabled hsetting _).mono ?_
      rintro said found c' ⟨hfound, rfl⟩
      exact ⟨⟨d, _, rfl, hd⟩, hfound⟩
  next henabled =>
      have henabled : c.settings.validation.lint.enabled = true := by simpa using henabled
      refine ((converses_runner_locate _ _).completes _).bind ?_
      rintro looking place c' ⟨hlooking, rfl⟩
      cases place with
      | none =>
          refine (completes_reportMissing _ _).bind ?_
          rintro telling _ c' ⟨htelling, l, rfl⟩
          refine ⟨⟨d, l, rfl, hd⟩, ?_⟩
          rw [List.append_nil]
          exact .missing setting looking telling henabled hsetting hlooking htelling
      | some place =>
          refine (completes_runLint _ _ doc _).bind ?_
          rintro linting v c' ⟨hlinting, l, rfl⟩
          cases v with
          | ok found =>
              refine ⟨⟨d, l, rfl, hd⟩, ?_⟩
              rw [List.append_nil]
              exact .linted setting looking linting place found henabled hsetting hlooking hlinting
          | error f =>
              -- the user is told of the fault after all else
              intro _
              refine ⟨⟨d, l, rfl, hd⟩, ?_⟩
              exact .linted setting looking (linting ++ [⟨.showError f.text, ()⟩]) place [] henabled hsetting hlooking
                (hlinting.append rfl)

theorem reportFindings_ordered (list : WarnList) (root : String) (result : Except ExecFault CommandOutput) :
    (reportFindings list root result).Ordered := by
  rcases result with f | o
  · exact ByFile.Ordered.nil
  · rw [reportFindings]
    split
    next =>
        cases hparse : parseReport o.stdout list root with
        | ok found => exact parseReport_ordered hparse
        | error e => exact ByFile.Ordered.nil
    next => exact ByFile.Ordered.nil

theorem syntaxFindings_ordered (doc : Url) (root : String) (result : Except ExecFault CommandOutput) :
    (syntaxFindings doc root result).Ordered := by
  rcases result with f | o
  · exact ByFile.Ordered.nil
  · rw [syntaxFindings]
    split
    next => exact ByFile.Ordered.nil
    next => exact ByFile.Ordered.single _ _

theorem ToolsFound.ordered {r : Runner} {configs : ConfigCache} {doc : Url} {text : String} {said : List Exchange}
    {found : ByFile} (h : ToolsFound r configs doc text said found) : found.Ordered := by
  cases h with
  | missing => exact ByFile.Ordered.nil
  | linted setting looking linting place found henabled hsetting hlooking hlinting =>
      obtain ⟨fs, config, list, opening, running, closing, result⟩ := hlinting
      exact reportFindings_ordered list r.root result
  | checked setting checking found hdisabled hsetting hplaybook hchecking =>
      cases hchecking
      exact syntaxFindings_ordered doc r.root _
  | unchecked => exact ByFile.Ordered.nil

/-! ### Validation -/

theorem partOf_context {s : State} {n : Nat} (hn : n < s.contexts.length) :
    Program.PartOf (fun s : State => s.context n) (State.putContext n) s where
  get_put c := by simp [State.context, State.putContext, hn]
  put_put c c' := by simp [State.putContext, List.set_set]
  put_get := by simp [State.context, State.putContext, hn]

section Passes

variable {s : State} {n : Nat}

theorem completes_disabled (henabled : (s.context n).settings.validation.enabled = false) (doc : Url) (text : String)
    (quick : Bool) : (validate n doc text quick).Completes
      (fun said result s' => said = [] ∧ result = [(doc, [])] ∧ s' = s) s := by
  refine (completes_look _ s).bind ?_
  rintro said settings s' ⟨rfl, rfl, rfl⟩
  rw [henabled]
  exact ⟨rfl, rfl, rfl⟩

theorem completes_quickPass (henabled : (s.context n).settings.validation.enabled = true) (doc : Url)
    (text : String) : (validate n doc text true).Completes (fun said result s' => said = [] ∧
      result = (s.ledger.cached doc).add doc (structuralDiagnostics doc text) ∧ s' = s) s := by
  refine (completes_look _ s).bind ?_
  rintro said settings s' ⟨rfl, rfl, rfl⟩
  rw [henabled]
  exact ⟨rfl, rfl, rfl⟩

/-- A full pass keeps what the tools found, with an entry for the document, and answers with it and the structure. Of
    the folder it changes the container environment and what the linter keeps. -/
theorem completes_fullValidation_parts (hn : n < s.contexts.length)
    (henabled : (s.context n).settings.validation.enabled = true)
    (hidle : (s.context n).environment.isBuilding = false) (doc : Url) (text : String) :
    (validate n doc text false).Completes (fun said result s' =>
      ∃ (d : Deferred (Option Container.Environment)) (l : LintState) (found : ByFile), d.isBuilding = false ∧
        s' = { State.putContext n { s.context n with environment := d, lint := l } s with
          ledger := s.ledger.store doc (found.add doc []) } ∧
        ToolsFound { s.context n with environment := d, lint := l }.runnerNow (s.context n).lint.configs doc text
          said found ∧
        result = (found.add doc []).add doc (structuralDiagnostics doc text)) s := by
  refine (completes_look _ s).bind ?_
  rintro said settings s ⟨rfl, rfl, rfl⟩
  rw [henabled]
  refine (Program.Completes.zoom (partOf_context hn) (completes_fullPass hidle doc text)).bind ?_
  rintro said found s' ⟨c, rfl, ⟨d, l, rfl, hd⟩, hfound⟩
  exact ⟨d, l, found, hd, rfl, by simpa using hfound, rfl⟩

theorem completes_fullValidation (hn : n < s.contexts.length)
    (henabled : (s.context n).settings.validation.enabled = true)
    (hidle : (s.context n).environment.isBuilding = false) (doc : Url) (text : String) :
    (validate n doc text false).Completes (fun said result s' => ∃ (c : Context) (found : ByFile),
      c.settings = (s.context n).settings ∧ c.environment.isBuilding = false ∧
      s' = { State.putContext n c s with ledger := s.ledger.store doc (found.add doc []) } ∧
      ToolsFound c.runnerNow (s.context n).lint.configs doc text said found ∧
      result = (found.add doc []).add doc (structuralDiagnostics doc text)) s := by
  refine (completes_fullValidation_parts hn henabled hidle doc text).mono ?_
  rintro said result s' ⟨d, l, found, hd, hs, hfound, hresult⟩
  exact ⟨{ s.context n with environment := d, lint := l }, found, rfl, hd, hs, hfound, hresult⟩

end Passes

/-! ### Histories -/

/-- What happens to the results that are kept: a full pass of a document keeps some, and a document is forgotten. -/
inductive Event where
  | kept (doc : Url) (results : ByFile)
  | forgotten (doc : Url)

/-- What the last full pass of a document kept, unless the document was forgotten since. Later events stand first. -/
def lastKept (doc : Url) : List Event → ByFile
  | [] => []
  | .kept o results :: before => if o = doc then results else lastKept doc before
  | .forgotten o :: before => if o = doc then [] else lastKept doc before

/-- Nobody sets a container environment up. -/
def State.Idle (s : State) : Prop := ∀ c ∈ s.contexts, c.environment.isBuilding = false

/-- How a workspace comes to a state in a world, one call after another: passes over documents, documents forgotten, and
    whatever else leaves the kept results as they are, such as new settings or another context. -/
inductive History {ω : Type} (answer : (q : Query) → ω → q.Answer × ω) : List Event → State → ω → Prop where
  | start (s : State) (w : ω) (hnew : s.ledger.results = []) (hidle : s.Idle) : History answer [] s w
  | fullPass {events : List Event} {s : State} {w : ω} (h : History answer events s w) {n : Nat} {doc : Url}
      {text : String} {result : ByFile} {s' : State} {w' : ω} {said : List Exchange} (hn : n < s.contexts.length)
      (henabled : (s.context n).settings.validation.enabled = true)
      (hrun : (validate n doc text false).run (recording answer) s (w, []) = .finished result s' (w', said)) :
      History answer (.kept doc (s'.ledger.cached doc) :: events) s' w'
  | otherPass {events : List Event} {s : State} {w : ω} (h : History answer events s w) {n : Nat} {doc : Url}
      {text : String} {quick : Bool} {result : ByFile} {s' : State} {w' : ω} {said : List Exchange}
      (hother : (s.context n).settings.validation.enabled = true → quick = true)
      (hrun : (validate n doc text quick).run (recording answer) s (w, []) = .finished result s' (w', said)) :
      History answer events s' w'
  | forget {events : List Event} {s : State} {w : ω} (h : History answer events s w) (doc : Url) :
      History answer (.forgotten doc :: events) { s with ledger := (s.ledger.release doc).2 } w
  | other {events : List Event} {s : State} {w : ω} (h : History answer events s w) (s' : State) (w' : ω)
      (hkept : s'.ledger.results = s.ledger.results) (hidle : s'.Idle) : History answer events s' w'

theorem State.context_mem {s : State} {n : Nat} (hn : n < s.contexts.length) : s.context n ∈ s.contexts := by
  rw [State.context, List.getD_eq_getElem?_getD, List.getElem?_eq_getElem hn, Option.getD_some]
  exact List.getElem_mem hn

theorem State.Idle.context {s : State} (h : s.Idle) {n : Nat} (hn : n < s.contexts.length) :
    (s.context n).environment.isBuilding = false :=
  h _ (State.context_mem hn)

theorem State.Idle.putContext {s : State} (h : s.Idle) {n : Nat} {c : Context}
    (hc : c.environment.isBuilding = false) : (State.putContext n c s).Idle := by
  intro c' hc'
  rcases List.mem_or_eq_of_mem_set hc' with hmem | rfl
  · exact h c' hmem
  · exact hc

theorem cached_store (l : Ledger) (doc o : Url) (m : ByFile) :
    (l.store doc m).cached o = if o = doc then m else l.cached o := by
  rw [Ledger.cached, Ledger.store, Table.get?_set]
  split <;> rfl

theorem cached_release (l : Ledger) (doc o : Url) :
    (l.release doc).2.cached o = if o = doc then [] else l.cached o := by
  rw [Ledger.cached, Ledger.release_results, Table.get?_erase]
  split <;> rfl

/-- The results kept for a document are those of its last full pass, in order. -/
structure Keeps (events : List Event) (s : State) : Prop where
  idle : s.Idle
  cached : ∀ o, s.ledger.cached o = lastKept o events
  ordered : ∀ o, (s.ledger.cached o).Ordered

theorem History.keeps {ω : Type} {answer : (q : Query) → ω → q.Answer × ω} {events : List Event} {s : State} {w : ω}
    (h : History answer events s w) : Keeps events s := by
  induction h with
  | start s w hnew hidle =>
      have hcached (o : Url) : s.ledger.cached o = [] := by rw [Ledger.cached, hnew]; rfl
      exact ⟨hidle, hcached, fun o => by rw [hcached]; exact ByFile.Ordered.nil⟩
  | @fullPass events s w h n doc text result s' w' said hn henabled hrun ih =>
      obtain ⟨c, found, -, hidle, rfl, hfound, -⟩ :=
        (completes_fullValidation hn henabled (ih.idle.context hn) doc text).of_run hrun
      refine ⟨ih.idle.putContext hidle, fun o => ?_, fun o => ?_⟩
      · simp only [cached_store, lastKept, if_true, eq_comm (a := doc), ih.cached]
      · simp only [cached_store]
        split
        next => exact hfound.ordered.add doc []
        next => exact ih.ordered o
  | @otherPass events s w h n doc text quick result s' w' said hother hrun ih =>
      cases henabled : (s.context n).settings.validation.enabled with
      | false =>
          obtain ⟨-, -, rfl⟩ := (completes_disabled henabled doc text quick).of_run hrun
          exact ih
      | true =>
          rw [hother henabled] at hrun
          obtain ⟨-, -, rfl⟩ := (completes_quickPass henabled doc text).of_run hrun
          exact ih
  | @forget events s w h doc ih =>
      refine ⟨ih.idle, fun o => ?_, fun o => ?_⟩
      · simp only [cached_release, lastKept, eq_comm (a := doc), ih.cached]
      · simp only [cached_release]
        split
        next => exact ByFile.Ordered.nil
        next => exact ih.ordered o
  | @other events s w h s' w' hkept hidle ih =>
      have hcached (o : Url) : s'.ledger.cached o = s.ledger.cached o := by
        rw [Ledger.cached, Ledger.cached, hkept]
      exact ⟨hidle, fun o => (hcached o).trans (ih.cached o), fun o => hcached o ▸ ih.ordered o⟩

/-- After any history a pass over a document comes to its end. Where validation is off it says that there is nothing,
    runs nothing and keeps all as it is. A quick pass does neither; a full pass has the tools look, and what is kept
    of the document then is what they found with an entry for the document. What a pass answers is what is kept of the
    document, with the structure of the given text added to the document's own diagnostics. -/
theorem validation_answers {ω : Type} {answer : (q : Query) → ω → q.Answer × ω} {events : List Event} {s : State}
    {w : ω} (h : History answer events s w) {n : Nat} (hn : n < s.contexts.length) (doc : Url) (text : String)
    (quick : Bool) : ∃ (result : ByFile) (s' : State) (w' : ω) (said : List Exchange),
      (validate n doc text quick).run (recording answer) s (w, []) = .finished result s' (w', said) ∧
      doc ∈ result.files ∧
      ((s.context n).settings.validation.enabled = false → result = [(doc, [])] ∧ said = [] ∧ s' = s) ∧
      ((s.context n).settings.validation.enabled = true →
        (quick = true → s'.ledger.cached doc = lastKept doc events ∧ said = [] ∧ s' = s) ∧
        (quick = false → ∃ found,
          ToolsFound (s'.context n).runnerNow (s.context n).lint.configs doc text said found ∧
          (s'.context n).settings = (s.context n).settings ∧ s'.ledger.cached doc = found.add doc [] ∧
          ∀ o, o ≠ doc → s'.ledger.cached o = lastKept o events) ∧
        result = (s'.ledger.cached doc).add doc (structuralDiagnostics doc text) ∧
        ∀ v, result.get? v = if v = doc then
            some (((s'.ledger.cached doc).get? doc).getD [] ++ structuralDiagnostics doc text)
          else (s'.ledger.cached doc).get? v) := by
  have hkeeps := h.keeps
  cases henabled : (s.context n).settings.validation.enabled with
  | false =>
      obtain ⟨result, s', w', said, hrun, rfl, rfl, rfl⟩ := (completes_disabled henabled doc text quick).run answer w []
      exact ⟨_, _, w', _, hrun, List.mem_singleton_self doc, fun _ => ⟨rfl, rfl, rfl⟩, nofun⟩
  | true =>
      cases quick with
      | true =>
          obtain ⟨result, s', w', said, hrun, rfl, rfl, rfl⟩ := (completes_quickPass henabled doc text).run answer w []
          refine ⟨_, s', w', _, hrun, (ByFile.mem_files_alter _ _ _ _).2 (.inl rfl), nofun,
            fun _ => ⟨?_, nofun, rfl, ?_⟩⟩
          · exact fun _ => ⟨hkeeps.cached doc, rfl, rfl⟩
          · exact fun v => (hkeeps.ordered doc).get?_add doc v _
      | false =>
          obtain ⟨result, s', w', said, hrun, c, found, hsettings, hidle, rfl, hfound, rfl⟩ :=
            (completes_fullValidation hn henabled (hkeeps.idle.context hn) doc text).run answer w []
          have hcontext : (State.putContext n c s).context n = c := (partOf_context hn).get_put c
          have hcached : (s.ledger.store doc (found.add doc [])).cached doc = found.add doc [] := by
            rw [cached_store, if_pos rfl]
          refine ⟨_, _, w', _, hrun, (ByFile.mem_files_alter _ _ _ _).2 (.inl rfl), nofun,
            fun _ => ⟨nofun, fun _ => ⟨found, ?_, ?_, hcached, fun o ho => ?_⟩, ?_, fun v => ?_⟩⟩
          · exact hcontext.symm ▸ hfound
          · exact hcontext.symm ▸ hsettings
          · show (s.ledger.store doc (found.add doc [])).cached o = lastKept o events
            rw [cached_store, if_neg ho, hkeeps.cached o]
          · exact (congrArg (ByFile.add · doc _) hcached).symm
          · show ((found.add doc []).add doc _).get? v = _
            rw [(hfound.ordered.add doc []).get?_add doc v]
            exact hcached.symm ▸ rfl

/-- A workspace with one folder, whose linter is turned off. -/
def oneFolder : State :=
  { contexts := [{ folder := default, host := {}, settings := { validation := { lint := { enabled := false } } } }] }

/-- A document of the folder. -/
def siteDoc : Url := { scheme := "file", path := "/site.yml" }

/-- After a full pass over an empty text a quick pass answers with the structure of its own text alone. -/
theorem quick_pass_answers_after_empty_text : ∃ (events : List Event) (s : State) (w : Unit),
    History silentWorld events s w ∧ 0 < s.contexts.length ∧ (s.context 0).settings.validation.enabled = true ∧
    events = [.kept siteDoc [(siteDoc, [])]] ∧ ∃ (result : ByFile) (s' : State) (w' : Unit) (said : List Exchange),
      (validate 0 siteDoc "- hosts: all" true).run (recording silentWorld) s (w, []) =
        .finished result s' (w', said) ∧
      said = [] ∧ s' = s ∧ result = [(siteDoc, structuralDiagnostics siteDoc "- hosts: all")] := by
  have hidle : oneFolder.Idle := by simp [State.Idle, oneFolder, Deferred.isBuilding]
  obtain ⟨result, s, w, said, hrun, c, found, hsettings, -, rfl, hfound, -⟩ :=
    (completes_fullValidation (s := oneFolder) (n := 0) (by decide) rfl rfl siteDoc "").run silentWorld () []
  -- what is no playbook is not checked
  have hnone : found = [] := by
    have hdisabled : c.runnerNow.settings.validation.lint.enabled = false :=
      congrArg (fun s : Settings => s.validation.lint.enabled) hsettings
    cases hfound with
    | missing setting looking telling henabled => exact absurd (hdisabled.symm.trans henabled) (by decide)
    | linted setting looking linting place found henabled => exact absurd (hdisabled.symm.trans henabled) (by decide)
    | checked setting checking found _ _ hplaybook => exact absurd hplaybook (by decide)
    | unchecked => rfl
  subst hnone
  have hhistory := History.fullPass (.start oneFolder () rfl hidle) (by decide) rfl hrun
  have hthere : 0 < (State.putContext 0 c oneFolder).contexts.length := by simp [State.putContext, oneFolder]
  have henabled : ((State.putContext 0 c oneFolder).context 0).settings.validation.enabled = true :=
    congrArg (fun s : Settings => s.validation.enabled) hsettings
  have hkept : (oneFolder.ledger.store siteDoc (ByFile.add [] siteDoc [])).cached siteDoc = [(siteDoc, [])] := by
    rw [cached_store, if_pos rfl]
    rfl
  obtain ⟨result', s', w', said', hrun', -, -, hanswer⟩ :=
    validation_answers hhistory hthere siteDoc "- hosts: all" true
  obtain ⟨hquick, -, hresult, -⟩ := hanswer henabled
  obtain ⟨hcached, hsaid, hsame⟩ := hquick rfl
  refine ⟨_, _, w, hhistory, hthere, henabled, by rw [hkept], result', s', w', said', hrun', hsaid, hsame, ?_⟩
  rw [hresult, hsame, hkept, ByFile.add, ByFile.alter, if_pos rfl, List.nil_append]

end Workspace

end PlaybookServer
